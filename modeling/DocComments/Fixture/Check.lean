/-
  Holding a fixture against what reading its source gives.

  The log is compared first, then the names, then the tree; the first difference is reported.  The
  log is compared entry by entry, and only when it has the expected number of them, so that no entry
  goes unlooked at.
-/
import DocComments.Fixture
import DocComments.Session

namespace DocComments

/-- A difference between what a fixture expects and what came of it. -/
inductive Mismatch where
  | entryCount (expected : Nat) (actual : List LogEntry)
  | entryText (index : Nat) (expected : String) (actual : LogEntry)
  | entryLine (index expected actual : Nat)
  | items (expected actual : List String)
  | tree (expected actual : String)
deriving Repr, DecidableEq, Inhabited

/-- The text of a difference. -/
def Mismatch.message : Mismatch → String
  | .entryCount expected actual =>
    s!"expected {expected} log entr(ies), got {actual.length}\n  actual entries:\n"
      ++ if actual.isEmpty then "    (none)"
        else "\n".intercalate (actual.map fun entry => "  - " ++ entry.text)
  | .entryText index expected actual =>
    s!"entry[{index}]: expected message containing \"" ++ expected ++ "\", got: " ++ actual.text
  | .entryLine index expected actual =>
    s!"entry[{index}]: expected on line {expected}, but reported on line {actual}"
  | .items expected actual =>
    "item mismatch\n  expected: " ++ ", ".intercalate expected
      ++ "\n  actual:   " ++ ", ".intercalate actual
  | .tree expected actual =>
    "tree mismatch\n  expected:\n" ++ Text.indent expected
      ++ "\n  actual:\n" ++ Text.indent actual

/-- The first difference of one entry from what is expected of it. -/
def ExpectedEntry.mismatch? (expected : ExpectedEntry) (actual : LogEntry) (index : Nat) :
    Option Mismatch :=
  if !Text.contains actual.message expected.contains then
    some (.entryText index expected.contains actual)
  else match expected.line with
    | none => none
    | some line =>
      if actual.origin.line = line then none else some (.entryLine index line actual.origin.line)

/-- The first difference of a log from the entries that are expected. -/
def entriesMismatch? (expected : List ExpectedEntry) (actual : List LogEntry) : Option Mismatch :=
  if actual.length = expected.length then
    (expected.zip actual).zipIdx.findSome? fun ((expected, actual), index) =>
      expected.mismatch? actual index
  else some (.entryCount expected.length actual)

namespace Fixture

/-- The session that has read the source. -/
def session (fixture : Fixture) : Session :=
  ((Session.start { strict := fixture.strict }).readText fixture.source fixture.sourceName).1

/-- The first difference from what is expected; `none` means that the fixture passes. -/
def mismatch? (fixture : Fixture) : Option Mismatch :=
  let s := fixture.session
  let log := fixture.entries.bind fun expected => entriesMismatch? expected s.log.entries
  let items := fixture.items.bind fun expected =>
    if s.index.sorted = expected then none else some (.items expected s.index.sorted)
  let tree := fixture.tree.bind fun expected =>
    if Text.strip s.tree = Text.strip expected then none
    else some (.tree (Text.strip expected) (Text.strip s.tree))
  log <|> items <|> tree

end Fixture

end DocComments
