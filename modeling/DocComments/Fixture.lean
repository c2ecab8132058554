/-
  Fixtures: a source text together with what reading it must give.

  Everything expected is optional.  What is left out is not looked at, which is not the same as
  expecting nothing: an empty list of entries demands an empty log.

  The settings come from TOML (`ofToml`).  Keys without a meaning here are passed over, but a key
  with a value of the wrong kind makes the whole fixture malformed.  Wherever a fixture is read, the
  reader of its settings is left open (`SettingsReader`).
-/
import DocComments.Fixture.FrontMatter
import DocComments.Toml.Document

namespace DocComments

/-- What one log entry must be like: its message holds a text, and it points to a line. -/
structure ExpectedEntry where
  contains : String
  line : Option Nat := none
deriving Repr, DecidableEq, Inhabited

/-- How to read a source text, and what must come of it. -/
structure Fixture.Settings where
  description : Option String := none
  /-- The name that the source is read under. -/
  sourceName : String := "input.scad"
  strict : Bool := false
  /-- The sorted names of all items. -/
  items : Option (List String) := none
  /-- The log, entry by entry. -/
  entries : Option (List ExpectedEntry) := none
  /-- The indented tree, blanks around it aside. -/
  tree : Option String := none
deriving Repr, DecidableEq, Inhabited

/-- A source text with its settings. -/
structure Fixture extends Fixture.Settings where
  source : String := ""
deriving Repr, DecidableEq, Inhabited

namespace Fixture

open Toml (Value Entries)

/-! ## Reading values of one kind -/

/-- The text of a string. -/
def string? : Value → Option String
  | .string s => some s
  | _ => none

/-- The truth value of a boolean. -/
def boolean? : Value → Option Bool
  | .boolean b => some b
  | _ => none

/-- The number of an integer that is not negative. -/
def natural? : Value → Option Nat
  | .integer n => if 0 ≤ n then some n.toNat else none
  | _ => none

/-- The items of an array; an array of tables is one too. -/
def items? : Value → Option (List Value)
  | .array items => some items
  | .tables elements => some (elements.map (.table .header))
  | _ => none

/-- The value of a key, `none` when the key is missing; a value of the wrong kind fails. -/
def optional {α : Type} (read : Value → Option α) (entries : Entries) (key : String) :
    Option (Option α) :=
  match entries.lookup key with
  | none => some none
  | some value => (read value).map some

/-- An expected entry: a table with the keys `contains` and `line`, or an array that starts with
    the values of these. -/
def expectedEntry? : Value → Option ExpectedEntry
  | .table _ entries => do
    let contains ← string? (← entries.lookup "contains")
    let line ← optional natural? entries "line"
    some { contains, line }
  | .array [contains] => do some { contains := ← string? contains }
  | .array (contains :: line :: _) => do
    some { contains := ← string? contains, line := some (← natural? line) }
  | _ => none

/-! ## Reading a fixture -/

/-- The settings that a table holds. -/
def Settings.ofTable? (table : Entries) : Option Settings := do
  let description ← optional string? table "description"
  let sourceName ← optional string? table "source_name"
  let strict ← optional boolean? table "strict"
  let items ← optional (fun value => do (← items? value).mapM string?) table "expect_items"
  let entries ←
    optional (fun value => do (← items? value).mapM expectedEntry?) table "expect_errors"
  let tree ← optional string? table "expect_tree"
  some
    { description, items, entries, tree
      sourceName := sourceName.getD "input.scad"
      strict := strict.getD false }

/-- A reader of settings: what their text says, unless it cannot be read. -/
abbrev SettingsReader := String → Option Settings

/-- The reader of settings that are written in TOML. -/
def ofToml : SettingsReader := fun text => (Toml.read? text).bind Settings.ofTable?

/-- Read a fixture, the settings with a given reader. -/
def ofText (text : String) (reader : SettingsReader := ofToml) :
    Except FrontMatter.Defect Fixture :=
  match FrontMatter.split text.toList with
  | .error defect => .error defect
  | .ok (settings, source) =>
    match reader (String.ofList settings) with
    | none => .error .badSettings
    | some settings => .ok { settings with source := String.ofList source }

end Fixture

end DocComments
