/-
  Whole runs, checked.

  `Checked.run` reads any sequence of calls with every cut of a text and every node looked up, and
  fails when one of them does.  It never fails, and ends in the session that the calls lead to
  (`Checked.run_eq`).  The invariant that carries it through a unit is `Walk.Safe`, and from unit to
  unit it is the agreement of the index with the items, which every reachable session has.
-/
import DocComments.Proofs.Calls
import DocComments.Proofs.CheckedHandlers

namespace DocComments.Checked

open Walk

/-! ## A block -/

/-- Leave the item open, or close it. -/
def closeUnless (stay : Bool) (w : Walk) : Option Walk := if stay then some w else closeItem w

/-- Go on to the next header, or to the end. -/
def skipLines (w : Walk) (line : Nat) : List String → Option (Walk × Nat × List String)
  | [] => (closeItem w).map fun w => (w, line, [])
  | text :: rest => do
    let w ← closeUnless (Body.isComment text) w
    if Header.isHeader text then some (w, line, text :: rest) else skipLines w (line + 1) rest

/-- Read the next block: cut out its header and its body, and handle it. -/
def readBlock (w : Walk) (file : String) (line : Nat) (lines : List String) :
    Option (Walk × Nat × List String) := do
  match ← skipLines w line lines with
  | (w, line, []) => some (w, line, [])
  | (w, line, text :: rest) =>
    match ← header text with
    | none => some (w, line + 1, rest)
    | some header =>
      match ← bodyFrom Body.minIndent true rest with
      | .error n =>
        some (w.fail header.title ⟨file, line⟩ .underIndented, line + 1 + n, rest.drop n)
      | .ok body =>
        let block := header.block body ⟨file, line⟩
        let w ← (dispatch w block).map (settle block)
        let rest := rest.drop body.length
        let w ← closeUnless (rest.head?.any Body.isComment) w
        some (w, line + 1 + body.length, rest)

variable {base : Nat} {w : Walk}

/-- Closing the item finds its parent. -/
theorem closeUnless_eq (safe : w.Safe base) (stay : Bool) :
    closeUnless stay w = some (if stay then w else w.closeItem) := by
  rw [closeUnless, closeItem_eq safe]
  split <;> rfl

theorem skipLines_eq (safe : w.Safe base) (line : Nat) (lines : List String) :
    skipLines w line lines = some (w.skipLines line lines) := by
  induction lines generalizing w line with
  | nil =>
    rw [skipLines, closeItem_eq safe]
    rfl
  | cons text rest ih =>
    have leads : w.Leads (if Body.isComment text then w else w.closeItem) := by
      split
      · exact .refl
      · exact .single .close
    rw [skipLines, closeUnless_eq safe, Walk.skipLines]
    simp only [Option.bind_eq_bind, Option.bind_some]
    split
    · rfl
    · exact ih (Leads.safe leads safe) (line + 1)

/-- **The next block is read without a failure**, whatever the lines are. -/
theorem readBlock_eq (safe : w.Safe base) (file : String) (line : Nat) (lines : List String) :
    readBlock w file line lines = some (w.readBlock file line lines) := by
  have skipped : w.Leads (w.skipLines line lines).1 := skipLines_moves w line lines
  rw [readBlock, skipLines_eq safe, Walk.readBlock, Option.bind_eq_bind, Option.bind_some]
  generalize w.skipLines line lines = left at skipped
  obtain ⟨w', line', left⟩ := left
  have safe := Leads.safe skipped safe
  cases left with
  | nil => rfl
  | cons text rest =>
    simp only [header_eq, Option.bind_eq_bind, Option.bind_some]
    cases Header.ofLine? text with
    | none => rfl
    | some header =>
      simp only [bodyFrom_eq, Option.bind_some]
      cases Body.ofLines rest with
      | error n => rfl
      | ok body =>
        let block := header.block body ⟨file, line'⟩
        have leads : w'.Leads (settle block (w'.dispatch block)) :=
          settle_moves (fun _ _ => trivial) (dispatch_leads safe.sound block)
        have after := Leads.safe leads safe
        simp only [dispatch_eq safe, Option.map_some, Option.bind_some, closeUnless_eq after, block]

/-! ## A unit -/

/-- Read blocks until no line is left; a block that takes no line would never end, and fails. -/
def readFrom (w : Walk) (file : String) (line : Nat) (lines : List String) : Option Walk :=
  if lines = [] then some w
  else
    match readBlock w file line lines with
    | none => none
    | some (after, next, rest) =>
      if rest.length < lines.length then readFrom after file next rest else none
termination_by lines.length

/-- The walk through the lines of a unit. -/
def walkUnit (s : Session) (file : String) (lines : List String) : Option Walk := do
  let w ← readFrom s.enter file 1 lines
  closeItem w

/-- **Reading to the end** of the lines, every look-up succeeds. -/
theorem readFrom_eq (safe : w.Safe base) (file : String) (line : Nat) (lines : List String) :
    readFrom w file line lines = some (w.readFrom file line lines) := by
  fun_induction Walk.readFrom w file line lines with
  | case1 w line =>
    rw [readFrom, if_pos rfl]
  | case2 w line lines more after next rest read ih =>
    have leads : w.Leads after := by simpa [read] using readBlock_leads safe.sound file line lines
    have fewer : rest.length < lines.length := by
      simpa [read] using length_readBlock_lt w file line more
    rw [readFrom, if_neg more, readBlock_eq safe, read]
    simp only [fewer, if_true]
    exact ih (Leads.safe leads safe)

/-- A consistent session enters a unit with nothing open. -/
theorem enter_safe {s : Session} (consistent : s.Consistent) : s.enter.Safe s.document.size where
  sound := s.enter_sound
  built := consistent.baseline
  named := consistent.named

/-- **A unit** is read without a failed look-up. -/
theorem walkUnit_eq {s : Session} (consistent : s.Consistent) (file : String)
    (lines : List String) : walkUnit s file lines = some (s.walkUnit file lines) := by
  have safe := enter_safe consistent
  have leads := readFrom_leads safe.sound file 1 lines
  rw [walkUnit, readFrom_eq safe, Option.bind_eq_bind, Option.bind_some,
    closeItem_eq (Leads.safe leads safe)]
  rfl

/-! ## Calls -/

/-- What a list holds after its first `mark` entries; a mark past the end counts as the end. -/
def since {α : Type} (all : List α) (mark : Nat) : Option (List α) :=
  if min mark all.length ≤ all.length then some (all.drop (min mark all.length)) else none

/-- Read a unit given as lines; what it added is cut out of the names and of the log. -/
def readLines (s : Session) (lines : List String) (file : String) : Option (Session × Outcome) := do
  let w ← walkUnit s file lines
  let names ← since w.index.names s.index.size
  let entries ← since w.log.entries s.log.size
  some (w.toSession, { root := w.scope.file, names, entries })

/-- Make a call. -/
def call (s : Session) : Call → Option (Session × Outcome)
  | .loadConfig text => do
    let (s, outcome) ← readLines s ((Text.linesOf text).map ("// " ++ ·)) s.mode.configSource
    some (s.commit, outcome)
  | .readText text file => readLines s (Text.linesOf text) file
  | .readLines lines file => readLines s lines file

/-- A session that has read the default definitions, and then some calls. -/
def run (mode : Mode) (calls : List Call) : Option Session := do
  let w ← walkUnit { mode } Session.defaultsSource Session.defaultDefinitions
  calls.foldlM (fun s c => (call s c).map (·.1)) w.toSession.commit

/-- A mark that is cut back to the end can be cut at. -/
theorem since_eq {α : Type} (all : List α) (mark : Nat) :
    since all mark = some (all.drop mark) := by
  rw [since, if_pos (Nat.min_le_right mark all.length)]
  rcases Nat.le_total mark all.length with le | past
  · rw [Nat.min_eq_left le]
  · rw [Nat.min_eq_right past, List.drop_length, List.drop_eq_nil_of_le past]

theorem readLines_eq {s : Session} (consistent : s.Consistent) (lines : List String)
    (file : String) : readLines s lines file = some (s.readLines lines file) := by
  rw [readLines, walkUnit_eq consistent]
  simp only [since_eq, Option.bind_eq_bind, Option.bind_some]
  rfl

/-- **A call** is answered without a failed look-up. -/
theorem call_eq {s : Session} (consistent : s.Consistent) (c : Call) :
    call s c = some (s.call c) := by
  cases c with
  | loadConfig text =>
    rw [call, readLines_eq consistent]
    rfl
  | readText text file => exact readLines_eq consistent _ file
  | readLines lines file => exact readLines_eq consistent lines file

/-- **A run never fails.** -/
theorem run_eq (mode : Mode) (calls : List Call) :
    run mode calls = some ((Session.start mode).after calls) := by
  have calls := foldlM_eq_some (f := fun s c => (call s c).map (·.1))
    (g := fun s c => (Session.call s c).1) Session.Reachable
    (fun s reached c => ⟨by rw [call_eq reached.consistent]; rfl, reached.after [c]⟩) calls
    (Session.reachable_start mode)
  rw [run, walkUnit_eq (Session.consistent_fresh mode), Option.bind_eq_bind, Option.bind_some]
  exact calls

end DocComments.Checked
