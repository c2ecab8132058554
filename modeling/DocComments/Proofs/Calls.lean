/-
  The life of a session: any sequence of calls after its start.

  There are three ways to feed a session.  All of them read lines under the name of a unit
  (`call_eq`), and loading the configuration then keeps the rules.  So what every unit preserves,
  and keeping the rules too, holds of every session that can be reached (`Reachable.induction`).
-/
import DocComments.Session

namespace DocComments

/-- A unit to be read, in one of the forms in which a session takes it. -/
inductive Call where
  | loadConfig (text : String)
  | readText (text file : String)
  | readLines (lines : List String) (file : String)
deriving Repr, DecidableEq

namespace Call

/-- The lines that the call reads. -/
def lines : Call → List String
  | .loadConfig text => (Text.linesOf text).map ("// " ++ ·)
  | .readText text _ => Text.linesOf text
  | .readLines lines _ => lines

/-- The unit that the call reads. -/
def source (mode : Mode) : Call → String
  | .loadConfig _ => mode.configSource
  | .readText _ file => file
  | .readLines _ file => file

end Call

namespace Session

/-- Make a call. -/
def call (s : Session) : Call → Session × Outcome
  | .loadConfig text => s.loadConfig text
  | .readText text file => s.readText text file
  | .readLines lines file => s.readLines lines file

/-- The session after some calls. -/
def after (s : Session) (calls : List Call) : Session := calls.foldl (fun s c => (s.call c).1) s

/-- Some calls lead from the start to the session. -/
def Reachable (s : Session) : Prop := ∃ mode calls, s = (start mode).after calls

theorem reachable_start (mode : Mode) : (start mode).Reachable := ⟨mode, [], rfl⟩

theorem Reachable.after {s : Session} (reached : s.Reachable) (calls : List Call) :
    (s.after calls).Reachable := by
  obtain ⟨mode, first, rfl⟩ := reached
  exact ⟨mode, first ++ calls, List.foldl_append.symm⟩

/-- **Every call reads lines**, and at most keeps the rules afterwards. -/
theorem call_eq (s : Session) (c : Call) :
    let read := s.readLines c.lines (c.source s.mode)
    (s.call c).2 = read.2 ∧ ((s.call c).1 = read.1 ∨ (s.call c).1 = read.1.commit) := by
  cases c with
  | loadConfig text => exact ⟨rfl, .inr rfl⟩
  | readText text file => exact ⟨rfl, .inl rfl⟩
  | readLines lines file => exact ⟨rfl, .inl rfl⟩

/-- What the session holds after a call is what the walk through the lines has gathered. -/
theorem call_walk (s : Session) (c : Call) :
    let w := s.walkUnit (c.source s.mode) c.lines
    (s.call c).1.document = w.document ∧ (s.call c).1.index = w.index
      ∧ (s.call c).1.log = w.log := by
  rcases (call_eq s c).2 with plain | kept
  · rw [plain]
    exact ⟨rfl, rfl, rfl⟩
  · rw [kept]
    exact ⟨rfl, rfl, rfl⟩

/-- **What units and commits preserve** holds of every session that can be reached. -/
@[elab_as_elim]
theorem Reachable.induction {holds : Session → Prop} (empty : ∀ mode, holds { mode })
    (unit : ∀ s file lines, holds s → holds (s.walkUnit file lines).toSession)
    (commit : ∀ s, holds s → holds s.commit) {s : Session} (reached : s.Reachable) : holds s := by
  obtain ⟨mode, calls, rfl⟩ := reached
  have step : ∀ s c, holds s → holds (s.call c).1 := by
    intro s c h
    have read := unit s (c.source s.mode) c.lines h
    rcases (call_eq s c).2 with plain | kept
    · rw [plain]
      exact read
    · rw [kept]
      exact commit _ read
  have start : holds (start mode) := commit _ (unit _ _ _ (empty mode))
  rw [Session.after]
  generalize Session.start mode = s at start
  induction calls generalizing s with
  | nil => exact start
  | cons c rest ih => exact ih _ (step s c start)

end Session

end DocComments
