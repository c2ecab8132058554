/-
  How a unit is read: header by header, each with its body.

  A reader stands at a line and has the lines from there on.  `readBlock` goes to the next header,
  hands its block to `dispatch` and stands after the body; `readFrom` does so until no line is left.
  The open item is closed on the way by each line that is no comment, by a body that no comment
  follows, and by the end of the unit.

    * `length_readBlock_lt`  each block takes at least one line, so reading ends.
-/
import DocComments.Session.Dispatch

namespace DocComments.Walk

/-- Go on to the next header, or to the end.  The first of the lines has the number `line`. -/
def skipLines (w : Walk) (line : Nat) : List String → Walk × Nat × List String
  | [] => (w.closeItem, line, [])
  | text :: rest =>
    let w := if Body.isComment text then w else w.closeItem
    if Header.isHeader text then (w, line, text :: rest) else skipLines w (line + 1) rest

/-- Read the next block.  A header whose body is under-indented is refused, and reading goes on at
    the line to blame; otherwise it goes on after the body. -/
def readBlock (w : Walk) (file : String) (line : Nat) (lines : List String) :
    Walk × Nat × List String :=
  match w.skipLines line lines with
  | (w, line, []) => (w, line, [])
  | (w, line, text :: rest) =>
    match Header.ofLine? text with
    | none => (w, line + 1, rest)
    | some header =>
      match Body.ofLines rest with
      | .error n => (w.fail header.title ⟨file, line⟩ .underIndented, line + 1 + n, rest.drop n)
      | .ok body =>
        let block := header.block body ⟨file, line⟩
        let w := settle block (w.dispatch block)
        let rest := rest.drop body.length
        (if rest.head?.any Body.isComment then w else w.closeItem, line + 1 + body.length, rest)

theorem length_skipLines_le (w : Walk) (line : Nat) (lines : List String) :
    (w.skipLines line lines).2.2.length ≤ lines.length := by
  induction lines generalizing w line with
  | nil => simp [skipLines]
  | cons text rest ih =>
    rw [skipLines]
    split
    · simp
    · exact Nat.le_succ_of_le (ih _ _)

/-- Reading a block leaves fewer lines. -/
theorem length_readBlock_lt (w : Walk) (file : String) (line : Nat) {lines : List String}
    (h : lines ≠ []) : (w.readBlock file line lines).2.2.length < lines.length := by
  have hle := length_skipLines_le w line lines
  have hpos := List.length_pos_iff.mpr h
  unfold readBlock
  split
  · simpa using hpos
  · rename_i skipped
    rw [skipped, List.length_cons] at hle
    split
    · exact hle
    · split
      · simp only [List.length_drop]
        omega
      · simp only [List.length_drop]
        omega

/-- Read blocks until no line is left. -/
def readFrom (w : Walk) (file : String) (line : Nat) (lines : List String) : Walk :=
  if _h : lines = [] then w
  else
    match _read : w.readBlock file line lines with
    | (after, next, rest) => readFrom after file next rest
termination_by lines.length
decreasing_by
  have := length_readBlock_lt w file line _h
  rwa [_read] at this

end DocComments.Walk

namespace DocComments

/-- Start a unit: the definitions of the unit before it are forgotten, and nothing is open. -/
def Session.enter (s : Session) : Walk := { s with registry := s.registry.reset }

/-- The walk through the lines of a unit. -/
def Session.walkUnit (s : Session) (file : String) (lines : List String) : Walk :=
  (s.enter.readFrom file 1 lines).closeItem

end DocComments
