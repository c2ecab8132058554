/-
  Cutting a text at separators, and putting the pieces back together.

  All cuts keep every piece, empty ones too, so that `joinWith` undoes them:
    * `pieces sep`       cuts at every `sep`; joining with `sep` gives the text back
                         (`joinWith_pieces`), no piece holds `sep` (`not_mem_of_mem_pieces`), and the
                         pieces of what stands around a `sep` are put together (`pieces_append`);
    * `cutOnce sep`      cuts at the first `sep` only (`eq_of_cutOnce`);
    * `piecesAtMost n`   cuts at the first `n - 1` separators, the last piece keeps the others
                         (`joinWith_piecesAtMost`, `piecesAtMost_joinWith`);
    * `piecesAtPair sep` cuts at each leftmost doubled `sep`;
    * `lines`            ends a line at each line feed, dropping one carriage return before it;
    * `cutAt part`       cuts at the first occurrence of a whole text.

  Whether a whole text stands in another is what `holds` tells (`holds_iff`).
-/
import DocComments.Text.Blank

namespace DocComments.Text

/-! ## Cutting at one character -/

/-- Put a character in front of the first piece. -/
def consFirst (c : Char) : List (List Char) → List (List Char)
  | [] => [[c]]
  | piece :: rest => (c :: piece) :: rest

/-- The pieces between the occurrences of `sep`: always one more than there are occurrences. -/
def pieces (sep : Char) : List Char → List (List Char)
  | [] => [[]]
  | c :: cs => if c = sep then [] :: pieces sep cs else consFirst c (pieces sep cs)

/-- The pieces with a separator text between any two of them. -/
def joinWith (sep : List Char) : List (List Char) → List Char
  | [] => []
  | [piece] => piece
  | piece :: rest => piece ++ sep ++ joinWith sep rest

theorem pieces_ne_nil (sep : Char) (cs : List Char) : pieces sep cs ≠ [] := by
  induction cs with
  | nil => simp [pieces]
  | cons c cs ih =>
    rw [pieces]
    split
    · simp
    · cases h : pieces sep cs with
      | nil => exact absurd h ih
      | cons p ps => simp [consFirst]

theorem joinWith_cons_of_ne_nil (sep piece : List Char) {rest : List (List Char)} (h : rest ≠ []) :
    joinWith sep (piece :: rest) = piece ++ sep ++ joinWith sep rest := by
  cases rest with
  | nil => exact absurd rfl h
  | cons p ps => rfl

/-- Two runs of pieces have one more separator between them. -/
theorem joinWith_append (sep : List Char) {front rest : List (List Char)} (given : front ≠ [])
    (more : rest ≠ []) :
    joinWith sep (front ++ rest) = joinWith sep front ++ sep ++ joinWith sep rest := by
  induction front with
  | nil => exact absurd rfl given
  | cons piece front ih =>
    cases front with
    | nil => exact joinWith_cons_of_ne_nil sep piece more
    | cons next front =>
      have more' : next :: front ≠ [] := List.cons_ne_nil next front
      rw [List.cons_append, joinWith_cons_of_ne_nil _ _ (by simp), ih more',
        joinWith_cons_of_ne_nil _ _ more']
      simp only [List.append_assoc]

/-- Joining the pieces with the separator gives the text back. -/
theorem joinWith_pieces (sep : Char) (cs : List Char) : joinWith [sep] (pieces sep cs) = cs := by
  induction cs with
  | nil => rfl
  | cons c cs ih =>
    rw [pieces]
    split
    · rename_i h
      rw [joinWith_cons_of_ne_nil _ _ (pieces_ne_nil sep cs), ih, h]; rfl
    · cases hp : pieces sep cs with
      | nil => exact absurd hp (pieces_ne_nil sep cs)
      | cons p ps =>
        rw [hp] at ih
        cases ps with
        | nil => simp only [consFirst, joinWith] at ih ⊢; rw [ih]
        | cons q qs => simp only [consFirst, joinWith, List.cons_append] at ih ⊢; rw [ih]

/-- No piece holds the separator. -/
theorem not_mem_of_mem_pieces {sep : Char} {cs piece : List Char} (h : piece ∈ pieces sep cs) :
    sep ∉ piece := by
  induction cs generalizing piece with
  | nil => simp [pieces] at h; simp [h]
  | cons c cs ih =>
    rw [pieces] at h
    split at h
    · rcases List.mem_cons.mp h with rfl | h
      · simp
      · exact ih h
    · rename_i hc
      cases hp : pieces sep cs with
      | nil => exact absurd hp (pieces_ne_nil sep cs)
      | cons p ps =>
        rw [hp, consFirst] at h
        rcases List.mem_cons.mp h with rfl | h
        · have : sep ∉ p := ih (by rw [hp]; simp)
          grind
        · exact ih (by rw [hp]; simp [h])

/-- A separator ends the pieces before it: they are those of the text that it ends. -/
theorem pieces_append (sep : Char) (front rest : List Char) :
    pieces sep (front ++ sep :: rest) = pieces sep front ++ pieces sep rest := by
  induction front with
  | nil =>
    show pieces sep (sep :: rest) = [] :: pieces sep rest
    rw [pieces, if_pos rfl]
  | cons c front ih =>
    rw [List.cons_append, pieces, pieces, ih]
    split
    · rfl
    · cases h : pieces sep front with
      | nil => exact absurd h (pieces_ne_nil sep front)
      | cons p ps => rfl

/-- A text without the separator is one piece. -/
theorem pieces_of_not_mem {sep : Char} {cs : List Char} (free : sep ∉ cs) :
    pieces sep cs = [cs] := by
  induction cs with
  | nil => rfl
  | cons c cs ih =>
    have ne : c ≠ sep := (List.ne_of_not_mem_cons free).symm
    rw [pieces, if_neg ne, ih (List.not_mem_of_not_mem_cons free)]
    rfl

/-- A text without the separator is the first piece, when a separator follows it. -/
theorem pieces_append_of_not_mem {sep : Char} {front : List Char} (free : sep ∉ front)
    (rest : List Char) : pieces sep (front ++ sep :: rest) = front :: pieces sep rest := by
  rw [pieces_append, pieces_of_not_mem free]
  rfl

/-- The texts before and after the first `sep`, if there is one. -/
def cutOnce (sep : Char) (cs : List Char) : Option (List Char × List Char) :=
  match cs.dropWhile (· != sep) with
  | [] => none
  | _ :: rest => some (cs.takeWhile (· != sep), rest)

/-- A cut text is its two halves with the separator between them, and the first half is free of
    it. -/
theorem eq_of_cutOnce {sep : Char} {cs front rest : List Char}
    (h : cutOnce sep cs = some (front, rest)) : cs = front ++ sep :: rest ∧ sep ∉ front := by
  induction cs generalizing front with
  | nil => simp [cutOnce] at h
  | cons c cs ih =>
    by_cases hc : c = sep
    · subst hc
      simp [cutOnce] at h
      obtain ⟨rfl, rfl⟩ := h
      simp
    · have hne : (c != sep) = true := by simpa using hc
      simp only [cutOnce, List.dropWhile_cons, List.takeWhile_cons, hne, if_true] at h
      cases hd : cs.dropWhile (· != sep) with
      | nil => simp [hd] at h
      | cons d ds =>
        simp only [hd, Option.some.injEq, Prod.mk.injEq] at h
        have : cs = cs.takeWhile (· != sep) ++ sep :: rest ∧ sep ∉ cs.takeWhile (· != sep) :=
          ih (by simp [cutOnce, hd, h.2])
        refine ⟨?_, ?_⟩
        · rw [← h.1, List.cons_append, ← this.1]
        · rw [← h.1]; simp [Ne.symm hc, this.2]

/-- A text is cut at the first `sep` in it. -/
theorem cutOnce_append {sep : Char} {front : List Char} (free : sep ∉ front) (rest : List Char) :
    cutOnce sep (front ++ sep :: rest) = some (front, rest) := by
  have others : ∀ c ∈ front, (c != sep) = true := by
    intro c mem
    have ne : c ≠ sep := fun same => free (same ▸ mem)
    simpa using ne
  rw [cutOnce, List.dropWhile_append_of_pos others, List.takeWhile_append_of_pos others]
  simp

/-- At most `n` pieces: the text is cut at its first `n - 1` separators and the last piece keeps
    the others.  Nothing at all comes of `n = 0`. -/
def piecesAtMost (sep : Char) : Nat → List Char → List (List Char)
  | 0, _ => []
  | 1, cs => [cs]
  | n + 2, cs =>
    match cutOnce sep cs with
    | none => [cs]
    | some (front, rest) => front :: piecesAtMost sep (n + 1) rest

theorem cutOnce_eq_none {sep : Char} {cs : List Char} : cutOnce sep cs = none ↔ sep ∉ cs := by
  constructor
  · intro uncut mem
    obtain ⟨front, rest, rfl, free⟩ := List.eq_append_cons_of_mem mem
    rw [cutOnce_append free] at uncut
    cases uncut
  · intro free
    have others : ∀ c ∈ cs, (c != sep) = true := by
      intro c mem
      have ne : c ≠ sep := fun same => free (same ▸ mem)
      simpa using ne
    have nothing : (cs ++ []).dropWhile (· != sep) = [] := List.dropWhile_append_of_pos others
    rw [List.append_nil] at nothing
    rw [cutOnce, nothing]

theorem piecesAtMost_ne_nil (sep : Char) {n : Nat} (pos : 0 < n) (cs : List Char) :
    piecesAtMost sep n cs ≠ [] := by
  fun_cases piecesAtMost sep n cs with
  | case1 => exact absurd pos (Nat.lt_irrefl 0)
  | case2 => simp
  | case3 => simp
  | case4 => simp

/-- There is a piece for each separator and one more, but no more than `n`. -/
theorem length_piecesAtMost (sep : Char) (n : Nat) (cs : List Char) :
    (piecesAtMost sep n cs).length = min n (cs.count sep + 1) := by
  fun_induction piecesAtMost sep n cs with
  | case1 => simp
  | case2 => simp
  | case3 n cs uncut =>
    have none : cs.count sep = 0 := List.count_eq_zero.mpr (cutOnce_eq_none.mp uncut)
    rw [none, List.length_singleton]
    omega
  | case4 n cs front rest cut ih =>
    obtain ⟨rfl, free⟩ := eq_of_cutOnce cut
    have none : front.count sep = 0 := List.count_eq_zero.mpr free
    rw [List.length_cons, ih, List.count_append, List.count_cons_self, none]
    omega

/-- Joining the pieces with the separator gives the text back. -/
theorem joinWith_piecesAtMost (sep : Char) {n : Nat} (pos : 0 < n) (cs : List Char) :
    joinWith [sep] (piecesAtMost sep n cs) = cs := by
  fun_induction piecesAtMost sep n cs with
  | case1 => exact absurd pos (Nat.lt_irrefl 0)
  | case2 => rfl
  | case3 => rfl
  | case4 n cs front rest cut ih =>
    rw [joinWith_cons_of_ne_nil _ _ (piecesAtMost_ne_nil sep (Nat.succ_pos n) rest),
      ih (Nat.succ_pos n), (eq_of_cutOnce cut).1, List.append_assoc]
    rfl

/-- Only the last piece may hold the separator. -/
theorem not_mem_of_mem_piecesAtMost {sep : Char} {n : Nat} {cs piece : List Char}
    (h : piece ∈ (piecesAtMost sep n cs).dropLast) : sep ∉ piece := by
  fun_induction piecesAtMost sep n cs with
  | case1 => simp at h
  | case2 => simp at h
  | case3 => simp at h
  | case4 n cs front rest cut ih =>
    rw [List.dropLast_cons_of_ne_nil (piecesAtMost_ne_nil sep (Nat.succ_pos n) rest)] at h
    rcases List.mem_cons.mp h with rfl | later
    · exact (eq_of_cutOnce cut).2
    · exact ih later

/-- **Pieces are cut apart again** when none but the last holds the separator. -/
theorem piecesAtMost_joinWith {sep : Char} {pieces : List (List Char)} (some : pieces ≠ [])
    (free : ∀ piece ∈ pieces.dropLast, sep ∉ piece) :
    piecesAtMost sep pieces.length (joinWith [sep] pieces) = pieces := by
  induction pieces with
  | nil => exact absurd rfl some
  | cons piece rest ih =>
    cases rest with
    | nil => rfl
    | cons next rest =>
      have more : next :: rest ≠ [] := List.cons_ne_nil next rest
      rw [List.dropLast_cons_of_ne_nil more] at free
      have cut : cutOnce sep (joinWith [sep] (piece :: next :: rest))
          = Option.some (piece, joinWith [sep] (next :: rest)) := by
        rw [joinWith_cons_of_ne_nil _ _ more, List.append_assoc]
        exact cutOnce_append (free piece (List.mem_cons_self ..)) _
      rw [List.length_cons, List.length_cons, piecesAtMost, cut]
      have again := ih more fun other mem => free other (List.mem_cons_of_mem _ mem)
      exact congrArg (piece :: ·) again

/-! ## Cutting at a doubled character -/

/-- The pieces between the doubled occurrences of `sep`, a doubling taken as early as possible. -/
def piecesAtPair (sep : Char) : List Char → List (List Char)
  | [] => [[]]
  | [c] => [[c]]
  | c :: d :: cs =>
    if c = sep ∧ d = sep then [] :: piecesAtPair sep cs
    else consFirst c (piecesAtPair sep (d :: cs))

/-! ## Lines -/

/-- A line without the one carriage return that may end it. -/
def dropReturn (cs : List Char) : List Char :=
  if cs.getLast? = some '\r' then cs.dropLast else cs

/-- The lines of pieces cut at line feeds: the last piece has no line feed after it, so it keeps a
    carriage return, and it is no line at all when it is empty. -/
def linesOfPieces : List (List Char) → List (List Char)
  | [] => []
  | [last] => if last.isEmpty then [] else [last]
  | piece :: rest => dropReturn piece :: linesOfPieces rest

/-- The lines of a text. -/
def lines (cs : List Char) : List (List Char) := linesOfPieces (pieces '\n' cs)

/-! ## Searching -/

/-- The text begins with `lead`. -/
def startsWith (lead cs : List Char) : Bool := lead.isPrefixOf cs

/-- The text holds `part` somewhere. -/
def holds (part : List Char) : List Char → Bool
  | [] => part.isEmpty
  | c :: cs => startsWith part (c :: cs) || holds part cs

/-- A text holds what stands in it in one run. -/
theorem holds_iff {part cs : List Char} : holds part cs = true ↔ part <:+: cs := by
  induction cs with
  | nil => simp [holds]
  | cons c cs ih =>
    rw [holds, Bool.or_eq_true, ih, startsWith, List.isPrefixOf_iff_prefix, List.infix_cons_iff]

/-- The texts before and after the first occurrence of `part`, if there is one. -/
def cutAt (part : List Char) : List Char → Option (List Char × List Char)
  | [] => if part.isEmpty then some ([], []) else none
  | c :: cs =>
    if startsWith part (c :: cs) then some ([], (c :: cs).drop part.length)
    else (cutAt part cs).map fun (front, rest) => (c :: front, rest)

/-! ## The same on strings -/

/-- The pieces of a string between the occurrences of `sep`. -/
def splitAt (sep : Char) (s : String) : List String := (pieces sep s.toList).map String.ofList

/-- The strings before and after the first `sep`, if there is one. -/
def splitOnce (sep : Char) (s : String) : Option (String × String) :=
  (cutOnce sep s.toList).map fun (front, rest) => (String.ofList front, String.ofList rest)

/-- The lines of a string. -/
def linesOf (s : String) : List String := (lines s.toList).map String.ofList

/-- The string holds `part` somewhere. -/
def contains (s part : String) : Bool := holds part.toList s.toList

/-- The lines of a string, each moved four columns to the right. -/
def indent (s : String) : String := "\n".intercalate ((linesOf s).map ("    " ++ ·))

/-- The comma-separated entries of a string, trimmed, empty ones dropped. -/
def entriesOf (s : String) : List String :=
  ((splitAt ',' s).map strip).filter (· ≠ "")

end DocComments.Text
