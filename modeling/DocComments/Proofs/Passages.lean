/-
  The headers of a unit, told from its lines alone.

  A PASSAGE is a header where it stands: its place, its parts and the lines after it.
  `passagesFrom` finds the passages by looking at every line by itself.  Reading does not: it skips
  lines up to a header, takes the lines of a body in one go, and takes up again at a line that is
  under-indented.  All the same it comes to every passage, in order and once, and to nothing else
  (`visitsFrom_passage`).

  The crux is that no line that reading passes over is a header.  A skipped line is none, because
  skipping would have stopped at it (`passagesFrom_skipLines`).  A line of a body is none, because
  two spaces follow its slashes and only one those of a header; that goes for the lines before an
  under-indented one as well (`passagesFrom_taken`).

  Between two headers a walk closes the item or leaves it, and no more (`Walk.passing`); so the next
  visit can be told from the lines up to the next header (`Walk.visit?_header`).
-/
import DocComments.Proofs.Visits

namespace DocComments

/-! ## Headers are no body lines -/

namespace Header

theorem isComment_of_ofLine? {line : String} {header : Header}
    (h : Header.ofLine? line = some header) : Body.isComment line := by
  obtain ⟨parts, read, -⟩ := Option.map_eq_some_iff.mp h
  unfold Header.parts? at read
  split at read
  · rename_i cs chars
    simp [Body.isComment, Body.comment?, chars]
  · simp at read

/-- No title begins with a space. -/
theorem takeTitle_space (cs : List Char) : takeTitle (' ' :: cs) = none := by
  have lower : ' '.isUpper = false := by decide
  simp [takeTitle, takeWord, lower]

/-- **A candidate for a body is no header:** a second space stands where a title would begin. -/
theorem ofLine?_of_candidate {line : String} (h : (Body.candidate? line).isSome) :
    Header.ofLine? line = none := by
  obtain ⟨text, candidate⟩ := Option.isSome_iff_exists.mp h
  obtain ⟨written, tail, rfl⟩ := Body.candidate?_eq_some_iff.mp candidate
  have unread : Header.parts? line.toList = none := by
    rw [written]
    simp [Header.parts?, takeTitle_space]
  rw [Header.ofLine?, unread]
  rfl

end Header

/-! ## Passages -/

/-- A header where it stands in a unit, and the lines after it. -/
structure Passage where
  origin : Origin
  header : Header
  rest : List String
deriving Repr, DecidableEq

/-- The passage of a visit. -/
def Visit.passage (v : Visit) : Passage := ⟨v.origin, v.header, v.rest⟩

/-- The passages among the lines, the first of which has the number `line`. -/
def passagesFrom (file : String) (line : Nat) : List String → List Passage
  | [] => []
  | text :: rest =>
    match Header.ofLine? text with
    | none => passagesFrom file (line + 1) rest
    | some header => ⟨⟨file, line⟩, header, rest⟩ :: passagesFrom file (line + 1) rest

/-- The passages of a unit. -/
def passages (file : String) (lines : List String) : List Passage := passagesFrom file 1 lines

section

variable {file : String} {line : Nat} {lines : List String} {p : Passage}

/-- What a passage is: a line of its own that is a header. -/
theorem mem_passagesFrom :
    p ∈ passagesFrom file line lines
      ↔ ∃ n text, lines[n]? = some text ∧ Header.ofLine? text = some p.header
          ∧ p.origin = ⟨file, line + n⟩ ∧ p.rest = lines.drop (n + 1) := by
  induction lines generalizing line with
  | nil => simp [passagesFrom]
  | cons first rest ih =>
    -- a passage of the whole is one of the rest, or the first line
    have later : p ∈ passagesFrom file (line + 1) rest
        ↔ ∃ n text, (first :: rest)[n + 1]? = some text ∧ Header.ofLine? text = some p.header
            ∧ p.origin = ⟨file, line + (n + 1)⟩ ∧ p.rest = (first :: rest).drop (n + 1 + 1) := by
      rw [ih]
      simp only [List.getElem?_cons_succ, List.drop_succ_cons, Nat.add_comm 1, Nat.add_assoc]
    constructor
    · intro mem
      rw [passagesFrom] at mem
      split at mem
      · obtain ⟨n, text, found⟩ := later.mp mem
        exact ⟨n + 1, text, found⟩
      · rename_i header read
        rcases List.mem_cons.mp mem with rfl | mem
        · exact ⟨0, first, rfl, read, rfl, rfl⟩
        · obtain ⟨n, text, found⟩ := later.mp mem
          exact ⟨n + 1, text, found⟩
    · rintro ⟨n, text, found, read, origin, tail⟩
      rw [passagesFrom]
      cases n with
      | zero =>
        obtain rfl : first = text := by simpa using found
        rw [read]
        have same : p = ⟨⟨file, line⟩, p.header, rest⟩ := by
          cases p
          simp_all
        simp only
        rw [← same]
        exact List.mem_cons_self ..
      | succ n =>
        have mem := later.mpr ⟨n, text, found, read, origin, tail⟩
        split
        · exact mem
        · exact List.mem_cons_of_mem _ mem

/-- Passages stand in the order of their lines. -/
theorem passagesFrom_pairwise (file : String) (line : Nat) (lines : List String) :
    (passagesFrom file line lines).Pairwise (·.origin.line < ·.origin.line) := by
  induction lines generalizing line with
  | nil => exact .nil
  | cons first rest ih =>
    rw [passagesFrom]
    split
    · exact ih _
    · refine List.pairwise_cons.mpr ⟨fun p mem => ?_, ih _⟩
      obtain ⟨n, text, -, -, origin, -⟩ := mem_passagesFrom.mp mem
      rw [origin]
      show line < line + 1 + n
      omega

/-- Lines that are no headers can be left out. -/
theorem passagesFrom_drop (file : String) (line count : Nat) (lines : List String)
    (plain : ∀ text ∈ lines.take count, Header.ofLine? text = none) :
    passagesFrom file (line + count) (lines.drop count) = passagesFrom file line lines := by
  induction count generalizing line lines with
  | zero => rfl
  | succ count ih =>
    cases lines with
    | nil => rfl
    | cons first rest =>
      have unread : Header.ofLine? first = none := plain first (by simp)
      have others : ∀ text ∈ rest.take count, Header.ofLine? text = none :=
        fun text mem => plain text (by simp [mem])
      have tail := ih (line + 1) rest others
      rw [show line + 1 + count = line + (count + 1) by omega] at tail
      rw [List.drop_succ_cons, tail, passagesFrom, unread]

/-- **Skipping passes over no passage.** -/
theorem passagesFrom_skipLines (w : Walk) (file : String) (line : Nat) (lines : List String) :
    passagesFrom file (w.skipLines line lines).2.1 (w.skipLines line lines).2.2
      = passagesFrom file line lines := by
  induction lines generalizing w line with
  | nil => rfl
  | cons text rest ih =>
    rw [Walk.skipLines]
    split
    · rfl
    · rename_i plain
      have unread : Header.ofLine? text = none := by simpa [Header.isHeader] using plain
      rw [ih, passagesFrom, unread]

/-- **A body holds no passage,** and neither do the lines before an under-indented one. -/
theorem passagesFrom_taken (v : Visit) :
    passagesFrom v.origin.file (v.origin.line + 1 + v.taken) (v.rest.drop v.taken)
      = passagesFrom v.origin.file (v.origin.line + 1) v.rest := by
  refine passagesFrom_drop _ _ _ _ fun text mem => ?_
  rw [v.taken_eq] at mem
  exact Header.ofLine?_of_candidate (Body.ofLines_candidates v.rest text mem)

end

/-! ## To the next header -/

/-- The lines up to the first header, if there is one. -/
theorem Header.exists_first (lines : List String) :
    (∀ text ∈ lines, ¬ Header.isHeader text)
      ∨ ∃ before text header rest, lines = before ++ text :: rest
          ∧ Header.ofLine? text = some header ∧ ∀ text ∈ before, ¬ Header.isHeader text := by
  cases next : lines.find? Header.isHeader with
  | none => exact .inl (List.find?_eq_none.mp next)
  | some text =>
    obtain ⟨isHeader, before, rest, split, others⟩ := List.find?_eq_some_iff_append.mp next
    obtain ⟨header, read⟩ := Option.isSome_iff_exists.mp isHeader
    exact .inr ⟨before, text, header, rest, split, read, by simpa using others⟩

namespace Walk

variable {w : Walk} {file text : String} {line : Nat} {before rest : List String} {header : Header}

/-- The walk after some lines none of which is a header: each that is no comment closes the item. -/
def passing (w : Walk) (lines : List String) : Walk :=
  lines.foldl (fun w text => if Body.isComment text then w else w.closeItem) w

/-- Skipping passes the lines that are no headers. -/
theorem skipLines_plain (plain : ∀ text ∈ before, ¬ Header.isHeader text) :
    w.skipLines line (before ++ rest)
      = (w.passing before).skipLines (line + before.length) rest := by
  induction before generalizing w line with
  | nil => rfl
  | cons text before ih =>
    rw [List.cons_append, skipLines, if_neg (plain text (List.mem_cons_self ..)),
      ih fun other mem => plain other (List.mem_cons_of_mem _ mem), List.length_cons,
      Nat.add_right_comm, Nat.add_assoc]
    rfl

/-- **The next visit** is that of the first header. -/
theorem visit?_header (plain : ∀ text ∈ before, ¬ Header.isHeader text)
    (read : Header.ofLine? text = some header) :
    w.visit? file line (before ++ text :: rest)
      = some ⟨w.passing before, ⟨file, line + before.length⟩, header, rest⟩ := by
  have isHeader : Header.isHeader text := by simp [Header.isHeader, read]
  rw [visit?, skipLines_plain plain, skipLines, if_pos isHeader,
    if_pos (Header.isComment_of_ofLine? read)]
  simp [read]

end Walk

/-! ## Reading comes to every passage -/

namespace Walk

variable {w : Walk} {file : String} {line : Nat} {lines : List String} {v : Visit}

/-- The next header is the next passage. -/
theorem passage_of_visit? (found : w.visit? file line lines = some v) :
    passagesFrom file line lines
      = v.passage
        :: passagesFrom file (v.origin.line + 1 + v.taken) (v.rest.drop v.taken) := by
  obtain ⟨-, origin, text, left, read⟩ := of_visit? found
  have number : (w.skipLines line lines).2.1 = v.origin.line := by rw [origin]
  have place : v.origin = ⟨file, v.origin.line⟩ := by rw [origin]
  have body := passagesFrom_taken v
  rw [place] at body
  rw [← passagesFrom_skipLines w, left, number, passagesFrom, read, body]
  simp only [List.cons.injEq, and_true, Visit.passage]
  rw [← place]

/-- **Reading comes to every passage, in order, and to nothing else.** -/
theorem visitsFrom_passage (w : Walk) (file : String) (line : Nat) (lines : List String) :
    (w.visitsFrom file line lines).map Visit.passage = passagesFrom file line lines := by
  fun_induction visitsFrom w file line lines with
  | case1 => rfl
  | case2 w line lines more next ih =>
    rw [List.map_append, ih]
    cases found : w.visit? file line lines with
    | none =>
      obtain ⟨read, ended⟩ := readBlock_of_visit?_eq_none found
      have skipped := passagesFrom_skipLines w file line lines
      simp only [next, read] at ended skipped ⊢
      rw [← skipped, ended]
      rfl
    | some v =>
      have read := readBlock_of_visit? found
      simp only [next, read]
      rw [passage_of_visit? found]
      rfl

end Walk

namespace Session

variable {s : Session} {file : String} {lines : List String}

/-- The visits of a unit are its passages, whatever the session. -/
theorem visits_passage (s : Session) (file : String) (lines : List String) :
    (s.visits file lines).map Visit.passage = passages file lines :=
  Walk.visitsFrom_passage _ _ _ _

/-- The visits of a unit stand in increasing order. -/
theorem visits_pairwise (s : Session) (file : String) (lines : List String) :
    (s.visits file lines).Pairwise (·.origin.line < ·.origin.line) := by
  have ordered := passagesFrom_pairwise file 1 lines
  rw [← passages, ← s.visits_passage file lines, List.pairwise_map] at ordered
  exact ordered

/-- A line is visited once. -/
theorem visit_unique {v u : Visit} (met : v ∈ s.visits file lines) (met' : u ∈ s.visits file lines)
    (same : u.origin.line = v.origin.line) : u = v := by
  obtain ⟨past, future, split⟩ := List.append_of_mem met
  have ordered := s.visits_pairwise file lines
  rw [split, List.pairwise_append, List.pairwise_cons] at ordered
  rw [split] at met'
  rcases List.mem_append.mp met' with before | here
  · have := ordered.2.2 u before v (List.mem_cons_self ..)
    omega
  · rcases List.mem_cons.mp here with rfl | after
    · rfl
    · have := ordered.2.1.1 u after
      omega

/-- Where a visit stands. -/
theorem passage_of_mem_visits {v : Visit} (met : v ∈ s.visits file lines) :
    ∃ n text, lines[n]? = some text ∧ Header.ofLine? text = some v.header
      ∧ v.origin = ⟨file, 1 + n⟩ ∧ v.rest = lines.drop (n + 1) := by
  have mem := List.mem_map_of_mem (f := Visit.passage) met
  rw [s.visits_passage] at mem
  exact mem_passagesFrom.mp mem

/-- **No header is lost or handled twice.**  Every block that is read takes at least one line off
    the front, so reading comes to the end; what it does on the way to the next stop is to handle
    the header that it comes to, if there is one.  The headers that are handled in a unit stand in
    increasing order, and they are exactly the lines that are headers. -/
theorem visits_are_headers (s : Session) (file : String) (lines : List String) :
    (∀ (w : Walk) (line : Nat) (rest : List String), rest ≠ [] →
        let next := w.readBlock file line rest
        line < next.2.1 ∧ next.2.2 = rest.drop (next.2.1 - line)
          ∧ next.1 = match w.visit? file line rest with
              | some v => v.left
              | none => (w.skipLines line rest).1)
      ∧ (∃ last, s.Stops file lines last (lines.length + 1) []
          ∧ s.walkUnit file lines = last.closeItem)
      ∧ (s.visits file lines).Pairwise (·.origin.line < ·.origin.line)
      ∧ (∀ n, n ∈ (s.visits file lines).map (·.origin.line)
          ↔ 1 ≤ n ∧ ∃ text, lines[n - 1]? = some text ∧ Header.isHeader text)
      ∧ ∀ v ∈ s.visits file lines, v.origin.file = file
          ∧ lines[v.origin.line - 1]?.bind Header.ofLine? = some v.header
          ∧ v.rest = lines.drop v.origin.line := by
  refine ⟨fun w line rest more => ?_, ?_, s.visits_pairwise file lines, fun n => ?_,
    fun v met => ?_⟩
  · have shorter := Walk.length_readBlock_lt w file line more
    obtain ⟨suffix, count⟩ := Walk.readBlock_rest w file line rest
    refine ⟨by omega, ?_, ?_⟩
    · rw [List.suffix_iff_eq_drop.mp suffix]
      congr 1
      omega
    · cases found : w.visit? file line rest with
      | none => rw [(Walk.readBlock_of_visit?_eq_none found).1]
      | some v => rw [Walk.readBlock_of_visit? found]
  · obtain ⟨last, line, stop, ended⟩ := exists_last_stop s file lines
    obtain ⟨-, count⟩ := stop.rest
    obtain rfl : line = lines.length + 1 := by
      rw [List.length_nil] at count
      omega
    exact ⟨last, stop, ended⟩
  · constructor
    · intro mem
      obtain ⟨v, met, rfl⟩ := List.mem_map.mp mem
      obtain ⟨k, text, found, read, origin, -⟩ := passage_of_mem_visits met
      rw [origin]
      refine ⟨Nat.le_add_right 1 k, text, ?_, ?_⟩
      · rwa [Nat.add_sub_cancel_left]
      · simp [Header.isHeader, read]
    · rintro ⟨pos, text, found, header⟩
      obtain ⟨header, read⟩ := Option.isSome_iff_exists.mp header
      have mem : (⟨⟨file, n⟩, header, lines.drop (n - 1 + 1)⟩ : Passage) ∈ passages file lines := by
        refine mem_passagesFrom.mpr ⟨n - 1, text, found, read, ?_, rfl⟩
        rw [show 1 + (n - 1) = n by omega]
      rw [← s.visits_passage file lines] at mem
      obtain ⟨v, met, same⟩ := List.mem_map.mp mem
      exact List.mem_map.mpr ⟨v, met, congrArg (fun p => p.origin.line) same⟩
  · obtain ⟨k, text, found, read, origin, tail⟩ := passage_of_mem_visits met
    have number : v.origin.line - 1 = k := by
      rw [origin]
      exact Nat.add_sub_cancel_left ..
    refine ⟨by rw [origin], ?_, ?_⟩
    · rw [number, found, Option.bind_some, read]
    · rw [tail, origin, Nat.add_comm]

end Session

end DocComments
