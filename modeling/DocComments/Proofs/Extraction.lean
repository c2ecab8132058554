/-
  What a body is, line by line.

  The scan for a body changes its threshold after the first line and can stop in three ways.  None
  of this is in the answer.  Take the texts of the candidates at the front of the lines
  (`candidates`); the first of them fixes a width.  If a later one has fewer spaces than that, the
  first such line is to blame, and otherwise all of them are the body (`bodyOf`, `ofLines_eq`).

  The same is said of a unit by the indices of its lines.  A run of candidates REACHES from the
  start to the first line that is none (`Reaches`); the body is TAKEN as a whole (`Taken`), or a
  line of the run is to BLAME (`Blamed`).  There the width is cut off in bytes (`cutBytes?`), as it
  is measured.

    * `extract_exact`  extraction gives a body exactly if it is taken, and an index exactly if that
      line is to blame.
-/
import DocComments.Proofs.CheckedText
import DocComments.Proofs.Written
import Mathlib.Logic.ExistsUnique

namespace DocComments.Body

/-! ## The candidates at the front -/

/-- The texts of the candidates at the front of the lines. -/
def candidates : List String → List (List Char)
  | [] => []
  | line :: rest =>
    match candidate? line with
    | none => []
    | some text => text :: candidates rest

/-- Lines that are written so that they are candidates, and then no further candidate. -/
theorem candidates_map {α : Type} {line : α → String} {text : α → List Char} {tail : List String}
    (written : ∀ a, candidate? (line a) = some (text a)) (ends : Ends tail) (items : List α) :
    candidates (items.map line ++ tail) = items.map text := by
  induction items with
  | nil =>
    cases tail with
    | nil => rfl
    | cons next rest =>
      have none : candidate? next = none := ends
      simp [candidates, none]
  | cons item items ih =>
    rw [List.map_cons, List.cons_append, candidates, written item]
    exact congrArg (text item :: ·) ih

/-- A later line of a body, the width of the first taken off. -/
def dedented (width : Nat) (text : List Char) : String :=
  String.ofList (Text.trimEnd (text.drop width))

theorem following_eq (width : Nat) (lines : List String) :
    following width lines
      = match (candidates lines).findIdx? (leadingSpaces · < width) with
        | some n => .error n
        | none => .ok ((candidates lines).map (dedented width)) := by
  induction lines with
  | nil => rfl
  | cons line rest ih =>
    rw [following, candidates]
    cases candidate? line with
    | none => rfl
    | some text =>
      by_cases short : leadingSpaces text < width
      · simp [List.findIdx?_cons, short]
      · simp only [ih, List.findIdx?_cons, short, decide_false, Bool.false_eq_true,
          if_false]
        cases (candidates rest).findIdx? (leadingSpaces · < width) <;> rfl

/-- The body that the candidates make: the first fixes the width, and the first later one with
    fewer spaces is to blame. -/
def bodyOf : List (List Char) → Except Nat (List String)
  | [] => .ok []
  | first :: later =>
    match later.findIdx? (leadingSpaces · < blankWidth first) with
    | some n => .error (n + 1)
    | none => .ok (String.ofList (Text.trim first) :: later.map (dedented (blankWidth first)))

/-- **A body is told from the candidates.** -/
theorem ofLines_eq (lines : List String) : ofLines lines = bodyOf (candidates lines) := by
  cases lines with
  | nil => rfl
  | cons line rest =>
    rw [ofLines, candidates]
    cases candidate? line with
    | none => rfl
    | some first =>
      simp only [bodyOf, following_eq]
      cases (candidates rest).findIdx? (leadingSpaces · < blankWidth first) <;> rfl

theorem candidates_take (n : Nat) (lines : List String) :
    candidates (lines.take n) = (candidates lines).take n := by
  induction lines generalizing n with
  | nil => simp [candidates]
  | cons line rest ih =>
    cases n with
    | zero => simp [candidates]
    | succ n =>
      simp only [List.take_succ_cons, candidates]
      cases candidate? line with
      | none => rfl
      | some text => simp only [ih, List.take_succ_cons]

/-- **The first lines of a body** have the first texts of the body. -/
theorem ofLines_take {lines body : List String} (found : ofLines lines = .ok body) (n : Nat) :
    ofLines (lines.take n) = .ok (body.take n) := by
  rw [ofLines_eq] at found ⊢
  rw [candidates_take]
  cases run : candidates lines with
  | nil =>
    rw [run] at found
    cases found
    simp [bodyOf]
  | cons first later =>
    cases n with
    | zero => simp [bodyOf]
    | succ n =>
      simp only [run, bodyOf, List.take_succ_cons] at found ⊢
      cases blame : later.findIdx? (leadingSpaces · < blankWidth first) with
      | some n => simp [blame] at found
      | none =>
        simp only [blame, Except.ok.injEq] at found
        have enough := List.findIdx?_eq_none_iff.mp blame
        have none : (later.take n).findIdx? (leadingSpaces · < blankWidth first) = none :=
          List.findIdx?_eq_none_iff.mpr fun text mem => enough text (List.mem_of_mem_take mem)
        simp only [none, ← found, List.take_succ_cons, List.map_take]

/-- The lines of a body have no blanks at their ends. -/
theorem cleaned_of_mem {lines body : List String} (found : ofLines lines = .ok body) {text : String}
    (mem : text ∈ body) : cleaned text = text := by
  rw [ofLines_eq] at found
  cases run : candidates lines with
  | nil =>
    rw [run] at found
    cases found
    cases mem
  | cons first later =>
    simp only [run, bodyOf] at found
    split at found
    · cases found
    · cases found
      rcases List.mem_cons.mp mem with rfl | mem
      · rw [cleaned, String.toList_ofList, Text.trim, Text.trimEnd_trimEnd]
      · obtain ⟨raw, -, rfl⟩ := List.mem_map.mp mem
        rw [dedented, cleaned, String.toList_ofList, Text.trimEnd_trimEnd]

/-- Extraction at the end of some lines reads those that follow them. -/
theorem extract_append (front lines : List String) :
    extract (front ++ lines) front.length
      = match ofLines lines with
        | .ok body => .ok ⟨body, front.length + body.length⟩
        | .error n => .error (front.length + n) := by
  cases found : ofLines lines with
  | ok body => simp [extract, found]
  | error n => simp [extract, found]

/-! ## Lines of a unit -/

variable {lines : List String} {start next l : Nat} {body : Extract}

/-- The text of the line with an index, if it is a candidate. -/
def candidateAt? (lines : List String) (i : Nat) : Option (List Char) := lines[i]?.bind candidate?

/-- How many spaces follow the slashes of a candidate. -/
def spacesAt (lines : List String) (i : Nat) : Nat :=
  ((candidateAt? lines i).map leadingSpaces).getD 0

/-- How many bytes the white space after the slashes of a candidate takes. -/
def widthAt (lines : List String) (i : Nat) : Nat :=
  ((candidateAt? lines i).map blankWidth).getD 0

/-- A line as a body holds it: the text after the slashes less its first `width` bytes, and less the
    blanks at its end.  A cut inside a character gives nothing. -/
def bodyLine? (lines : List String) (width i : Nat) : Option String := do
  let text ← candidateAt? lines i
  let cut ← cutBytes? width text
  pure (String.ofList (Text.trimEnd cut))

/-- `next` is the first index from `start` on whose line is no candidate. -/
structure Reaches (lines : List String) (start next : Nat) : Prop where
  le : start ≤ next
  within : ∀ i, start ≤ i → i < next → (candidateAt? lines i).isSome
  ends : candidateAt? lines next = none

/-- The body from `start` on is `body`: it reaches up to a line that is no candidate, no later line
    has fewer spaces than the first has bytes of white space, and line by line it is what the cut at
    that width leaves. -/
structure Taken (lines : List String) (start : Nat) (body : Extract) : Prop where
  reaches : Reaches lines start body.next
  indented : ∀ i, start < i → i < body.next → widthAt lines start ≤ spacesAt lines i
  length : body.lines.length = body.next - start
  line : ∀ n, n < body.next - start →
    body.lines[n]? = bodyLine? lines (widthAt lines start) (start + n)

/-- The line `l` is to blame: it is the first after `start`, among the candidates that follow each
    other from there, that has fewer spaces than the line `start` has bytes of white space. -/
structure Blamed (lines : List String) (start l : Nat) : Prop where
  lt : start < l
  within : ∃ next, Reaches lines start next ∧ l < next
  short : spacesAt lines l < widthAt lines start
  first : ∀ i, start < i → i < l → widthAt lines start ≤ spacesAt lines i

/-- No two indices are the first one whose line is no candidate. -/
theorem Reaches.eq {other : Nat} (reaches : Reaches lines start next)
    (reaches' : Reaches lines start other) : other = next := by
  rcases Nat.lt_trichotomy other next with lt | same | gt
  · have found := reaches.within other reaches'.le lt
    simp [reaches'.ends] at found
  · exact same
  · have found := reaches'.within next reaches.le gt
    simp [reaches.ends] at found

theorem getElem?_candidates {n : Nat} (le : n ≤ (candidates lines).length) :
    candidateAt? lines n = (candidates lines)[n]? := by
  induction lines generalizing n with
  | nil => simp [candidateAt?, candidates]
  | cons line rest ih =>
    rw [candidates] at le ⊢
    cases candidate : candidate? line with
    | none =>
      obtain rfl : n = 0 := by simpa [candidate] using le
      simpa [candidateAt?] using candidate
    | some text =>
      rw [candidate] at le
      cases n with
      | zero => simpa [candidateAt?] using candidate
      | succ n =>
        have tail := ih (Nat.le_of_succ_le_succ le)
        simpa [candidateAt?] using tail

/-- The candidates at the front from an index on, found at their indices. -/
theorem candidateAt?_add {n : Nat} (le : n ≤ (candidates (lines.drop start)).length) :
    candidateAt? lines (start + n) = (candidates (lines.drop start))[n]? := by
  rw [← getElem?_candidates le, candidateAt?, candidateAt?, List.getElem?_drop]

/-- **The candidates at the front** reach to the first line that is none. -/
theorem reaches_candidates (lines : List String) (start : Nat) :
    Reaches lines start (start + (candidates (lines.drop start)).length) where
  le := Nat.le_add_right ..
  within := by
    intro i le lt
    obtain ⟨n, rfl⟩ := Nat.exists_eq_add_of_le le
    have lt : n < (candidates (lines.drop start)).length := Nat.lt_of_add_lt_add_left lt
    rw [candidateAt?_add (Nat.le_of_lt lt), List.getElem?_eq_getElem lt]
    rfl
  ends := by rw [candidateAt?_add (Nat.le_refl _), List.getElem?_eq_none (Nat.le_refl _)]

/-! ## Extraction -/

/-- Where a body has as many lines as there were, no body goes on with those that follow. -/
theorem ends_of_length {inner after texts : List String}
    (found : ofLines (inner ++ after) = .ok texts) (length : texts.length = inner.length) :
    Ends after := by
  have reaches := reaches_candidates (inner ++ after) 0
  have count : (candidates (inner ++ after)).length = inner.length := by
    rw [ofLines_eq] at found
    rw [← length]
    cases run : candidates (inner ++ after) with
    | nil =>
      rw [run] at found
      cases found
      rfl
    | cons first later =>
      simp only [run, bodyOf] at found
      split at found
      · cases found
      · cases found
        simp
  have last := reaches.ends
  rw [List.drop_zero, count, Nat.zero_add, candidateAt?, List.getElem?_append_right (Nat.le_refl _),
    Nat.sub_self] at last
  rw [Ends, List.head?_eq_getElem?]
  exact last


theorem Taken.eq {other : Extract} (taken : Taken lines start body)
    (taken' : Taken lines start other) : other = body := by
  have next : other.next = body.next := taken.reaches.eq taken'.reaches
  have same : other.lines = body.lines := by
    apply List.ext_getElem?
    intro n
    by_cases lt : n < body.next - start
    · rw [taken'.line n (next ▸ lt), taken.line n lt]
    · have past : body.next - start ≤ n := Nat.le_of_not_lt lt
      rw [List.getElem?_eq_none (by rw [taken'.length, next]; exact past),
        List.getElem?_eq_none (by rw [taken.length]; exact past)]
  cases other
  cases body
  simp_all

theorem Blamed.eq {other : Nat} (blamed : Blamed lines start l)
    (blamed' : Blamed lines start other) : other = l := by
  rcases Nat.lt_trichotomy other l with lt | same | gt
  · exact absurd blamed'.short (Nat.not_lt.mpr (blamed.first other blamed'.lt lt))
  · exact same
  · exact absurd blamed.short (Nat.not_lt.mpr (blamed'.first l blamed.lt gt))

/-- A body that has a line to blame is not taken. -/
theorem Taken.not_blamed (taken : Taken lines start body) : ¬ Blamed lines start l := by
  intro blamed
  obtain ⟨next, reaches, lt⟩ := blamed.within
  rw [taken.reaches.eq reaches] at lt
  exact absurd blamed.short (Nat.not_lt.mpr (taken.indented l blamed.lt lt))

/-- The cut through the first line of a body, and through a later one. -/
theorem bodyLine?_start {first : List Char} (found : candidateAt? lines start = some first) :
    bodyLine? lines (blankWidth first) start = some (String.ofList (Text.trim first)) := by
  simp [bodyLine?, found, cutBytes?_blankWidth, Text.trim]

theorem bodyLine?_of_le {width i : Nat} {text : List Char}
    (found : candidateAt? lines i = some text) (le : width ≤ leadingSpaces text) :
    bodyLine? lines width i = some (dedented width text) := by
  simp [bodyLine?, found, cutBytes?_of_le_leadingSpaces le, dedented]

section Run

variable {first text : List Char} {later : List (List Char)} {n : Nat}

theorem candidateAt?_first (run : candidates (lines.drop start) = first :: later) :
    candidateAt? lines start = some first := by
  have here : candidateAt? lines (start + 0) = (candidates (lines.drop start))[0]? :=
    candidateAt?_add (Nat.zero_le _)
  simpa [run] using here

theorem candidateAt?_later (run : candidates (lines.drop start) = first :: later)
    (at? : later[n]? = some text) : candidateAt? lines (start + (n + 1)) = some text := by
  have lt : n < later.length := (List.getElem?_eq_some_iff.mp at?).1
  have le : n + 1 ≤ (candidates (lines.drop start)).length := by
    rw [run, List.length_cons]
    omega
  rw [candidateAt?_add le, run, List.getElem?_cons_succ, at?]

/-- Every index after the first within the run is that of a later line. -/
theorem exists_later {i : Nat} (later : List (List Char)) (gt : start < i)
    (lt : i < start + (later.length + 1)) :
    ∃ n text, i = start + (n + 1) ∧ later[n]? = some text := by
  obtain ⟨n, rfl⟩ := Nat.exists_eq_add_of_lt gt
  have within : n < later.length := by omega
  exact ⟨n, later[n], by omega, List.getElem?_eq_getElem within⟩

/-- Where no later line is short, the body is taken. -/
theorem taken_of_enough (run : candidates (lines.drop start) = first :: later)
    (enough : ∀ text ∈ later, blankWidth first ≤ leadingSpaces text) :
    Taken lines start ⟨String.ofList (Text.trim first) :: later.map (dedented (blankWidth first)),
      start + (later.length + 1)⟩ := by
  have head := candidateAt?_first run
  have width : widthAt lines start = blankWidth first := by simp [widthAt, head]
  have reaches := reaches_candidates lines start
  rw [run, List.length_cons] at reaches
  refine ⟨reaches, fun i gt lt => ?_, by simp, fun n lt => ?_⟩
  · obtain ⟨n, text, rfl, at?⟩ := exists_later later gt lt
    have spaces : spacesAt lines (start + (n + 1)) = leadingSpaces text := by
      simp [spacesAt, candidateAt?_later run at?]
    rw [width, spaces]
    exact enough text (List.mem_of_getElem? at?)
  · rw [width]
    cases n with
    | zero => exact (bodyLine?_start head).symm
    | succ n =>
      have within : n < later.length := by
        simp only [Nat.add_sub_cancel_left] at lt
        omega
      have at? : later[n]? = some later[n] := List.getElem?_eq_getElem within
      rw [bodyLine?_of_le (candidateAt?_later run at?) (enough _ (List.mem_of_getElem? at?)),
        List.getElem?_cons_succ, List.getElem?_map, at?]
      rfl

/-- The first later line that is short is to blame. -/
theorem blamed_of_findIdx? (run : candidates (lines.drop start) = first :: later)
    (blame : later.findIdx? (leadingSpaces · < blankWidth first) = some n) :
    Blamed lines start (start + (n + 1)) := by
  obtain ⟨lt, short, others⟩ := List.findIdx?_eq_some_iff_getElem.mp blame
  have width : widthAt lines start = blankWidth first := by simp [widthAt, candidateAt?_first run]
  have spaces : ∀ {m text}, later[m]? = some text →
      spacesAt lines (start + (m + 1)) = leadingSpaces text := by
    intro m text at?
    simp [spacesAt, candidateAt?_later run at?]
  have reaches := reaches_candidates lines start
  rw [run, List.length_cons] at reaches
  refine ⟨by omega, ⟨_, reaches, by omega⟩, ?_, fun i gt before => ?_⟩
  · rw [width, spaces (List.getElem?_eq_getElem lt)]
    exact of_decide_eq_true short
  · obtain ⟨m, text, rfl, at?⟩ := exists_later later gt (by omega)
    have earlier : m < n := by omega
    obtain ⟨_, rfl⟩ := List.getElem?_eq_some_iff.mp at?
    rw [width, spaces at?]
    simpa using others m earlier

end Run

/-- **What extraction gives is taken, or to blame.** -/
theorem extract_spec (lines : List String) (start : Nat) :
    match extract lines start with
    | .ok body => Taken lines start body
    | .error l => Blamed lines start l := by
  rw [extract, ofLines_eq]
  cases run : candidates (lines.drop start) with
  | nil =>
    have reaches := reaches_candidates lines start
    rw [run] at reaches
    exact ⟨reaches, fun i gt lt => absurd lt (Nat.not_lt.mpr (Nat.le_of_lt gt)), by simp, by simp⟩
  | cons first later =>
    simp only [bodyOf]
    cases blame : later.findIdx? (leadingSpaces · < blankWidth first) with
    | none =>
      have enough : ∀ text ∈ later, blankWidth first ≤ leadingSpaces text := by
        simpa using List.findIdx?_eq_none_iff.mp blame
      simpa using taken_of_enough run enough
    | some n => exact blamed_of_findIdx? run blame

theorem taken_of_ok (found : extract lines start = .ok body) : Taken lines start body := by
  have spec := extract_spec lines start
  rwa [found] at spec

theorem blamed_of_error (found : extract lines start = .error l) : Blamed lines start l := by
  have spec := extract_spec lines start
  rwa [found] at spec

/-- The candidate at an index is the line there, less the two slashes it begins with, if two spaces
    follow them. -/
theorem candidateAt?_eq_some_iff {i : Nat} {text : List Char} :
    candidateAt? lines i = some text
      ↔ ∃ line, lines[i]? = some line ∧ line.toList = '/' :: '/' :: text
        ∧ [' ', ' '] <+: text := by
  simp only [candidateAt?, Option.bind_eq_some_iff, candidate?_eq_some_iff]

/-- **Body extraction, exactly.**  A line is a candidate if it begins with two slashes and at least
    two spaces, and its text is what follows the slashes.  From every index the candidates reach to
    one index only.  Extraction gives a body exactly if the body is taken, and an index exactly if
    the line there is to blame. -/
theorem extract_exact (lines : List String) (start : Nat) :
    (∀ i text, candidateAt? lines i = some text
        ↔ ∃ line, lines[i]? = some line ∧ line.toList = '/' :: '/' :: text
          ∧ [' ', ' '] <+: text)
      ∧ (∃! next, Reaches lines start next)
      ∧ (∀ body, extract lines start = .ok body ↔ Taken lines start body)
      ∧ ∀ l, extract lines start = .error l ↔ Blamed lines start l := by
  have reaches := reaches_candidates lines start
  refine ⟨fun _ _ => candidateAt?_eq_some_iff, ⟨_, reaches, fun other also => reaches.eq also⟩,
    fun body => ⟨taken_of_ok, fun taken => ?_⟩, fun l => ⟨blamed_of_error, fun blamed => ?_⟩⟩
  · cases found : extract lines start with
    | ok other => rw [taken.eq (taken_of_ok found)]
    | error l => exact absurd (blamed_of_error found) taken.not_blamed
  · cases found : extract lines start with
    | ok body => exact absurd blamed (taken_of_ok found).not_blamed
    | error other => rw [blamed.eq (blamed_of_error found)]

end DocComments.Body
