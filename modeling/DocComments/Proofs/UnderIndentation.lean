/-
  Which lines are to blame.

  A body takes its width from its first line, and there all white space counts, each character with
  its bytes.  Later lines are measured by their spaces alone.  The two measures agree on spaces and
  on nothing else: a tab counts on the first line and not on the others, and a wide space counts
  two or three times on the first.

  So a line to blame has fewer spaces than the first line has bytes (`Blamed.texts`), and is narrower
  when the first has no wide white space and it has none but spaces itself.  But lines with one and
  the same white space in front are a body only if that is all spaces, or if there is no second
  line; otherwise the second line is to blame, although it is indented as the first one is
  (`ofLines_led`).

    * `blamed_by_spaces`       which lines are to blame, and which bodies with one indentation are;
    * `same_tabs_are_blamed`   a line to blame that is not narrower.
-/
import DocComments.Proofs.Extraction
import Mathlib.Data.List.Basic

namespace DocComments.Body

/-! ## The white space at the front of a text -/

/-- How many characters of white space a text begins with. -/
def leadingBlanks (text : List Char) : Nat := (text.takeWhile Text.isBlank).length

/-- The white space at the front of a text is all spaces. -/
def Spaced (text : List Char) : Prop := leadingSpaces text = leadingBlanks text

/-- No character of the white space at the front of a text takes more than a byte. -/
def Slim (text : List Char) : Prop := blankWidth text = leadingBlanks text

theorem length_le_byteWidth (cs : List Char) : cs.length ≤ byteWidth cs := by
  induction cs with
  | nil => exact Nat.le_refl 0
  | cons c cs ih =>
    have pos : 0 < c.utf8Size := c.utf8Size_pos
    rw [byteWidth, List.length_cons]
    omega

/-- Spaces are fewer than bytes as soon as there is anything but a space. -/
theorem leadingSpaces_lt_byteWidth {lead : List Char} (other : ¬ lead.all (· == ' ')) :
    leadingSpaces lead < byteWidth lead := by
  have le := (List.takeWhile_sublist (l := lead) (· == ' ')).length_le
  have short : leadingSpaces lead ≠ lead.length := by
    intro whole
    have all : lead.takeWhile (· == ' ') = lead := (List.takeWhile_sublist _).eq_of_length whole
    have inside := List.all_takeWhile (p := (· == ' ')) (l := lead)
    rw [all] at inside
    exact other inside
  exact Nat.lt_of_lt_of_le (Nat.lt_of_le_of_ne le short) (length_le_byteWidth lead)

variable {lead cs : List Char}

/-- Where no space follows, a text begins with the spaces of its white space. -/
theorem leadingSpaces_append (start : ∀ c, cs.head? = some c → Text.isBlank c = false) :
    leadingSpaces (lead ++ cs) = leadingSpaces lead := by
  have ended : cs.takeWhile (· == ' ') = [] := by
    cases cs with
    | nil => rfl
    | cons c cs =>
      have plain : c ≠ ' ' := by
        rintro rfl
        exact absurd (start ' ' rfl) (by decide)
      simp [plain]
  rw [leadingSpaces, List.takeWhile_append, ended]
  split
  · rename_i whole
    rw [List.append_nil]
    exact whole.symm
  · rfl

theorem blankWidth_append_text (blank : ∀ c ∈ lead, Text.isBlank c = true)
    (start : ∀ c, cs.head? = some c → Text.isBlank c = false) :
    blankWidth (lead ++ cs) = byteWidth lead := by
  rw [blankWidth_append blank, blankWidth_of_start start, Nat.add_zero]

/-! ## Lines to blame -/

variable {lines : List String} {start l : Nat}

/-- The first line of a body that has a line to blame, and that line. -/
theorem Blamed.texts (blamed : Blamed lines start l) :
    ∃ first text, candidateAt? lines start = some first ∧ candidateAt? lines l = some text
      ∧ leadingSpaces text < blankWidth first := by
  obtain ⟨next, reaches, lt⟩ := blamed.within
  have here := reaches.within start (Nat.le_refl _) (Nat.lt_trans blamed.lt lt)
  have there := reaches.within l (Nat.le_of_lt blamed.lt) lt
  obtain ⟨first, first?⟩ := Option.isSome_iff_exists.mp here
  obtain ⟨text, text?⟩ := Option.isSome_iff_exists.mp there
  refine ⟨first, text, first?, text?, ?_⟩
  simpa [spacesAt, widthAt, first?, text?] using blamed.short

/-! ## One indentation for all lines -/

/-- A line of a body with some white space in front of its text. -/
def led (lead : List Char) (text : String) : String :=
  String.ofList ('/' :: '/' :: (lead ++ text.toList))

theorem candidate?_led (two : [' ', ' '] <+: lead) (text : String) :
    candidate? (led lead text) = some (lead ++ text.toList) :=
  candidate?_eq_some_iff.mpr ⟨String.toList_ofList, two.trans (List.prefix_append ..)⟩

/-- Texts that begin with no white space do so at the first of them. -/
theorem flush_of_starts {texts : List String}
    (starts : ∀ text ∈ texts, ∀ c, text.toList.head? = some c → Text.isBlank c = false) :
    flush texts := by
  cases texts with
  | nil => rfl
  | cons text rest =>
    have plain := starts text (List.mem_cons_self ..)
    cases head : text.toList.head? with
    | none => simp [flush, head]
    | some c => simp [flush, head, plain c head]

/-- **Lines with the same white space in front** are a body if it is all spaces or if there is one
    line at most; otherwise the second of them is to blame. -/
theorem ofLines_led (blank : ∀ c ∈ lead, Text.isBlank c = true) (two : [' ', ' '] <+: lead)
    {texts tail : List String} (ends : Ends tail)
    (starts : ∀ text ∈ texts, ∀ c, text.toList.head? = some c → Text.isBlank c = false) :
    ofLines (texts.map (led lead) ++ tail)
      = if lead.all (· == ' ') ∨ texts.length ≤ 1 then .ok (texts.map cleaned) else .error 1 := by
  by_cases spaced : lead.all (· == ' ')
  · obtain ⟨k, rfl⟩ : ∃ k, lead = List.replicate k ' ' :=
      ⟨_, List.eq_replicate_of_mem fun c mem => beq_iff_eq.mp (List.all_eq_true.mp spaced c mem)⟩
    have le : minIndent ≤ k := by
      have longer := two.length_le
      rwa [List.length_replicate] at longer
    rw [if_pos (.inl spaced), ofLines_append _ ends]
    exact ofLines_indented le (flush_of_starts starts)
  · rw [ofLines_eq, candidates_map (candidate?_led two) ends]
    rcases texts with _ | ⟨first, _ | ⟨second, rest⟩⟩
    · simp [bodyOf]
    · have trimmed : Text.trim (lead ++ first.toList) = Text.trimEnd first.toList := by
        rw [Text.trim_append blank, trim_of_start (starts first (List.mem_cons_self ..))]
      simp [bodyOf, trimmed, cleaned]
    · have short : leadingSpaces (lead ++ second.toList) < blankWidth (lead ++ first.toList) := by
        rw [leadingSpaces_append (starts second (by simp)),
          blankWidth_append_text blank (starts first (by simp))]
        exact leadingSpaces_lt_byteWidth spaced
      rw [if_neg (by simp [spaced])]
      simp [bodyOf, List.findIdx?_cons, short]

/-! ## The two measures -/

/-- **Lines to blame have fewer spaces than the first line has bytes of white space.**  Where the
    first line has no wide white space and the line to blame no white space but spaces, it is
    narrower.  Lines that all have the same white space in front of a text are a body, with their
    texts as its lines, exactly if that is all spaces or there is no second line; otherwise the
    second line is to blame. -/
theorem blamed_by_spaces (lines : List String) (start : Nat) :
    (∀ l, extract lines start = .error l →
        ∃ first text, candidateAt? lines start = some first ∧ candidateAt? lines l = some text
          ∧ leadingSpaces text < blankWidth first
          ∧ (Slim first → Spaced text → leadingBlanks text < leadingBlanks first))
      ∧ ∀ (lead : List Char) (texts tail : List String),
          (∀ c ∈ lead, Text.isBlank c = true) → [' ', ' '] <+: lead → Ends tail →
          (∀ text ∈ texts, ∀ c, text.toList.head? = some c → Text.isBlank c = false) →
          lines.drop start = texts.map (led lead) ++ tail →
          extract lines start
            = if lead.all (· == ' ') ∨ texts.length ≤ 1
              then .ok ⟨texts.map cleaned, start + texts.length⟩
              else .error (start + 1) := by
  constructor
  · intro l found
    obtain ⟨first, text, first?, text?, short⟩ := (blamed_of_error found).texts
    refine ⟨first, text, first?, text?, short, fun slim spaced => ?_⟩
    rwa [← slim, ← spaced]
  · intro lead texts tail blank two ends starts written
    rw [extract, written, ofLines_led blank two ends starts]
    by_cases together : lead.all (· == ' ') ∨ texts.length ≤ 1
    · simp only [if_pos together, List.length_map]
    · simp only [if_neg together]

/-- A line with three spaces under one with five is narrower.  Lines with three spaces each are a
    body, and lines with two spaces and a tab each are none. -/
theorem blamed_by_spaces_shallow :
    let lines := ["// Usage:", "//     deep", "//   shallow"]
    let evenly := fun (lead : List Char) => ["// Usage:"] ++ (["a", "b "].map (led lead) ++ ["//"])
    extract lines 1 = .error 2
      ∧ (∃ first text, candidateAt? lines 1 = some first ∧ candidateAt? lines 2 = some text
          ∧ leadingBlanks text < leadingBlanks first)
      ∧ evenly [' ', ' ', '\t'] = ["// Usage:", "//  \ta", "//  \tb ", "//"]
      ∧ extract (evenly [' ', ' ', ' ']) 1 = .ok ⟨["a", "b"], 3⟩
      ∧ extract (evenly [' ', ' ', '\t']) 1 = .error 2 := by
  intro lines evenly
  have blamed : extract lines 1 = .error 2 := by decide +kernel
  obtain ⟨report, -⟩ := blamed_by_spaces lines 1
  have ends : Ends ["//"] := by
    unfold Ends
    decide +kernel
  have starts : ∀ text ∈ ["a", "b "], ∀ c, text.toList.head? = some c →
      Text.isBlank c = false := by
    intro text mem c head
    obtain rfl | rfl : text = "a" ∨ text = "b " := by simpa using mem
    · obtain rfl : 'a' = c := by simpa using head
      decide
    · obtain rfl : 'b' = c := by simpa using head
      decide
  refine ⟨blamed, ?_, by decide +kernel, ?_, ?_⟩
  · obtain ⟨first, text, first?, text?, -, narrower⟩ := report 2 blamed
    have deep : candidateAt? lines 1 = some "     deep".toList := by decide +kernel
    have shallow : candidateAt? lines 2 = some "   shallow".toList := by decide +kernel
    obtain rfl : "     deep".toList = first := by simpa [deep] using first?
    obtain rfl : "   shallow".toList = text := by simpa [shallow] using text?
    have slim : Slim "     deep".toList := by
      unfold Slim
      decide +kernel
    have spaced : Spaced "   shallow".toList := by
      unfold Spaced
      decide +kernel
    exact ⟨_, _, deep, shallow, narrower slim spaced⟩
  · have blank : ∀ c ∈ [' ', ' ', ' '], Text.isBlank c = true := List.all_eq_true.mp (by decide)
    have found := (blamed_by_spaces (evenly [' ', ' ', ' ']) 1).2 _ _ _ blank (by decide) ends
      starts rfl
    rw [if_pos (.inl (by decide))] at found
    exact found
  · have blank : ∀ c ∈ [' ', ' ', '\t'], Text.isBlank c = true := List.all_eq_true.mp (by decide)
    have found := (blamed_by_spaces (evenly [' ', ' ', '\t']) 1).2 _ _ _ blank (by decide) ends
      starts rfl
    rw [if_neg (by decide)] at found
    exact found

/-- **A line to blame that is not narrower:** both lines begin with two spaces and a tab. -/
theorem same_tabs_are_blamed :
    let lines := ["// Usage:", "//  \ta", "//  \tb"]
    extract lines 1 = .error 2
      ∧ (candidateAt? lines 1).map leadingBlanks = some 3
      ∧ (candidateAt? lines 2).map leadingBlanks = some 3 := by
  decide +kernel

end DocComments.Body
