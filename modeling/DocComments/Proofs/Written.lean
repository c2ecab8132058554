/-
  Headers and bodies as they are written.

  A title is one word or two with a space between them (`Header.IsTitle`); two words without a space
  are one word to the grammar.  The reader of titles takes words as far as they go, and that is
  right because what follows a title is in no word (`takeTitle_append`); nothing but a title is ever
  taken for one (`of_takeTitle`).

  A body is written at one indentation: `Body.indented k` puts the slashes and `k` spaces before a
  text.  Reading takes exactly these spaces off again, as long as the first text does not begin with
  a blank of its own, which would count as indentation (`ofLines_indented`).  What follows a body
  does not matter, if only it is no candidate (`ofLines_append`); a header is none.
-/
import DocComments.Proofs.Passages

namespace DocComments

/-! ## Titles -/

namespace Header

/-- A title word: a capital, and then letters, digits, `_`, `&` and `-`. -/
def IsWord (word : List Char) : Prop :=
  ∃ c cs, word = c :: cs ∧ c.isUpper ∧ ∀ d ∈ cs, isWordChar d

/-- One title word, or two with a space between them. -/
def IsTitle (title : List Char) : Prop :=
  IsWord title ∨ ∃ first second, IsWord first ∧ IsWord second ∧ title = first ++ ' ' :: second

variable {word title rest : List Char}

theorem isWordChar_of_isUpper {c : Char} (h : c.isUpper) : isWordChar c := by
  have letter : c.isAlpha = (c.isUpper || c.isLower) := rfl
  simp [isWordChar, Char.isAlphanum, letter, h]

theorem not_blank_of_isWordChar {c : Char} (h : isWordChar c) : Text.isBlank c = false := by
  have range : 48 ≤ c.toNat ∧ c.toNat ≤ 122 ∨ c = '&' ∨ c = '-' := by
    have letter : c.isAlpha = (decide ('A'.val ≤ c.val ∧ c.val ≤ 'Z'.val)
        || (decide ('a'.val ≤ c.val) && decide (c.val ≤ 'z'.val))) := rfl
    simp only [isWordChar, Char.isAlphanum, letter, Char.isDigit, Bool.or_eq_true,
      Bool.and_eq_true, decide_eq_true_eq, beq_iff_eq, ge_iff_le, UInt32.le_iff_toNat_le] at h
    have number : c.toNat = c.val.toNat := rfl
    have ends : '0'.val.toNat = 48 ∧ '9'.val.toNat = 57 ∧ 'A'.val.toNat = 65
        ∧ 'Z'.val.toNat = 90 ∧ 'a'.val.toNat = 97 ∧ 'z'.val.toNat = 122 :=
      ⟨rfl, rfl, rfl, rfl, rfl, rfl⟩
    rcases h with ((alphanum | rfl) | rfl) | rfl
    · omega
    · decide
    · decide
    · decide
  rcases range with ⟨ge, le⟩ | rfl | rfl
  · simp only [Text.isBlank, Text.inRanges, Text.blankRanges, List.any_cons, List.any_nil,
      Bool.or_false, Bool.or_eq_false_iff, Bool.and_eq_false_iff, decide_eq_false_iff_not]
    omega
  · decide
  · decide

/-- A word is read as far as it goes. -/
theorem takeWord_append (isWord : IsWord word)
    (stop : ∀ c, rest.head? = some c → isWordChar c = false) :
    takeWord (word ++ rest) = some (word, rest) := by
  obtain ⟨c, cs, rfl, upper, chars⟩ := isWord
  have ended : rest.takeWhile isWordChar = [] ∧ rest.dropWhile isWordChar = rest := by
    cases rest with
    | nil => exact ⟨rfl, rfl⟩
    | cons d ds => simp [stop d rfl]
  rw [List.cons_append, takeWord, if_pos upper, List.takeWhile_append_of_pos chars,
    List.dropWhile_append_of_pos chars, ended.1, ended.2, List.append_nil]

/-- **A title is read as a whole** when neither a word nor a space follows. -/
theorem takeTitle_append (isTitle : IsTitle title)
    (stop : ∀ c, rest.head? = some c → c ≠ ' ' ∧ isWordChar c = false) :
    takeTitle (title ++ rest) = some (title, rest) := by
  have ended : ∀ c, rest.head? = some c → isWordChar c = false := fun c head => (stop c head).2
  rcases isTitle with one | ⟨first, second, one, two, rfl⟩
  · have none : takeSecondWord rest = ([], rest) := by
      unfold takeSecondWord
      split
      · exact absurd rfl (stop ' ' rfl).1
      · rfl
    simp [takeTitle, takeWord_append one ended, none]
  · have space : ∀ c, (' ' :: (second ++ rest)).head? = some c → isWordChar c = false := by
      rintro c ⟨⟩
      decide
    have read := takeWord_append one space
    have again : takeSecondWord (' ' :: (second ++ rest)) = (' ' :: second, rest) := by
      simp [takeSecondWord, takeWord_append two ended]
    rw [List.append_assoc, List.cons_append, takeTitle, read]
    simp [again]

/-- What is taken as a word is one, and was there. -/
theorem of_takeWord {cs : List Char} (h : takeWord cs = some (word, rest)) :
    IsWord word ∧ cs = word ++ rest := by
  cases cs with
  | nil => simp [takeWord] at h
  | cons c cs =>
    rw [takeWord] at h
    split at h
    · rename_i upper
      cases h
      refine ⟨⟨c, _, rfl, upper, List.all_eq_true.mp List.all_takeWhile⟩, ?_⟩
      rw [List.cons_append, List.takeWhile_append_dropWhile]
    · simp at h

/-- What is taken as a second word is one with a space before it, or nothing. -/
theorem takeSecondWord_eq (cs : List Char) :
    cs = (takeSecondWord cs).1 ++ (takeSecondWord cs).2
      ∧ ((takeSecondWord cs).1 = []
        ∨ ∃ word, IsWord word ∧ (takeSecondWord cs).1 = ' ' :: word) := by
  unfold takeSecondWord
  split
  · split
    · rename_i word rest read
      obtain ⟨isWord, written⟩ := of_takeWord read
      exact ⟨congrArg (' ' :: ·) written, .inr ⟨word, isWord, rfl⟩⟩
    · exact ⟨rfl, .inl rfl⟩
  · exact ⟨rfl, .inl rfl⟩

/-- **What is taken as a title is one.** -/
theorem of_takeTitle {cs : List Char} (h : takeTitle cs = some (title, rest)) :
    IsTitle title ∧ cs = title ++ rest := by
  obtain ⟨⟨word, rest'⟩, first, eq⟩ := Option.map_eq_some_iff.mp h
  obtain ⟨rfl, rfl⟩ := Prod.mk.injEq .. ▸ eq
  obtain ⟨isWord, written⟩ := of_takeWord first
  obtain ⟨whole, none | ⟨second, two, found⟩⟩ := takeSecondWord_eq rest'
  · refine ⟨?_, by rw [written, List.append_assoc, ← whole]⟩
    rw [none, List.append_nil]
    exact .inl isWord
  · refine ⟨?_, by rw [written, List.append_assoc, ← whole]⟩
    rw [found]
    exact .inr ⟨word, second, isWord, two, rfl⟩

/-- **A header that is nothing but a title** is read as it was written. -/
theorem ofLine?_render {title : String} (isTitle : IsTitle title.toList) :
    ofLine? (render ⟨title, "", ""⟩) = some ⟨title, "", ""⟩ := by
  have written : (render ⟨title, "", ""⟩).toList
      = '/' :: '/' :: ' ' :: (title.toList ++ [':']) := by
    simp [render]
  have stop : ∀ c, [':'].head? = some c → c ≠ ' ' ∧ isWordChar c = false := by
    rintro c ⟨⟩
    decide
  have read : parts? (render ⟨title, "", ""⟩).toList = some (title.toList, [], []) := by
    rw [written, parts?, takeTitle_append isTitle stop]
    rfl
  rw [ofLine?, read]
  simp

/-- The first character of a title is a capital. -/
theorem head_of_isTitle (isTitle : IsTitle title) : ∃ c cs, title = c :: cs ∧ c.isUpper := by
  rcases isTitle with ⟨c, cs, rfl, upper, -⟩ | ⟨first, second, ⟨c, cs, rfl, upper, -⟩, -, rfl⟩
  · exact ⟨c, cs, rfl, upper⟩
  · exact ⟨c, cs ++ ' ' :: second, rfl, upper⟩

/-- Nothing is trimmed off the end of a word, whatever is before it. -/
theorem trimEnd_append_word (isWord : IsWord word) (front : List Char) :
    Text.trimEnd (front ++ word) = front ++ word := by
  obtain ⟨c, cs, rfl, upper, chars⟩ := isWord
  have plain : ∀ d ∈ c :: cs, Text.isBlank d = false := by
    intro d mem
    rcases List.mem_cons.mp mem with rfl | mem
    · exact not_blank_of_isWordChar (isWordChar_of_isUpper upper)
    · exact not_blank_of_isWordChar (chars d mem)
  have whole : ∀ l : List Char, (∀ d ∈ l, Text.isBlank d = false) → Text.trimEnd l = l := by
    intro l plain
    induction l with
    | nil => rfl
    | cons d ds ih =>
      rw [Text.trimEnd_cons_of_not_blank (plain d (List.mem_cons_self ..)),
        ih fun e mem => plain e (List.mem_cons_of_mem _ mem)]
  induction front with
  | nil => exact whole _ plain
  | cons d front ih =>
    rw [List.cons_append, Text.trimEnd_cons, ih, if_neg (by simp)]

/-- Nothing is trimmed off a title. -/
theorem trim_title (isTitle : IsTitle title) :
    Text.trimEnd title = title ∧ Text.trim title = title := by
  have ends : Text.trimEnd title = title := by
    rcases isTitle with one | ⟨first, second, -, two, rfl⟩
    · exact trimEnd_append_word one []
    · have whole := trimEnd_append_word two (first ++ [' '])
      simpa using whole
  obtain ⟨c, cs, rfl, upper⟩ := head_of_isTitle isTitle
  have plain := not_blank_of_isWordChar (isWordChar_of_isUpper upper)
  exact ⟨ends, by rw [Text.trim, Text.trimStart_cons_of_not_blank plain, ends]⟩

/-- A header is no candidate for a body. -/
theorem candidate?_of_ofLine? {line : String} {header : Header} (h : ofLine? line = some header) :
    Body.candidate? line = none := by
  cases candidate : Body.candidate? line with
  | none => rfl
  | some text =>
    rw [ofLine?_of_candidate (by simp [candidate])] at h
    simp at h

end Header

/-! ## Bodies -/

namespace Body

/-- A text as a line of a body: the slashes, `k` spaces, the text. -/
def indented (k : Nat) (text : String) : String :=
  String.ofList ('/' :: '/' :: (List.replicate k ' ' ++ text.toList))

/-- A text as reading leaves it in a body: without the blanks at its end. -/
def cleaned (text : String) : String := String.ofList (Text.trimEnd text.toList)

/-- The first of the texts does not begin with a blank. -/
def flush (texts : List String) : Bool :=
  (texts.head?.bind (·.toList.head?)).all fun c => !Text.isBlank c

/-- No body goes on with these lines. -/
def Ends (lines : List String) : Prop := lines.head?.bind candidate? = none

variable {k : Nat} {tail : List String}

theorem not_blank_of_flush {text : String} {rest : List String} (h : flush (text :: rest)) :
    ∀ c, text.toList.head? = some c → Text.isBlank c = false := by
  intro c head
  simpa [flush, head] using h

/-- A written body line is a comment. -/
theorem comment?_indented (k : Nat) (text : String) :
    comment? (indented k text) = some (List.replicate k ' ' ++ text.toList) := by
  simp [comment?, indented]

theorem le_leadingSpaces (k : Nat) (cs : List Char) :
    k ≤ leadingSpaces (List.replicate k ' ' ++ cs) := by
  rw [leadingSpaces_replicate]
  exact Nat.le_add_right ..

/-- A written body line is a candidate, if its indent is enough. -/
theorem candidate?_indented (le : minIndent ≤ k) (text : String) :
    candidate? (indented k text) = some (List.replicate k ' ' ++ text.toList) := by
  have enough : minIndent ≤ leadingSpaces (List.replicate k ' ' ++ text.toList) :=
    Nat.le_trans le (le_leadingSpaces k _)
  rw [candidate?, comment?_indented, Option.filter_some, if_pos (by simpa using enough)]

/-- A text that begins with no blank has no white space in front. -/
theorem blankWidth_of_start {cs : List Char}
    (start : ∀ c, cs.head? = some c → Text.isBlank c = false) : blankWidth cs = 0 := by
  cases cs with
  | nil => rfl
  | cons c cs => simp [blankWidth, byteWidth, start c rfl]

/-- Spaces are blanks of one byte each. -/
theorem blankWidth_replicate (k : Nat) {cs : List Char}
    (start : ∀ c, cs.head? = some c → Text.isBlank c = false) :
    blankWidth (List.replicate k ' ' ++ cs) = k := by
  rw [blankWidth_append (fun _ => isBlank_of_mem_replicate), byteWidth_replicate,
    blankWidth_of_start start, Nat.add_zero]

theorem trim_of_start {cs : List Char}
    (start : ∀ c, cs.head? = some c → Text.isBlank c = false) : Text.trim cs = Text.trimEnd cs := by
  have whole : Text.trimStart cs = cs := by
    cases cs with
    | nil => rfl
    | cons c cs => exact Text.trimStart_cons_of_not_blank (start c rfl) cs
  rw [Text.trim, whole]

/-- Spaces in front are trimmed off. -/
theorem trim_replicate (k : Nat) {cs : List Char}
    (start : ∀ c, cs.head? = some c → Text.isBlank c = false) :
    Text.trim (List.replicate k ' ' ++ cs) = Text.trimEnd cs := by
  rw [Text.trim_append (fun _ => isBlank_of_mem_replicate), trim_of_start start]

/-- Lines written with one indent are read with it. -/
theorem following_indented (le : minIndent ≤ k) (texts : List String) :
    following k (texts.map (indented k)) = .ok (texts.map cleaned) := by
  induction texts with
  | nil => rfl
  | cons text rest ih =>
    have enough : ¬ leadingSpaces (List.replicate k ' ' ++ text.toList) < k :=
      Nat.not_lt.mpr (le_leadingSpaces k _)
    have cut : (List.replicate k ' ' ++ text.toList).drop k = text.toList := by
      simp
    rw [List.map_cons, following, candidate?_indented le]
    simp only [if_neg enough, ih, cut]
    rfl

/-- **A body at one indentation** is read as it was written, but for blanks at the ends of its
    lines. -/
theorem ofLines_indented (le : minIndent ≤ k) {texts : List String} (start : flush texts) :
    ofLines (texts.map (indented k)) = .ok (texts.map cleaned) := by
  cases texts with
  | nil => rfl
  | cons text rest =>
    have first := not_blank_of_flush start
    rw [List.map_cons, ofLines, candidate?_indented le]
    simp only [blankWidth_replicate k first, following_indented le, trim_replicate k first]
    rfl

/-- A body ends where lines follow that go on with none. -/
theorem following_append (width : Nat) (lines : List String) (stop : Ends tail) :
    following width (lines ++ tail) = following width lines := by
  induction lines with
  | nil =>
    cases tail with
    | nil => rfl
    | cons line rest =>
      have none : candidate? line = none := stop
      simp [following, none]
  | cons line rest ih => rw [List.cons_append, following, following, ih]

/-- **What follows a body** is not looked at. -/
theorem ofLines_append (lines : List String) (stop : Ends tail) :
    ofLines (lines ++ tail) = ofLines lines := by
  cases lines with
  | nil =>
    cases tail with
    | nil => rfl
    | cons line rest =>
      have none : candidate? line = none := stop
      simp [ofLines, none]
  | cons line rest =>
    rw [List.cons_append, ofLines, ofLines]
    simp only [following_append _ rest stop]

/-- A header ends a body. -/
theorem ends_of_header {line : String} {header : Header} (h : Header.ofLine? line = some header)
    (rest : List String) : Ends (line :: rest) :=
  Header.candidate?_of_ofLine? h

/-- A line of dashes stays one without the blanks at its end. -/
theorem isUnderline_cleaned (text : String) : isUnderline (cleaned text) = isUnderline text := by
  simp only [isUnderline, cleaned, String.toList_ofList, Text.trim_trimEnd]

end Body

/-- How many lines a visit takes, and what it leaves, is told from the lines up to the next that is
    no candidate. -/
theorem Visit.taken_append (w : Walk) (origin : Origin) (header : Header) (inner : List String)
    {tail : List String} (ends : Body.Ends tail) :
    let v : Visit := ⟨w, origin, header, inner ++ tail⟩
    let taken := Body.extent (Body.ofLines inner)
    v.taken = taken ∧ v.rest.drop taken = inner.drop taken ++ tail := by
  intro v taken
  refine ⟨?_, List.drop_append_of_le_length (Body.extent_le inner)⟩
  rw [Visit.taken_eq, Body.ofLines_append inner ends]

end DocComments
