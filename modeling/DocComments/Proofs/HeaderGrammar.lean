/-
  The pattern of header lines, its grammar, and the reader.

  A header is a line that matches the whole of

      ^// ([A-Z][A-Za-z0-9_&-]*( ?[A-Z][A-Za-z0-9_&-]*)?)(\([^)]*\))?:( .*)?$

  (`Header.pattern`).  Group 1 is its title, group 3 its options with their parentheses, group 4
  the space and the text after the colon (`ofCaptures`).

  The grammar (`Header.Parses`) says the same of the line itself: `// `, a title of one word or
  two with at most one space between them, options in parentheses or none, a colon, and nothing or
  a space and the rest of the line (`exists_parses`, `exists_matches`).  It is ambiguous in one
  place only, and there it does not matter: two words without a space between them are one word too
  (`isWord_joined`), so group 2 depends on the match, but no group that is read does.

  The reader takes a word as far as it goes.  That is no choice, since what follows a title is `(`
  or `:` and what follows options is `:`, and none of these goes on with what stands before it
  (`stop_after_title`).  So the reader accepts what the grammar says (`parts?_of_parses`) and
  nothing else (`parses_of_parts?`), and the grammar cuts a line in one way (`Parses.unique`).

    * `header_exact`  headers are exactly the lines that match the pattern, which are those of the
                      grammar, and are read as the captures and the grammar cut them.
-/
import DocComments.Proofs.Written
import DocComments.Text.Pattern

namespace DocComments.Header

open Text (Pattern CharSet Captures)

/-! ## The pattern -/

/-- The letters that a word begins with: `[A-Z]`. -/
def capitals : CharSet := .among [('A', 'Z')]

/-- The characters after them: `[A-Za-z0-9_&-]`. -/
def laters : CharSet :=
  .among [('A', 'Z'), ('a', 'z'), ('0', '9'), ('_', '_'), ('&', '&'), ('-', '-')]

/-- The pattern of a word: `[A-Z][A-Za-z0-9_&-]*`. -/
def wordPattern : Pattern := .seq (.one capitals) (.many (.one laters))

/-- The pattern of a title: a word, and maybe another, as group 2, with maybe a space before it. -/
def titlePattern : Pattern :=
  .seq wordPattern (.maybe (.group 2 (.seq (.maybe (.text [' '])) wordPattern)))

/-- The pattern of options, which are group 3: parentheses around anything but a closing one. -/
def optionsPattern : Pattern :=
  .maybe (.group 3 (.seq (.text ['(']) (.seq (.many (.one (.besides [(')', ')')])))
    (.text [')']))))

/-- The pattern of what follows the colon, which is group 4: a space and a text in the line. -/
def tailPattern : Pattern := .maybe (.group 4 (.seq (.text [' ']) (.many (.one .dot))))

/-- The pattern of a header, to be matched by the whole line. -/
def pattern : Pattern :=
  .seq (.text ['/', '/', ' ']) (.seq (.group 1 titlePattern)
    (.seq optionsPattern (.seq (.text [':']) tailPattern)))

example : "^" ++ String.ofList pattern.source ++ "$"
    = "^// ([A-Z][A-Za-z0-9_&-]*( ?[A-Z][A-Za-z0-9_&-]*)?)(\\([^)]*\\))?:( .*)?$" := by
  decide +kernel

/-- What is made of the captures of a header: group 1 is the title, group 3 without its first and
    last character the options, and group 4 without the blanks around it the subtitle.  A group
    that took no part leaves its field empty. -/
def ofCaptures (captures : Captures) : Header where
  title := String.ofList ((captures.group? 1).getD [])
  options := String.ofList (((captures.group? 3).map fun held => held.tail.dropLast).getD [])
  subtitle := Text.strip (String.ofList ((captures.group? 4).getD []))

/-! ## The grammar -/

/-- A capital letter: `[A-Z]`. -/
def Capital (c : Char) : Prop := 'A' ≤ c ∧ c ≤ 'Z'

/-- A later character of a word: `[A-Za-z0-9_&-]`. -/
def Later (c : Char) : Prop :=
  Capital c ∨ ('a' ≤ c ∧ c ≤ 'z') ∨ ('0' ≤ c ∧ c ≤ '9') ∨ c = '_' ∨ c = '&' ∨ c = '-'

/-- A word: a capital, and then any number of later characters. -/
inductive Word : List Char → Prop
  | intro {c : Char} {cs : List Char} (capital : Capital c) (later : ∀ d ∈ cs, Later d) :
    Word (c :: cs)

/-- A title: one word or two, with at most one space between them. -/
inductive Title : List Char → Prop
  | one {word : List Char} (isWord : Word word) : Title word
  | joined {first second : List Char} (one : Word first) (two : Word second) :
    Title (first ++ second)
  | spaced {first second : List Char} (one : Word first) (two : Word second) :
    Title (first ++ ' ' :: second)

/-- What may follow the colon: nothing, or a space and a text without line feed. -/
inductive Tail : List Char → Prop
  | bare : Tail []
  | text {cs : List Char} (inLine : '\n' ∉ cs) : Tail (' ' :: cs)

/-- Options as they are written: in parentheses, or not at all. -/
def grouped : Option (List Char) → List Char
  | none => []
  | some options => '(' :: options ++ [')']

/-- The line is a header with this title, these options and this tail. -/
structure Parses (line : String) (title : List Char) (options : Option (List Char))
    (tail : List Char) : Prop where
  isTitle : Title title
  enclosed : ∀ held, options = some held → ')' ∉ held
  isTail : Tail tail
  written : line.toList = '/' :: '/' :: ' ' :: (title ++ (grouped options ++ ':' :: tail))

/-! ## Words and titles -/

theorem capital_iff {c : Char} : Capital c ↔ c.isUpper := by
  have upper : c.isUpper = decide ('A'.val ≤ c.val ∧ c.val ≤ 'Z'.val) := rfl
  simp [Capital, upper, Char.le_def]

theorem later_iff {c : Char} : Later c ↔ isWordChar c := by
  have letter : c.isAlpha
      = (c.isUpper || (decide ('a'.val ≤ c.val) && decide (c.val ≤ 'z'.val))) := rfl
  simp [Later, capital_iff, isWordChar, Char.isAlphanum, letter, Char.isDigit, Char.le_def,
    or_assoc]

/-- The words of the grammar are those of the reader. -/
theorem word_iff {word : List Char} : Word word ↔ IsWord word := by
  constructor
  · rintro ⟨capital, later⟩
    exact ⟨_, _, rfl, capital_iff.mp capital, fun d mem => later_iff.mp (later d mem)⟩
  · rintro ⟨c, cs, rfl, upper, chars⟩
    exact ⟨capital_iff.mpr upper, fun d mem => later_iff.mpr (chars d mem)⟩

/-- Whether a text is a word can be computed. -/
instance : DecidablePred Word
  | [] => isFalse nofun
  | c :: cs =>
    decidable_of_iff (c.isUpper ∧ cs.all isWordChar) <| by
      rw [word_iff, List.all_eq_true]
      constructor
      · rintro ⟨upper, chars⟩
        exact ⟨c, cs, rfl, upper, chars⟩
      · rintro ⟨_, _, ⟨⟩, upper, chars⟩
        exact ⟨upper, chars⟩

/-- Two words without a space between them are one word. -/
theorem isWord_joined {first second : List Char} (one : IsWord first) (two : IsWord second) :
    IsWord (first ++ second) := by
  obtain ⟨c, cs, rfl, upper, chars⟩ := one
  obtain ⟨d, ds, rfl, upper', chars'⟩ := two
  refine ⟨c, cs ++ d :: ds, rfl, upper, fun e mem => ?_⟩
  rcases List.mem_append.mp mem with early | late
  · exact chars e early
  · rcases List.mem_cons.mp late with rfl | later
    · exact isWordChar_of_isUpper upper'
    · exact chars' e later

/-- The titles of the grammar are those of the reader, which has no title of joined words. -/
theorem title_iff {title : List Char} : Title title ↔ IsTitle title := by
  constructor
  · rintro (isWord | ⟨one, two⟩ | ⟨one, two⟩)
    · exact .inl (word_iff.mp isWord)
    · exact .inl (isWord_joined (word_iff.mp one) (word_iff.mp two))
    · exact .inr ⟨_, _, word_iff.mp one, word_iff.mp two, rfl⟩
  · rintro (isWord | ⟨first, second, one, two, rfl⟩)
    · exact .one (word_iff.mpr isWord)
    · exact .spaced (word_iff.mpr one) (word_iff.mpr two)

/-! ## The matches of the pattern -/

variable {line : String} {cs title title' tail tail' : List Char}
  {options options' : Option (List Char)} {captures : Captures}

theorem has_capitals {c : Char} : capitals.Has c ↔ Capital c := by
  simp [capitals, CharSet.Has, Capital]

/-- A range of one character has that character only. -/
theorem has_single {c d : Char} : (d ≤ c ∧ c ≤ d) ↔ c = d := by
  rw [and_comm, ← Std.le_antisymm_iff]

/-- The second set of the pattern, as the grammar spells it out. -/
theorem has_laters {c : Char} : laters.Has c ↔ Later c := by
  simp [laters, CharSet.Has, Later, Capital, has_single]

/-- A match of a word is a word, and captures nothing. -/
theorem matches_wordPattern : wordPattern.Matches cs captures ↔ Word cs ∧ captures = [] := by
  simp only [wordPattern, Pattern.matches_seq, Pattern.matches_one, Pattern.matches_many_one,
    has_capitals, has_laters]
  constructor
  · rintro ⟨_, later, _, _, ⟨c, capital, rfl, rfl⟩, ⟨within, rfl⟩, rfl, rfl⟩
    exact ⟨.intro capital within, rfl⟩
  · rintro ⟨⟨capital, within⟩, rfl⟩
    exact ⟨_, _, _, _, ⟨_, capital, rfl, rfl⟩, ⟨within, rfl⟩, rfl, rfl⟩

/-- A match of the title goes through no group but the second word. -/
theorem title_of_matches (found : titlePattern.Matches cs captures) :
    Title cs ∧ (captures = [] ∨ ∃ second, captures = [(2, second)]) := by
  simp only [titlePattern, Pattern.matches_seq, Pattern.matches_maybe, Pattern.matches_group,
    Pattern.matches_text, matches_wordPattern] at found
  obtain ⟨first, _, _, _, ⟨one, rfl⟩, ⟨rfl, rfl⟩ | ⟨_, ⟨_, second, _, _,
    ⟨rfl, rfl⟩ | ⟨rfl, rfl⟩, ⟨two, rfl⟩, rfl, rfl⟩, rfl⟩, rfl, rfl⟩ := found
  · simpa using Title.one one
  · exact ⟨.joined one two, .inr ⟨_, rfl⟩⟩
  · exact ⟨.spaced one two, .inr ⟨_, rfl⟩⟩

/-- A title has a match. -/
theorem exists_matches_title (isTitle : Title cs) :
    ∃ captures, titlePattern.Matches cs captures := by
  cases isTitle with
  | one isWord =>
    have early := matches_wordPattern.mpr ⟨isWord, rfl⟩
    exact ⟨[], by simpa [titlePattern] using early.seq .absent⟩
  | joined one two =>
    have early := matches_wordPattern.mpr ⟨one, rfl⟩
    have late := matches_wordPattern.mpr ⟨two, rfl⟩
    exact ⟨_, early.seq (.present (.group (.seq .absent late)))⟩
  | spaced one two =>
    have early := matches_wordPattern.mpr ⟨one, rfl⟩
    have late := matches_wordPattern.mpr ⟨two, rfl⟩
    exact ⟨_, early.seq (.present (.group (.seq (.present .text) late)))⟩

/-- A match of the options is how some are written, and captures just that. -/
theorem matches_optionsPattern :
    optionsPattern.Matches cs captures ↔ ∃ options, (∀ held, options = some held → ')' ∉ held)
      ∧ cs = grouped options ∧ captures = (options.map fun _ => (3, cs)).toList := by
  have free (held : List Char) :
      (∀ c ∈ held, CharSet.Has (.besides [(')', ')')]) c) ↔ ')' ∉ held := by
    simp only [CharSet.Has, List.mem_singleton, forall_eq, has_single, List.forall_mem_ne']
  constructor
  · intro found
    simp only [optionsPattern, Pattern.matches_seq, Pattern.matches_maybe, Pattern.matches_group,
      Pattern.matches_text, Pattern.matches_many_one, free] at found
    obtain ⟨rfl, rfl⟩ | ⟨_, ⟨_, _, _, _, ⟨rfl, rfl⟩, ⟨held, _, _, _, ⟨within, rfl⟩, ⟨rfl, rfl⟩, rfl,
      rfl⟩, rfl, rfl⟩, rfl⟩ := found
    · exact ⟨none, by simp, rfl, rfl⟩
    · exact ⟨some held, by simpa using within, by simp [grouped], by simp⟩
  · rintro ⟨options, enclosed, rfl, rfl⟩
    cases options with
    | none => exact .absent
    | some held =>
      have within := Pattern.matches_many_one.mpr ⟨(free held).mpr (enclosed held rfl), rfl⟩
      exact .present (.group (.seq .text (within.seq .text)))

/-- A match of what follows the colon is a tail, and captures it where it is not empty. -/
theorem matches_tailPattern :
    tailPattern.Matches cs captures
      ↔ Tail cs ∧ captures = if cs = [] then [] else [(4, cs)] := by
  have free (held : List Char) : (∀ c ∈ held, CharSet.Has .dot c) ↔ '\n' ∉ held := by
    simp only [CharSet.Has, ne_eq, List.forall_mem_ne']
  constructor
  · intro found
    simp only [tailPattern, Pattern.matches_seq, Pattern.matches_maybe, Pattern.matches_group,
      Pattern.matches_text, Pattern.matches_many_one, free] at found
    obtain ⟨rfl, rfl⟩ | ⟨_, ⟨_, held, _, _, ⟨rfl, rfl⟩, ⟨inLine, rfl⟩, rfl, rfl⟩, rfl⟩ := found
    · exact ⟨.bare, by simp⟩
    · exact ⟨.text inLine, by simp⟩
  · rintro ⟨isTail, rfl⟩
    cases isTail with
    | bare => exact .absent
    | text inLine =>
      have within := Pattern.matches_many_one.mpr ⟨(free _).mpr inLine, rfl⟩
      exact .present (.group (.seq .text within))

/-- **A match cuts the line as the grammar does**, and captures the parts of that cut. -/
theorem exists_parses (found : pattern.Matches line.toList captures) :
    ∃ title options tail, Parses line title options tail ∧ captures.group? 1 = some title
      ∧ captures.group? 3 = options.map (fun held => '(' :: held ++ [')'])
      ∧ captures.group? 4 = if tail = [] then none else some tail := by
  simp only [pattern, Pattern.matches_seq, Pattern.matches_group, Pattern.matches_text,
    matches_optionsPattern, matches_tailPattern] at found
  obtain ⟨_, _, _, _, ⟨rfl, rfl⟩, ⟨title, _, _, _, ⟨inner, isTitle, rfl⟩, ⟨_, _, _, _,
    ⟨options, enclosed, rfl, rfl⟩, ⟨_, tail, _, _, ⟨rfl, rfl⟩, ⟨isTail, rfl⟩, rfl, rfl⟩, rfl, rfl⟩,
    rfl, rfl⟩, written, rfl⟩ := found
  obtain ⟨isTitle, alone⟩ := title_of_matches isTitle
  refine ⟨title, options, tail, ⟨isTitle, enclosed, isTail, written⟩, ?_⟩
  -- the second word is the only other group, so each group that is read is found by its number
  have others : inner.lookup 1 = none ∧ inner.lookup 3 = none ∧ inner.lookup 4 = none
      ∧ inner.reverse = inner := by
    obtain rfl | ⟨second, rfl⟩ := alone <;> simp [List.lookup_cons]
  cases options <;> by_cases bare : tail = [] <;>
    simp [Captures.group?, grouped, bare, List.lookup_cons, others]

/-- **What the grammar cuts is matched.** -/
theorem exists_matches (parses : Parses line title options tail) :
    ∃ captures, pattern.Matches line.toList captures := by
  obtain ⟨inner, isTitle⟩ := exists_matches_title parses.isTitle
  have isOptions := matches_optionsPattern.mpr ⟨options, parses.enclosed, rfl, rfl⟩
  have isTail := matches_tailPattern.mpr ⟨parses.isTail, rfl⟩
  rw [parses.written]
  exact ⟨_, .seq .text (.seq isTitle.group (isOptions.seq (.seq .text isTail)))⟩

/-! ## What the grammar says is read -/

/-- Neither a word nor a second word goes on with what follows a title. -/
theorem stop_after_title (options : Option (List Char)) (tail : List Char) :
    ∀ c, (grouped options ++ ':' :: tail).head? = some c → c ≠ ' ' ∧ isWordChar c = false := by
  cases options with
  | none =>
    rintro c ⟨⟩
    decide
  | some held =>
    rintro c ⟨⟩
    decide

/-- Options are taken as they are written. -/
theorem takeOptions_grouped (enclosed : ∀ held, options = some held → ')' ∉ held)
    (tail : List Char) :
    takeOptions (grouped options ++ ':' :: tail) = some (options.getD [], ':' :: tail) := by
  cases options with
  | none => rfl
  | some held =>
    have cut := Text.cutOnce_append (enclosed held rfl) (':' :: tail)
    simpa [grouped, takeOptions] using cut

theorem takeSubtitle_tail (isTail : Tail tail) :
    takeSubtitle (':' :: tail) = some (Text.trim tail) := by
  cases isTail with
  | bare => rfl
  | text inLine =>
    have space : Text.isBlank ' ' = true := by decide
    rw [takeSubtitle, if_neg inLine, Text.trim_cons space]

/-- **What the grammar says is read.** -/
theorem parts?_of_parses (parses : Parses line title options tail) :
    parts? line.toList = some (title, options.getD [], Text.trim tail) := by
  have read := takeTitle_append (title_iff.mp parses.isTitle) (stop_after_title options tail)
  rw [parses.written, parts?, read]
  simp [takeOptions_grouped parses.enclosed, takeSubtitle_tail parses.isTail]

/-- Options are told from how they are written. -/
theorem grouped_inj (same : grouped options = grouped options') : options = options' := by
  cases options with
  | none =>
    cases options' with
    | none => rfl
    | some held' => simp [grouped] at same
  | some held =>
    cases options' with
    | none => simp [grouped] at same
    | some held' => simpa [grouped] using same

/-- **A line is cut in one way.** -/
theorem Parses.unique (parses : Parses line title options tail)
    (parses' : Parses line title' options' tail') :
    title' = title ∧ options' = options ∧ tail' = tail := by
  have cut := takeTitle_append (title_iff.mp parses.isTitle) (stop_after_title options tail)
  have cut' := takeTitle_append (title_iff.mp parses'.isTitle) (stop_after_title options' tail')
  have whole := parses.written.symm.trans parses'.written
  simp only [List.cons.injEq, true_and] at whole
  rw [← whole, cut] at cut'
  obtain ⟨rfl, after⟩ : title = title' ∧ grouped options ++ ':' :: tail
      = grouped options' ++ ':' :: tail' := by simpa using cut'
  -- the two rests are read as the same options and the same tail
  have taken := takeOptions_grouped parses.enclosed tail
  rw [after, takeOptions_grouped parses'.enclosed tail'] at taken
  obtain ⟨-, rfl⟩ : options'.getD [] = options.getD [] ∧ tail' = tail := by simpa using taken
  exact ⟨rfl, grouped_inj (List.append_cancel_right after).symm, rfl⟩

/-! ## Nothing else is read -/

/-- What is taken as options was written as such. -/
theorem of_takeOptions {cs rest held : List Char} (taken : takeOptions cs = some (held, rest)) :
    ∃ options, options.getD [] = held ∧ (∀ held, options = some held → ')' ∉ held)
      ∧ cs = grouped options ++ rest := by
  unfold takeOptions at taken
  split at taken
  · obtain ⟨written, free⟩ := Text.eq_of_cutOnce taken
    refine ⟨some held, rfl, ?_, ?_⟩
    · rintro _ ⟨⟩
      exact free
    · rw [written, grouped]
      simp
  · cases taken
    exact ⟨none, rfl, by simp, rfl⟩

/-- What is taken as a subtitle was written as a tail. -/
theorem of_takeSubtitle {cs subtitle : List Char} (taken : takeSubtitle cs = some subtitle) :
    ∃ tail, Tail tail ∧ cs = ':' :: tail ∧ subtitle = Text.trim tail := by
  unfold takeSubtitle at taken
  split at taken
  · cases taken
    exact ⟨[], .bare, rfl, rfl⟩
  · rename_i cs
    split at taken
    · simp at taken
    · rename_i inLine
      have isTail : Tail (' ' :: cs) := .text inLine
      have read := takeSubtitle_tail isTail
      rw [takeSubtitle, if_neg inLine, taken] at read
      exact ⟨_, isTail, rfl, by simpa using read⟩
  · simp at taken

/-- **Nothing else is read.** -/
theorem parses_of_parts? {parts : List Char × List Char × List Char}
    (read : parts? line.toList = some parts) :
    ∃ title options tail, Parses line title options tail := by
  unfold parts? at read
  split at read
  · rename_i cs written
    simp only [Option.bind_eq_bind, Option.bind_eq_some_iff] at read
    obtain ⟨⟨title, rest⟩, first, ⟨held, rest'⟩, second, subtitle, third, -⟩ := read
    obtain ⟨isTitle, rfl⟩ := of_takeTitle first
    obtain ⟨options, -, enclosed, rfl⟩ := of_takeOptions second
    obtain ⟨tail, isTail, rfl, -⟩ := of_takeSubtitle third
    exact ⟨title, options, tail, title_iff.mpr isTitle, enclosed, isTail, written⟩
  · simp at read

theorem ofLine?_of_parses (parses : Parses line title options tail) :
    ofLine? line = some ⟨String.ofList title, String.ofList (options.getD []),
      String.ofList (Text.trim tail)⟩ := by
  rw [ofLine?, parts?_of_parses parses]
  rfl

/-- **The grammar** says which lines are headers. -/
theorem isHeader_iff (line : String) :
    isHeader line ↔ ∃ title options tail, Parses line title options tail := by
  constructor
  · intro header
    obtain ⟨header, read⟩ := Option.isSome_iff_exists.mp header
    obtain ⟨parts, read, -⟩ := Option.map_eq_some_iff.mp read
    exact parses_of_parts? read
  · rintro ⟨title, options, tail, parses⟩
    rw [isHeader, ofLine?_of_parses parses]
    rfl

/-- **Whatever the match, the captures are what is read.** -/
theorem ofLine?_of_matches (found : pattern.Matches line.toList captures) :
    ofLine? line = some (ofCaptures captures) := by
  obtain ⟨title, options, tail, parses, one, three, four⟩ := exists_parses found
  have subtitle : (captures.group? 4).getD [] = tail := by
    by_cases bare : tail = [] <;> simp [four, bare]
  have held : ((captures.group? 3).map fun held => held.tail.dropLast).getD []
      = options.getD [] := by
    cases options <;> simp [three]
  rw [ofLine?_of_parses parses, ofCaptures, one, held, subtitle, Text.strip, String.toList_ofList]
  rfl

/-- **The pattern** says which lines are headers. -/
theorem isHeader_iff_matches (line : String) :
    isHeader line ↔ ∃ captures, pattern.Matches line.toList captures := by
  rw [isHeader_iff]
  constructor
  · rintro ⟨title, options, tail, parses⟩
    exact exists_matches parses
  · rintro ⟨captures, found⟩
    obtain ⟨title, options, tail, parses, -⟩ := exists_parses found
    exact ⟨title, options, tail, parses⟩

/-- **Headers are the lines of the pattern, and of its grammar.**  A line is a header exactly if it
    matches the pattern, and then it is read as its captures, whichever match they are of.  It is one
    exactly if the grammar cuts it into a title, options and a tail.  There is one such cut, and the
    line is read as its title, its options (empty where there are none) and its tail without the
    blanks around it.  What is written as a title, options and a subtitle that has no blanks around
    it and no line feed in it is read back as that. -/
theorem header_exact :
    (∀ line, isHeader line ↔ ∃ captures, pattern.Matches line.toList captures)
      ∧ (∀ line captures, pattern.Matches line.toList captures →
          ofLine? line = some (ofCaptures captures))
      ∧ (∀ line, isHeader line ↔ ∃ title options tail, Parses line title options tail)
      ∧ (∀ line, (ofLine? line).isSome ↔ isHeader line)
      ∧ (∀ line title options tail, Parses line title options tail →
          ofLine? line = some ⟨String.ofList title, String.ofList (options.getD []),
              Text.strip (String.ofList tail)⟩
            ∧ ∀ title' options' tail', Parses line title' options' tail' →
                title' = title ∧ options' = options ∧ tail' = tail)
      ∧ ∀ (title : String) (options : Option (List Char)) (subtitle : String),
          Title title.toList → (∀ held, options = some held → ')' ∉ held) →
          Text.strip subtitle = subtitle → '\n' ∉ subtitle.toList →
          ofLine? ("// " ++ title ++ String.ofList (grouped options) ++ ": " ++ subtitle)
            = some ⟨title, String.ofList (options.getD []), subtitle⟩ := by
  refine ⟨isHeader_iff_matches, fun line captures found => ofLine?_of_matches found, isHeader_iff,
    fun line => Iff.rfl, fun line title options tail parses => ⟨?_, ?_⟩,
    fun title options subtitle isTitle enclosed trimmed inLine => ?_⟩
  · rw [ofLine?_of_parses parses, Text.strip, String.toList_ofList]
  · exact fun _ _ _ parses' => parses.unique parses'
  · have parses : Parses ("// " ++ title ++ String.ofList (grouped options) ++ ": " ++ subtitle)
        title.toList options (' ' :: subtitle.toList) :=
      ⟨isTitle, enclosed, .text inLine, by simp⟩
    have space : Text.isBlank ' ' = true := by decide
    have same : String.ofList (Text.trim subtitle.toList) = subtitle := trimmed
    rw [ofLine?_of_parses parses, Text.trim_cons space, same, String.ofList_toList]

/-- Options may hold opening parentheses and line feeds; the wide space at the end is trimmed off.
    Empty options are options that are there.  A third word makes a line no header. -/
theorem header_exact_two_words :
    let line := "// See Also(a(b;\nc):  x, y \u3000"
    Parses line ['S', 'e', 'e', ' ', 'A', 'l', 's', 'o'] (some ['a', '(', 'b', ';', '\n', 'c'])
        [' ', ' ', 'x', ',', ' ', 'y', ' ', '\u3000']
      ∧ ofLine? line = some ⟨"See Also", "a(b;\nc", "x, y"⟩
      ∧ (∃ captures, pattern.Matches line.toList captures
          ∧ ofCaptures captures = ⟨"See Also", "a(b;\nc", "x, y"⟩)
      ∧ ofLine? "// Function&Module(): cyl(h, r)" = some ⟨"Function&Module", "", "cyl(h, r)"⟩
      ∧ ¬ ∃ title options tail, Parses "// Three Word Title: x" title options tail := by
  intro line
  obtain ⟨matched, captured, headers, -, cuts, written⟩ := header_exact
  have see : Word ['S', 'e', 'e'] := by decide
  have also : Word ['A', 'l', 's', 'o'] := by decide
  have parses : Parses line ['S', 'e', 'e', ' ', 'A', 'l', 's', 'o']
      (some ['a', '(', 'b', ';', '\n', 'c']) [' ', ' ', 'x', ',', ' ', 'y', ' ', '\u3000'] :=
    ⟨.spaced see also, by simp, .text (by decide +kernel), by decide⟩
  have read : ofLine? line = some ⟨"See Also", "a(b;\nc", "x, y"⟩ :=
    (cuts _ _ _ _ parses).1.trans (by decide +kernel)
  have oneWord : Title "Function&Module".toList := .one (by decide)
  refine ⟨parses, read, ?_, ?_, ?_⟩
  · obtain ⟨captures, found⟩ := (matched line).mp ((headers line).mpr ⟨_, _, _, parses⟩)
    have same := (captured line captures found).symm.trans read
    exact ⟨captures, found, Option.some.inj same⟩
  · exact written "Function&Module" (some []) "cyl(h, r)" oneWord (by simp) (by decide +kernel)
      (by decide +kernel)
  · rw [← headers]
    decide +kernel

end DocComments.Header
