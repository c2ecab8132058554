/-
  The body of a block: the indented comment lines after its header.

  A line is a CANDIDATE when it begins with `//` and at least two spaces.  The body starts at the
  line after the header and ends before the first line that is no candidate.  Its first line fixes
  the indentation: the width, in UTF-8 bytes, of ALL the white space after the slashes, tabs and
  wide spaces too.  Every later line must have at least that many spaces; it loses exactly that
  many, and its trailing white space.  A later candidate with fewer is UNDER-INDENTED: the block is
  refused, and reading goes on at that line.

  The indentation is measured in bytes on the first line and counted in spaces on the others, where
  a space is one byte and one character: no cut ever falls inside a character.

    * `ofLines_length_le`  a body is no longer than the lines it is taken from;
    * `lt_of_ofLines_error`  a refusal names one of the lines, never the first;
    * `ofLines_candidates`  the lines of a body are candidates, and so they are comments
      (`ofLines_comments`); the under-indented line is a comment too (`isComment_of_ofLines_error`).
-/
import DocComments.Text.Split

namespace DocComments.Body

/-- The text after the slashes of a comment line. -/
def comment? (line : String) : Option (List Char) :=
  match line.toList with
  | '/' :: '/' :: text => some text
  | _ => none

/-- The line begins with `//`. -/
def isComment (line : String) : Bool := (comment? line).isSome

/-- The number of spaces at the start of a text. -/
def leadingSpaces (text : List Char) : Nat := (text.takeWhile (· == ' ')).length

/-- The width of a text in bytes. -/
def byteWidth : List Char → Nat
  | [] => 0
  | c :: cs => c.utf8Size + byteWidth cs

/-- The width in bytes of the white space at the start of a text. -/
def blankWidth (text : List Char) : Nat := byteWidth (text.takeWhile Text.isBlank)

/-- A body line has at least this many spaces after the slashes. -/
def minIndent : Nat := 2

/-- The text after the slashes, when the line is a candidate for a body. -/
def candidate? (line : String) : Option (List Char) :=
  (comment? line).filter fun text => minIndent ≤ leadingSpaces text

/-- The lines that follow the first body line, less `width` spaces each.  The error is the number
    of lines before the first under-indented one. -/
def following (width : Nat) : List String → Except Nat (List String)
  | [] => .ok []
  | line :: rest =>
    match candidate? line with
    | none => .ok []
    | some text =>
      if leadingSpaces text < width then .error 0
      else match following width rest with
        | .ok body => .ok (String.ofList (Text.trimEnd (text.drop width)) :: body)
        | .error n => .error (n + 1)

/-- The body that starts at the first of these lines.  The error is the number of lines before the
    under-indented one. -/
def ofLines : List String → Except Nat (List String)
  | [] => .ok []
  | line :: rest =>
    match candidate? line with
    | none => .ok []
    | some text =>
      match following (blankWidth text) rest with
      | .ok body => .ok (String.ofList (Text.trim text) :: body)
      | .error n => .error (n + 1)

/-! ## Extraction at an index -/

/-- The body lines of a block, and the index of the first line after them. -/
structure Extract where
  lines : List String
  next : Nat
deriving Repr, DecidableEq

/-- The body that starts at index `start` of a unit; the error is the index of the under-indented
    line. -/
def extract (lines : List String) (start : Nat) : Except Nat Extract :=
  match ofLines (lines.drop start) with
  | .ok body => .ok ⟨body, start + body.length⟩
  | .error n => .error (start + n)

/-! ## Widths -/

/-- Widths add up. -/
theorem byteWidth_append (front rest : List Char) :
    byteWidth (front ++ rest) = byteWidth front + byteWidth rest := by
  induction front with
  | nil => simp [byteWidth]
  | cons c front ih =>
    simp only [List.cons_append, byteWidth, ih]
    omega

/-- A space is one byte. -/
theorem byteWidth_replicate (k : Nat) : byteWidth (List.replicate k ' ') = k := by
  induction k with
  | zero => rfl
  | succ k ih =>
    have one : ' '.utf8Size = 1 := by decide
    rw [List.replicate_succ, byteWidth, ih, one, Nat.add_comm]

/-- Spaces in front add to those that follow them. -/
theorem leadingSpaces_replicate (k : Nat) (cs : List Char) :
    leadingSpaces (List.replicate k ' ' ++ cs) = k + leadingSpaces cs := by
  rw [leadingSpaces, List.takeWhile_append_of_pos (by simp), List.length_append,
    List.length_replicate, leadingSpaces]

/-- Blanks in front add to those that follow them. -/
theorem blankWidth_append {front : List Char} (blank : ∀ c ∈ front, Text.isBlank c = true)
    (cs : List Char) : blankWidth (front ++ cs) = byteWidth front + blankWidth cs := by
  rw [blankWidth, List.takeWhile_append_of_pos blank, byteWidth_append, blankWidth]

theorem isBlank_of_mem_replicate {k : Nat} {c : Char} (mem : c ∈ List.replicate k ' ') :
    Text.isBlank c = true := by
  rw [List.eq_of_mem_replicate mem]
  decide

/-! ## How far a body reaches -/

theorem following_length_le {width : Nat} {lines body : List String}
    (h : following width lines = .ok body) : body.length ≤ lines.length := by
  induction lines generalizing body with
  | nil => simp [following] at h; simp [← h]
  | cons line rest ih =>
    rw [following] at h
    split at h
    · simp at h; simp [h]
    · split at h
      · simp at h
      · split at h
        · rename_i found
          simp only [Except.ok.injEq] at h
          have := ih found
          simp only [← h, List.length_cons]; omega
        · simp at h

/-- A body is no longer than the lines it is taken from. -/
theorem ofLines_length_le {lines body : List String} (h : ofLines lines = .ok body) :
    body.length ≤ lines.length := by
  cases lines with
  | nil => simp [ofLines] at h; simp [← h]
  | cons line rest =>
    rw [ofLines] at h
    split at h
    · simp at h; simp [h]
    · split at h
      · rename_i found
        simp only [Except.ok.injEq] at h
        have := following_length_le found
        simp only [← h, List.length_cons]; omega
      · simp at h

theorem lt_of_following_error {width : Nat} {lines : List String} {n : Nat}
    (h : following width lines = .error n) : n < lines.length := by
  induction lines generalizing n with
  | nil => simp [following] at h
  | cons line rest ih =>
    rw [following] at h
    split at h
    · simp at h
    · split at h
      · simp at h; simp [← h]
      · split at h
        · simp at h
        · rename_i found
          simp only [Except.error.injEq] at h
          have := ih found
          simp only [← h, List.length_cons]; omega

/-- A refusal names one of the lines, and never the first. -/
theorem lt_of_ofLines_error {lines : List String} {n : Nat} (h : ofLines lines = .error n) :
    0 < n ∧ n < lines.length := by
  cases lines with
  | nil => simp [ofLines] at h
  | cons line rest =>
    rw [ofLines] at h
    split at h
    · simp at h
    · split at h
      · simp at h
      · rename_i found
        simp only [Except.error.injEq] at h
        have := lt_of_following_error found
        simp only [← h, List.length_cons]; omega

/-! ## What a body is made of -/

/-- A comment begins with two slashes. -/
theorem comment?_eq_some_iff {line : String} {text : List Char} :
    comment? line = some text ↔ line.toList = '/' :: '/' :: text := by
  unfold comment?
  split
  · rename_i found written
    simp [written]
  · rename_i other
    simpa using other text

/-- Enough spaces for a body are two. -/
theorem minIndent_le_leadingSpaces_iff {text : List Char} :
    minIndent ≤ leadingSpaces text ↔ [' ', ' '] <+: text := by
  constructor
  · intro enough
    match text with
    | [] => simp [minIndent, leadingSpaces] at enough
    | [c] => by_cases space : c = ' ' <;> simp [minIndent, leadingSpaces, space] at enough
    | c :: d :: rest =>
      by_cases first : c = ' '
      · by_cases second : d = ' '
        · simp [first, second]
        · simp [minIndent, leadingSpaces, first, second] at enough
      · simp [minIndent, leadingSpaces, first] at enough
  · rintro ⟨rest, rfl⟩
    have spaces := leadingSpaces_replicate minIndent rest
    exact Nat.le.intro spaces.symm

/-- **A candidate** begins with two slashes and at least two spaces. -/
theorem candidate?_eq_some_iff {line : String} {text : List Char} :
    candidate? line = some text ↔ line.toList = '/' :: '/' :: text ∧ [' ', ' '] <+: text := by
  rw [candidate?, Option.filter_eq_some_iff, comment?_eq_some_iff, decide_eq_true_iff,
    minIndent_le_leadingSpaces_iff]

theorem isComment_of_candidate? {line : String} {text : List Char}
    (h : candidate? line = some text) : isComment line := by
  obtain ⟨found, -⟩ := Option.filter_eq_some_iff.mp h
  rw [isComment, found]
  rfl

/-- How many of the lines belong to a body, the under-indented line not counted. -/
def extent : Except Nat (List String) → Nat
  | .ok body => body.length
  | .error n => n

theorem extent_le (lines : List String) : extent (ofLines lines) ≤ lines.length := by
  cases found : ofLines lines with
  | ok body => exact ofLines_length_le found
  | error n => exact Nat.le_of_lt (lt_of_ofLines_error found).2

/-- The later lines of a body are candidates. -/
theorem following_candidates (width : Nat) (lines : List String) :
    ∀ text ∈ lines.take (extent (following width lines)), (candidate? text).isSome := by
  induction lines with
  | nil => simp
  | cons line rest ih =>
    rw [following]
    split
    · simp [extent]
    · rename_i text candidate
      split
      · simp [extent]
      · split
        · rename_i body found
          simpa [extent, found, candidate] using ih
        · rename_i n found
          simpa [extent, found, candidate] using ih

/-- The lines of a body are candidates. -/
theorem ofLines_candidates (lines : List String) :
    ∀ text ∈ lines.take (extent (ofLines lines)), (candidate? text).isSome := by
  cases lines with
  | nil => simp
  | cons line rest =>
    rw [ofLines]
    split
    · simp [extent]
    · rename_i text candidate
      have later := following_candidates (blankWidth text) rest
      split
      · rename_i body found
        simpa [extent, found, candidate] using later
      · rename_i n found
        simpa [extent, found, candidate] using later

/-- The lines of a body are comments. -/
theorem ofLines_comments (lines : List String) :
    ∀ text ∈ lines.take (extent (ofLines lines)), isComment text := by
  intro text mem
  obtain ⟨_, candidate⟩ := Option.isSome_iff_exists.mp (ofLines_candidates lines text mem)
  exact isComment_of_candidate? candidate

theorem isComment_of_following_error {width : Nat} {lines : List String} {n : Nat}
    (h : following width lines = .error n) : (lines.drop n).head?.any isComment := by
  induction lines generalizing n with
  | nil => simp [following] at h
  | cons line rest ih =>
    rw [following] at h
    split at h
    · simp at h
    · rename_i text candidate
      split at h
      · obtain rfl : 0 = n := by simpa using h
        simpa using isComment_of_candidate? candidate
      · split at h
        · simp at h
        · rename_i m found
          obtain rfl : m + 1 = n := by simpa using h
          simpa using ih found

/-- An under-indented line is a comment. -/
theorem isComment_of_ofLines_error {lines : List String} {n : Nat} (h : ofLines lines = .error n) :
    (lines.drop n).head?.any isComment := by
  cases lines with
  | nil => simp [ofLines] at h
  | cons line rest =>
    rw [ofLines] at h
    split at h
    · simp at h
    · split at h
      · simp at h
      · rename_i m found
        obtain rfl : m + 1 = n := by simpa using h
        simpa using isComment_of_following_error found

end DocComments.Body
