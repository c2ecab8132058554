/-
  Header lines: `// Title(options): subtitle`.

  A header is a line that matches

      ^// ([A-Z][A-Za-z0-9_&-]*( ?[A-Z][A-Za-z0-9_&-]*)?)(\([^)]*\))?:( .*)?$

  and its parts are groups 1, 3 and 4.  The reader below is shown to read just these lines, as any
  match of the pattern cuts them, in Proofs/HeaderGrammar.

  In words.  A title is one word or two, the words being a capital ASCII letter followed by ASCII
  letters, digits, `_`, `&` and `-`, with at most one space between them.  Options stand in
  parentheses and may hold anything but `)`, line feeds included.  A colon follows, and then either
  nothing or a space and a text without line feed, which is the subtitle once trimmed.

  Why the reading below needs no search: a word is read as far as it goes, and what follows a word
  in any header is a space, `(` or `:`, none of which can be in a word.  A second word is there
  exactly when a space and a capital follow the first.  The two words of the pattern with NO space
  between them are one word to the reader, and the same text.

  `render` writes a header.
-/
import DocComments.Text.Split

namespace DocComments

/-- The parts of a header line.  The option text stands without its parentheses; options or
    subtitle that are absent are empty. -/
structure Header where
  title : String
  options : String
  subtitle : String
deriving Repr, DecidableEq, Inhabited

namespace Header

/-! ## The reader on lists of characters -/

/-- The characters of a title word after its first. -/
def isWordChar (c : Char) : Bool := c.isAlphanum || c == '_' || c == '&' || c == '-'

/-- A title word, and the text after it. -/
def takeWord : List Char → Option (List Char × List Char)
  | [] => none
  | c :: cs =>
    if c.isUpper then some (c :: cs.takeWhile isWordChar, cs.dropWhile isWordChar) else none

/-- The second word of a title with the space before it, and the text after it; nothing is taken
    where no second word stands. -/
def takeSecondWord (cs : List Char) : List Char × List Char :=
  match cs with
  | ' ' :: rest =>
    match takeWord rest with
    | some (word, rest) => (' ' :: word, rest)
    | none => ([], cs)
  | _ => ([], cs)

/-- A title, and the text after it. -/
def takeTitle (cs : List Char) : Option (List Char × List Char) :=
  (takeWord cs).map fun (word, rest) => (word ++ (takeSecondWord rest).1, (takeSecondWord rest).2)

/-- The text between parentheses, and the text after them; a text without an opening parenthesis
    has no options, and one that is never closed is no header. -/
def takeOptions : List Char → Option (List Char × List Char)
  | '(' :: cs => Text.cutOnce ')' cs
  | cs => some ([], cs)

/-- The subtitle after the colon. -/
def takeSubtitle : List Char → Option (List Char)
  | [':'] => some []
  | ':' :: ' ' :: tail => if '\n' ∈ tail then none else some (Text.trim tail)
  | _ => none

/-- The parts of a header: title, option text, subtitle. -/
def parts? : List Char → Option (List Char × List Char × List Char)
  | '/' :: '/' :: ' ' :: cs => do
    let (title, rest) ← takeTitle cs
    let (options, rest) ← takeOptions rest
    let subtitle ← takeSubtitle rest
    pure (title, options, subtitle)
  | _ => none

/-! ## On lines -/

/-- Read a line as a header. -/
def ofLine? (line : String) : Option Header :=
  (parts? line.toList).map fun (title, options, subtitle) =>
    ⟨String.ofList title, String.ofList options, String.ofList subtitle⟩

/-- The line is a header. -/
def isHeader (line : String) : Bool := (ofLine? line).isSome

/-- Write a header: parentheses only around options that are there, a subtitle after one space. -/
def render (h : Header) : String :=
  "// " ++ h.title ++ (if h.options = "" then "" else "(" ++ h.options ++ ")") ++ ":"
    ++ (if h.subtitle = "" then "" else " " ++ h.subtitle)

end Header

end DocComments
