/-
  A block as it stands in a source unit, and the blocks that an item's body holds.

  The body of an item may be cut by underlined headings.  The lines before the first heading are the
  item's own; each heading opens a block of its own, without options and without subtitle.
-/
import DocComments.Body
import DocComments.Header
import DocComments.OptionList
import DocComments.Origin

namespace DocComments

/-- A block as written: the parts of its header, its body, and the place of the header. -/
structure Block where
  title : String
  options : OptionList := {}
  subtitle : String := ""
  body : List String := []
  origin : Origin
deriving Repr, DecidableEq, Inhabited

/-- The block of a header. -/
def Header.block (header : Header) (body : List String) (origin : Origin) : Block where
  title := header.title
  options := OptionList.ofText header.options
  subtitle := header.subtitle
  body := body
  origin := origin

/-! ## Underlined headings inside a body -/

/-- A line of three or more dashes, blanks around them allowed. -/
def isUnderline (line : String) : Bool :=
  let dashes := Text.trim line.toList
  3 ≤ dashes.length && dashes.all (· == '-')

/-- A line that is underlined by the next: it is neither blank nor an underline itself. -/
def isHeading (line next : String) : Bool :=
  Text.strip line ≠ "" && !isUnderline line && isUnderline next

/-- Split body lines at the underlined headings: the lines before the first heading, and a block
    for each heading with the lines up to the next.  The first of the lines has the number
    `origin.line + n + 1`. -/
def splitAtHeadings (origin : Origin) (n : Nat) : List String → List String × List Block
  | [] => ([], [])
  | [line] => ([line], [])
  | line :: next :: rest =>
    if isHeading line next then
      let (body, blocks) := splitAtHeadings origin (n + 2) rest
      let heading := ⟨origin.file, origin.line + n + 1⟩
      ([], { title := Text.strip line, body, origin := heading } :: blocks)
    else
      let (own, blocks) := splitAtHeadings origin (n + 1) (next :: rest)
      (line :: own, blocks)

end DocComments
