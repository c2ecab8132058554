/-
  The two parts of a fixture: settings first, then the source text.

      ---
      expect_items = ["foo()"]
      ---
      // Function: foo()

  The text opens with three dashes, byte-order marks before them aside.  The settings run to the
  first line feed that three dashes follow, and the source starts after these.  One line end after
  either fence belongs to the fence; a line end may have a carriage return in front.
-/
import DocComments.Text.Split

namespace DocComments.FrontMatter

/-- What stands before and after the settings. -/
def fence : List Char := ['-', '-', '-']

/-- Why a text has no two parts, or its settings no meaning. -/
inductive Defect where
  | noOpening
  | noClosing
  | badSettings
deriving Repr, DecidableEq, Inhabited

/-- The text of a defect. -/
def Defect.message : Defect → String
  | .noOpening => "missing opening --- frontmatter delimiter"
  | .noClosing => "missing closing --- frontmatter delimiter"
  | .badSettings => "TOML parse error"

/-- The text without the line end that it may begin with. -/
def dropLineEnd : List Char → List Char
  | '\n' :: cs => cs
  | '\r' :: '\n' :: cs => cs
  | cs => cs

/-- The text without the carriage returns at its end. -/
def dropReturns (cs : List Char) : List Char := (cs.reverse.dropWhile (· = '\r')).reverse

/-- The text without the byte-order marks at its start. -/
def dropMarks (cs : List Char) : List Char := cs.dropWhile (· = '\ufeff')

/-- The settings and the source of a text. -/
def split (cs : List Char) : Except Defect (List Char × List Char) :=
  if Text.startsWith fence (dropMarks cs) then
    match Text.cutAt ('\n' :: fence) (dropLineEnd ((dropMarks cs).drop fence.length)) with
    | none => .error .noClosing
    | some (settings, source) => .ok (dropReturns settings, dropLineEnd source)
  else .error .noOpening

end DocComments.FrontMatter
