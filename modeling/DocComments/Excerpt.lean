/-
  Log entries shown with the source line that they point to.

      error: Unrecognized block: Bogus
        ┌─ b.scad:2:1
        │  
      2 │ ╭ // Bogus: x
      3 │ │ // Function: foo()
        │ ╰^

  What is marked is the whole line with its end, so the mark reaches over to the line that follows,
  if there is one.  The last line of a source has none and is underlined with carets instead, one
  for each column of its text, and one more when characters at its end are not shown.

  Tabs are shown as blanks up to the next stop.  Characters that end a line, and NUL, are not shown
  at the end of one.
-/
import DocComments.Log
import DocComments.Terminal
import DocComments.Text.Columns
import DocComments.Text.Split

namespace DocComments.Excerpt

/-! ## Colours -/

/-- The colour of the frame around the source. -/
def frameCode : String := "36"

/-- The word for a severity. -/
def word : Severity → String
  | .failure => "error"
  | .warning => "warning"

/-- The colour of that word. -/
def wordCode : Severity → String
  | .failure => "38;5;9"
  | .warning => "38;5;11"

/-- The colour of the mark in the source. -/
def markCode : Severity → String
  | .failure => "31"
  | .warning => "33"

/-- The terminal code of the message line: bold. -/
def boldCode : String := "1"

/-! ## Lines of source -/

/-- The line with a number, and the one that follows it, if there is one.  Lines are counted from
    one; the empty text after a last line feed is a line too. -/
def linesAt (source : String) (number : Nat) : Option (List Char × Option (List Char)) :=
  match (Text.pieces '\n' source.toList).drop (number - 1) with
  | [] => none
  | line :: rest => some (line, rest.head?)

/-- The character is not shown at the end of a line. -/
def isLineEnd (c : Char) : Bool := c = '\n' || c = '\r' || c = '\x00'

/-- The part of a line that is shown. -/
def shownPart (line : List Char) : List Char := (line.reverse.dropWhile isLineEnd).reverse

/-- A line with its tabs as blanks. -/
def expandTabs (line : List Char) : String :=
  String.ofList ((Text.columns line).flatMap fun (c, width) =>
    if c = '\t' then List.replicate width ' ' else [c])

/-- The columns that a line takes. -/
def lineColumns (line : List Char) : Nat := Text.totalColumns (Text.columns line)

/-- The carets under a line: one for each of its columns, one for what is not shown of it, and never
    none. -/
def caretCount (line : List Char) : Nat :=
  let shown := shownPart line
  lineColumns shown + if shown.length < line.length || shown.isEmpty then 1 else 0

/-! ## Drawing -/

/-- Where and how an excerpt is drawn: the width of its line numbers, the colour of its mark. -/
structure Pen where
  plain : Bool
  gutter : Nat
  mark : String

namespace Pen

/-- A part of the mark. -/
def marked (pen : Pen) (text : String) : String := Terminal.spans pen.plain [([pen.mark], text)]

/-- A line that the mark covers. -/
def covered (pen : Pen) (line : List Char) : String :=
  if (shownPart line).isEmpty then "" else pen.marked (expandTabs (shownPart line))

/-- A part of the frame. -/
def frame (pen : Pen) (text : String) : String := Terminal.spans pen.plain [([frameCode], text)]

/-- The blanks in place of a line number, and the frame. -/
def margin (pen : Pen) (corner : String) : String :=
  String.ofList (List.replicate (pen.gutter + 1) ' ') ++ pen.frame corner

/-- A line number and the frame. -/
def numbered (pen : Pen) (number : Nat) : String :=
  let digits := toString number
  pen.frame (String.ofList (List.replicate (pen.gutter - digits.length) ' ') ++ digits)
    ++ " " ++ pen.frame "│"

/-- A line and the line after it, with the mark beside them. -/
def drawTwo (pen : Pen) (number : Nat) (line next : List Char) : List String :=
  [pen.margin "│" ++ "  ",
   pen.numbered number ++ " " ++ pen.marked "╭" ++ " " ++ pen.covered line,
   pen.numbered (number + 1) ++ " " ++ pen.marked "│" ++ " " ++ expandTabs (shownPart next),
   pen.margin "│" ++ " " ++ pen.marked "╰" ++ pen.marked "^"]

/-- A last line with the mark under it. -/
def drawOne (pen : Pen) (number : Nat) (line : List Char) : List String :=
  [pen.margin "│",
   pen.numbered number ++ " " ++ pen.covered line,
   pen.margin "│" ++ " " ++ pen.marked (String.ofList (List.replicate (caretCount line) '^'))]

end Pen

/-- The lines that show an entry at a line of its source. -/
def draw (plain : Bool) (entry : LogEntry) (line : List Char) (next : Option (List Char)) :
    List String :=
  let number := entry.origin.line
  let greatest := if next.isSome then number + 1 else number
  let pen : Pen := ⟨plain, (toString greatest).length, markCode entry.severity⟩
  [Terminal.spans plain [([boldCode, wordCode entry.severity], word entry.severity),
      ([boldCode], ": " ++ entry.message)],
   pen.margin "┌─" ++ " " ++ entry.origin.text ++ ":1"]
    ++ (match next with
      | some next => pen.drawTwo number line next
      | none => pen.drawOne number line)
    ++ [""]

/-- The lines that show an entry, given the source it comes from: an excerpt, or just the entry when
    there is no such source or no such line in it. -/
def render (plain : Bool) (entry : LogEntry) (source : Option String) : List String :=
  match source.bind (linesAt · entry.origin.line) with
  | none => [entry.text]
  | some (line, next) => draw plain entry line next

end DocComments.Excerpt
