/-
  TOML documents.

  A document is a run of lines: comments, `key = value` pairs, and headers.  The pairs before the
  first header belong to the root table, the others to the table that the header before them opens.
  Values nest less than `maxDepth` levels deep, which is what the recursion on values counts down.
-/
import DocComments.Toml.Scalar

namespace DocComments.Toml

/-! ## Values -/

/-- The values of an array; the opening bracket has been read. -/
def arrayItems (item : List Char → Option (Value × List Char)) (cs : List Char) :
    Option (List Value × List Char) := do
  match ← skipLines cs with
  | ']' :: rest => some ([], rest)
  | start =>
    let (value, rest) ← item start
    match ← skipLines rest with
    | ']' :: rest => some ([value], rest)
    | ',' :: rest =>
      if _shorter : rest.length < cs.length then
        let (values, rest) ← arrayItems item rest
        some (value :: values, rest)
      else none
    | _ => none
termination_by cs.length

/-- A pair `key = value`. -/
def pair (item : List Char → Option (Value × List Char)) (cs : List Char) :
    Option ((List String × Value) × List Char) := do
  let (path, rest) ← key cs
  let (value, rest) ← item (skipBlanks (← after '=' rest))
  some ((path, value), rest)

/-- The pairs of an inline table, of which there is at least one. -/
def inlinePairs (item : List Char → Option (Value × List Char)) (cs : List Char) :
    Option (List (List String × Value) × List Char) := do
  let (first, rest) ← pair item cs
  match skipBlanks rest with
  | '}' :: rest => some ([first], rest)
  | ',' :: rest =>
    if _shorter : rest.length < cs.length then
      let (more, rest) ← inlinePairs item rest
      some (first :: more, rest)
    else none
  | _ => none
termination_by cs.length

/-- An inline table; the opening brace has been read. -/
def inlineTable (item : List Char → Option (Value × List Char)) (cs : List Char) :
    Option (Value × List Char) :=
  match skipBlanks cs with
  | '}' :: rest => some (.table .inline [], rest)
  | start => do
    let (pairs, rest) ← inlinePairs item start
    let entries ← insertAll [] pairs
    some (.table .inline entries, rest)

/-- A value that is neither array nor table. -/
def scalar (cs : List Char) : Option (Value × List Char) :=
  match cs with
  | 't' :: 'r' :: 'u' :: 'e' :: rest => some (.boolean true, rest)
  | 'f' :: 'a' :: 'l' :: 's' :: 'e' :: rest => some (.boolean false, rest)
  | '"' :: _ => (string cs).map fun (s, rest) => (.string s, rest)
  | '\'' :: _ => (string cs).map fun (s, rest) => (.string s, rest)
  | _ => date cs <|> float cs <|> integer cs

/-- A value with fewer than `depth` levels of arrays and inline tables. -/
def value : Nat → List Char → Option (Value × List Char)
  | 0, _ => none
  | depth + 1, '[' :: cs =>
    if depth = 0 then none
    else (arrayItems (value depth) cs).map fun (items, rest) => (.array items, rest)
  | depth + 1, '\x7b' :: cs => if depth = 0 then none else inlineTable (value depth) cs
  | _ + 1, cs => scalar cs

/-! ## Lines -/

/-- What a line of a document says. -/
inductive Line where
  | nothing
  | pair (path : List String) (value : Value)
  | header (path : List String)
  | element (path : List String)
deriving Inhabited

/-- A header after its opening brackets, up to the end of its line. -/
def headerLine (closing : Nat) (make : List String → Line) (cs : List Char) :
    Option (Line × List Char) := do
  let (path, rest) ← key cs
  if rest.take closing = List.replicate closing ']' then
    some (make path, ← lineEnd? (rest.drop closing))
  else none

/-- One line of a document, up to and with its end; blanks before it have been skipped. -/
def line (cs : List Char) : Option (Line × List Char) :=
  match cs with
  | '#' :: _ => (lineEnd? cs).map fun rest => (.nothing, rest)
  | '\n' :: _ => (newline? cs).map fun rest => (.nothing, rest)
  | '\r' :: _ => (newline? cs).map fun rest => (.nothing, rest)
  | '[' :: '[' :: rest => headerLine 2 .element rest
  | '[' :: rest => headerLine 1 .header rest
  | _ => do
    let ((path, v), rest) ← pair (value maxDepth) cs
    some (.pair path v, ← lineEnd? rest)

/-- All lines of a document. -/
def documentLines (cs : List Char) : Option (List Line) :=
  match skipBlanks cs with
  | [] => some []
  | start => do
    let (first, rest) ← line start
    if _shorter : rest.length < cs.length then
      let more ← documentLines rest
      some (first :: more)
    else none
termination_by cs.length

/-- The pairs that stand before the next header, and the lines from that header on. -/
def leadingPairs : List Line → List (List String × Value) × List Line
  | .nothing :: lines => leadingPairs lines
  | .pair path v :: lines =>
    let (pairs, rest) := leadingPairs lines
    ((path, v) :: pairs, rest)
  | lines => ([], lines)

theorem leadingPairs_length_le (lines : List Line) :
    (leadingPairs lines).2.length ≤ lines.length := by
  fun_induction leadingPairs lines <;> simp_all <;> omega

/-- The root table with the tables of all headers. -/
def openHeaders (root : Entries) (lines : List Line) : Option Entries :=
  match lines with
  | .header path :: rest =>
    have := leadingPairs_length_le rest
    (openHeader (openTable (leadingPairs rest).1) path root).bind fun root =>
      openHeaders root (leadingPairs rest).2
  | .element path :: rest =>
    have := leadingPairs_length_le rest
    (openHeader (openElement (leadingPairs rest).1) path root).bind fun root =>
      openHeaders root (leadingPairs rest).2
  | _ => some root
termination_by lines.length

/-- The text without the byte-order mark that may open it. -/
def dropMark : List Char → List Char
  | '\ufeff' :: cs => cs
  | cs => cs

/-- Read a document. -/
def read? (text : String) : Option Entries := do
  let lines ← documentLines (dropMark text.toList)
  let root ← insertAll [] (leadingPairs lines).1
  openHeaders root (leadingPairs lines).2

end DocComments.Toml
