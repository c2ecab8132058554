/-
  JSON values, and their text laid out over several lines.

  Every item of an array and every field of an object has a line of its own, two columns to the
  right of the brackets; empty arrays and objects are just their brackets.  Fields keep their order.

  In strings, the quote, the backslash and the control characters below the blank are escaped, and
  nothing else is.
-/

namespace DocComments

/-- A JSON value; numbers are natural. -/
inductive Json where
  | string (s : String)
  | number (n : Nat)
  | boolean (b : Bool)
  | array (items : List Json)
  | object (fields : List (String × Json))
deriving Repr, Inhabited

namespace Json

/-! ## Strings -/

/-- One of the sixteen hexadecimal digits, in lower case. -/
def hexDigit (n : Nat) : Char := Nat.digitChar (n % 16)

/-- A character as it stands in a string. -/
def escapeChar (c : Char) : List Char :=
  match c with
  | '"' => ['\\', '"']
  | '\\' => ['\\', '\\']
  | '\x08' => ['\\', 'b']
  | '\t' => ['\\', 't']
  | '\n' => ['\\', 'n']
  | '\x0c' => ['\\', 'f']
  | '\r' => ['\\', 'r']
  | c =>
    if c.toNat < 0x20 then ['\\', 'u', '0', '0', hexDigit (c.toNat / 16), hexDigit c.toNat] else [c]

/-- A text as it stands in a string. -/
def escaped (cs : List Char) : List Char := cs.flatMap escapeChar

/-- A string with its quotes. -/
def quoted (s : String) : String := "\"" ++ String.ofList (escaped s.toList) ++ "\""

/-! ## Layout -/

/-- A new line that starts at a level of nesting. -/
def lineStart (level : Nat) : String := String.ofList ('\n' :: List.replicate (2 * level) ' ')

/-- Written items between brackets, each on a line of its own. -/
def bracketed (opening closing : String) (level : Nat) (items : List String) : String :=
  if items.isEmpty then opening ++ closing
  else
    opening ++ ",".intercalate (items.map (lineStart (level + 1) ++ ·)) ++ lineStart level ++ closing

mutual

/-- The text of a value that stands at a level of nesting. -/
def textAt (level : Nat) : Json → String
  | .string s => quoted s
  | .number n => toString n
  | .boolean true => "true"
  | .boolean false => "false"
  | .array items => bracketed "[" "]" level (itemTexts (level + 1) items)
  | .object fields => bracketed "\x7b" "\x7d" level (fieldTexts (level + 1) fields)

/-- The texts of the items of an array. -/
def itemTexts (level : Nat) : List Json → List String
  | [] => []
  | item :: items => textAt level item :: itemTexts level items

/-- The texts of the fields of an object. -/
def fieldTexts (level : Nat) : List (String × Json) → List String
  | [] => []
  | (key, value) :: fields =>
    (quoted key ++ ": " ++ textAt level value) :: fieldTexts level fields

end

/-- The text of a value. -/
def text (value : Json) : String := textAt 0 value

end Json

end DocComments
