/-
  The lexical part of TOML: blanks, comments, keys, strings, numbers, dates.

  Each reader takes the text to come and gives what it read with the text after it, or fails.  Line
  feeds end lines, with or without a carriage return before them; a carriage return alone is an
  error, and so is every other control character but the tab.
-/
import DocComments.Toml.Value
import DocComments.Text.Split

namespace DocComments.Toml

/-! ## Blanks, line ends, comments -/

/-- The text after the spaces and tabs at its start. -/
def skipBlanks (cs : List Char) : List Char := cs.dropWhile fun c => c == ' ' || c == '\t'

/-- The text after a line end that stands first. -/
def newline? : List Char → Option (List Char)
  | '\n' :: cs => some cs
  | '\r' :: '\n' :: cs => some cs
  | _ => none

/-- A character that may stand in comments and strings: a tab, or no control character. -/
def isPlain (c : Char) : Bool := c == '\t' || (0x20 ≤ c.toNat && c.toNat ≠ 0x7f)

/-- The text after a comment, if one stands first. -/
def skipComment : List Char → List Char
  | '#' :: cs => cs.dropWhile isPlain
  | cs => cs

/-- The text after the rest of a line that holds nothing more than a comment. -/
def lineEnd? (cs : List Char) : Option (List Char) :=
  match skipComment (skipBlanks cs) with
  | [] => some []
  | rest => newline? rest

/-- The text after blanks, line ends, and comments that end in a line end; it fails on a comment or
    a carriage return without line feed. -/
def skipLines (cs : List Char) : Option (List Char) :=
  let start := skipBlanks cs
  match start with
  | [] => some []
  | c :: _ =>
    if c = '#' ∨ c = '\n' ∨ c = '\r' then
      match newline? (skipComment start) with
      | none => none
      | some rest => if _shorter : rest.length < cs.length then skipLines rest else none
    else some start
termination_by cs.length

/-! ## Strings -/

/-- The value of a hexadecimal digit, in either case. -/
def hexDigit? (c : Char) : Option Nat :=
  if c.isDigit then some (c.toNat - '0'.toNat)
  else if 'a' ≤ c && c ≤ 'f' then some (c.toNat - 'a'.toNat + 10)
  else if 'A' ≤ c && c ≤ 'F' then some (c.toNat - 'A'.toNat + 10)
  else none

/-- The character with a code point of exactly `width` hexadecimal digits. -/
def codePoint (width : Nat) (cs : List Char) : Option (Char × List Char) := do
  let digits ← (cs.take width).mapM hexDigit?
  let point := digits.foldl (fun n d => 16 * n + d) 0
  if digits.length = width ∧ point.isValidChar then some (Char.ofNat point, cs.drop width) else none

/-- The character that an escape stands for; the backslash has been read. -/
def escape : List Char → Option (Char × List Char)
  | 'b' :: cs => some ('\x08', cs)
  | 'f' :: cs => some ('\x0c', cs)
  | 'n' :: cs => some ('\n', cs)
  | 'r' :: cs => some ('\r', cs)
  | 't' :: cs => some ('\t', cs)
  | '\\' :: cs => some ('\\', cs)
  | '"' :: cs => some ('"', cs)
  | 'u' :: cs => codePoint 4 cs
  | 'U' :: cs => codePoint 8 cs
  | _ => none

/-- The text after the blanks and line ends that an escaped line end swallows. -/
def skipFolded : List Char → List Char
  | ' ' :: cs => skipFolded cs
  | '\t' :: cs => skipFolded cs
  | '\n' :: cs => skipFolded cs
  | '\r' :: '\n' :: cs => skipFolded cs
  | cs => cs

/-- A text that was read with one more character in front of it. -/
def withFirst (c : Char) (read : Option (List Char × List Char)) :
    Option (List Char × List Char) :=
  read.map fun result => (c :: result.1, result.2)

/-- The rest of a quoted string; the opening quote has been read.  Only a string in double quotes
    has escapes. -/
def quoted (quote : Char) (cs : List Char) : Option (List Char × List Char) :=
  match cs with
  | [] => none
  | c :: rest =>
    if c = quote then some ([], rest)
    else if c = '\\' ∧ quote = '"' then
      match escape rest with
      | none => none
      | some (d, after) =>
        if _shorter : after.length ≤ rest.length then
          withFirst d (quoted quote after)
        else none
    else if isPlain c then withFirst c (quoted quote rest)
    else none
termination_by cs.length

/-- What comes after a backslash in a string of several lines: nothing at all when it escapes the
    end of its line, or else one character. -/
def foldedOrEscape (cs : List Char) : Option (List Char × List Char) :=
  match newline? (skipBlanks cs) with
  | some folded => some ([], skipFolded folded)
  | none => (escape cs).map fun found => ([found.1], found.2)

/-- The next piece of a string of several lines: an escape, a line end or a plain character. -/
def longPiece (quote c : Char) (rest : List Char) : Option (List Char × List Char) :=
  if c = '\\' ∧ quote = '"' then foldedOrEscape rest
  else match newline? (c :: rest) with
    | some after => some (['\n'], after)
    | none => if isPlain c then some ([c], rest) else none

/-- The rest of a string in triple quotes; the opening quotes have been read.  It ends at three
    quotes, and one or two more right before them belong to the text. -/
def tripleQuoted (quote : Char) (cs : List Char) : Option (List Char × List Char) :=
  match cs with
  | [] => none
  | c :: rest =>
    let run := cs.takeWhile (· == quote)
    if 3 ≤ run.length then
      if run.length ≤ 5 then some (run.drop 3, cs.drop run.length) else none
    else match longPiece quote c rest with
      | none => none
      | some (piece, after) =>
        if _shorter : after.length ≤ rest.length then
          (tripleQuoted quote after).map fun result => (piece ++ result.1, result.2)
        else none
termination_by cs.length

/-- A string of any of the four kinds. -/
def string : List Char → Option (String × List Char)
  | '"' :: '"' :: '"' :: cs =>
    (tripleQuoted '"' ((newline? cs).getD cs)).map fun (text, rest) => (String.ofList text, rest)
  | '\'' :: '\'' :: '\'' :: cs =>
    (tripleQuoted '\'' ((newline? cs).getD cs)).map fun (text, rest) => (String.ofList text, rest)
  | '"' :: cs => (quoted '"' cs).map fun (text, rest) => (String.ofList text, rest)
  | '\'' :: cs => (quoted '\'' cs).map fun (text, rest) => (String.ofList text, rest)
  | _ => none

/-! ## Keys -/

/-- A character of a key that needs no quotes. -/
def isBareKeyChar (c : Char) : Bool := c.isAlphanum || c == '_' || c == '-'

/-- One part of a key. -/
def keyPart : List Char → Option (String × List Char)
  | '"' :: cs => (quoted '"' cs).map fun (text, rest) => (String.ofList text, rest)
  | '\'' :: cs => (quoted '\'' cs).map fun (text, rest) => (String.ofList text, rest)
  | cs =>
    let name := cs.takeWhile isBareKeyChar
    if name.isEmpty then none else some (String.ofList name, cs.dropWhile isBareKeyChar)

/-- Nesting of values and length of keys stay below this many levels. -/
def maxDepth : Nat := 80

/-- A key of at most `parts` parts, with dots between them and blanks around them. -/
def keyParts : Nat → List Char → Option (List String × List Char)
  | 0, _ => none
  | parts + 1, cs => do
    let (name, rest) ← keyPart (skipBlanks cs)
    match skipBlanks rest with
    | '.' :: rest => (keyParts parts rest).map fun (names, rest) => (name :: names, rest)
    | rest => some ([name], rest)

/-- A key. -/
def key (cs : List Char) : Option (List String × List Char) := keyParts (maxDepth - 1) cs

/-! ## Numbers -/

/-- Digits of a class with single underscores between them, and the text after them. -/
def digits (isDigit : Char → Bool) : List Char → Option (List Char × List Char)
  | [] => none
  | c :: cs =>
    if isDigit c then
      match cs with
      | '_' :: rest => (digits isDigit rest).map fun (more, rest) => (c :: more, rest)
      | d :: rest =>
        if isDigit d then (digits isDigit (d :: rest)).map fun (more, rest) => (c :: more, rest)
        else some ([c], d :: rest)
      | [] => some ([c], [])
    else none

/-- A sign, true for a minus, and the text after it. -/
def sign : List Char → Bool × List Char
  | '-' :: cs => (true, cs)
  | '+' :: cs => (false, cs)
  | cs => (false, cs)

/-- Decimal digits without a leading zero, unless zero is all there is. -/
def decimal : List Char → Option (List Char × List Char)
  | '0' :: cs => some (['0'], cs)
  | cs => digits Char.isDigit cs

/-- The number that digits of a base stand for. -/
def valueOf (base : Nat) (ds : List Char) : Nat :=
  ds.foldl (fun n d => base * n + (hexDigit? d).getD 0) 0

/-- An integer that a signed 64-bit word can hold. -/
def fits (n : Int) : Bool := -9223372036854775808 ≤ n && n ≤ 9223372036854775807

/-- An unsigned integer in another base; its mark has been read. -/
def basedInteger (base : Nat) (isDigit : Char → Bool) (cs : List Char) :
    Option (Value × List Char) := do
  let (ds, rest) ← digits isDigit cs
  let n : Int := valueOf base ds
  if fits n then some (.integer n, rest) else none

/-- An integer. -/
def integer : List Char → Option (Value × List Char)
  | '0' :: 'x' :: cs => basedInteger 16 (fun c => (hexDigit? c).isSome) cs
  | '0' :: 'o' :: cs => basedInteger 8 (fun c => '0' ≤ c && c ≤ '7') cs
  | '0' :: 'b' :: cs => basedInteger 2 (fun c => c == '0' || c == '1') cs
  | cs => do
    let (minus, rest) := sign cs
    let (ds, rest) ← decimal rest
    let n : Int := if minus then -(valueOf 10 ds : Int) else valueOf 10 ds
    if fits n then some (.integer n, rest) else none

/-- A decimal number is too large for a double-precision float: it would be rounded to infinity.
    The digits are those before and after the point, `exponent` is the power of ten. -/
def overflowsDouble (whole fraction : List Char) (exponent : Int) : Bool :=
  let ds := (whole ++ fraction).dropWhile (· == '0')
  let scale := exponent - fraction.length
  let magnitude := (ds.length : Int) + scale
  let limit := Nat.pow 2 1024 - Nat.pow 2 970
  if ds.isEmpty || magnitude < 300 then false
  else if 320 < magnitude then true
  else if 0 ≤ scale then limit ≤ valueOf 10 ds * Nat.pow 10 scale.toNat
  else limit * Nat.pow 10 (-scale).toNat ≤ valueOf 10 ds

/-- The digits after a point. -/
def fraction : List Char → Option (List Char × List Char)
  | '.' :: cs => digits Char.isDigit cs
  | cs => some ([], cs)

/-- A power of ten. -/
def exponent : List Char → Option (Int × List Char)
  | c :: cs =>
    if c = 'e' ∨ c = 'E' then do
      let (minus, rest) := sign cs
      let (ds, rest) ← digits Char.isDigit rest
      some (if minus then -(valueOf 10 ds : Int) else valueOf 10 ds, rest)
    else some (0, c :: cs)
  | [] => some (0, [])

/-- A float; it has a point, an exponent or both. -/
def float (cs : List Char) : Option (Value × List Char) :=
  let (minus, unsigned) := sign cs
  match unsigned with
  | 'i' :: 'n' :: 'f' :: rest => some (.float (if minus then "-inf" else "inf"), rest)
  | 'n' :: 'a' :: 'n' :: rest => some (.float "nan", rest)
  | _ => do
    let (whole, afterWhole) ← decimal unsigned
    let (part, afterPart) ← fraction afterWhole
    let (power, rest) ← exponent afterPart
    if rest.length = afterWhole.length then none
    else if !minus && overflowsDouble whole part power then none
    else some (.float (String.ofList (cs.take (cs.length - rest.length))), rest)

/-! ## Dates and times -/

/-- A number of exactly `width` digits between two bounds. -/
def number (width low high : Nat) (cs : List Char) : Option (Nat × List Char) :=
  let ds := cs.take width
  let n := valueOf 10 ds
  if ds.length = width ∧ ds.all Char.isDigit ∧ low ≤ n ∧ n ≤ high then some (n, cs.drop width)
  else none

/-- The text after a given character. -/
def after (c : Char) : List Char → Option (List Char)
  | d :: cs => if d = c then some cs else none
  | [] => none

/-- How many days a month has, by the Gregorian calendar. -/
def daysInMonth (year month : Nat) : Nat :=
  let leap := year % 4 = 0 ∧ (year % 100 ≠ 0 ∨ year % 400 = 0)
  if month = 2 then (if leap then 29 else 28)
  else if month = 4 ∨ month = 6 ∨ month = 9 ∨ month = 11 then 30
  else 31

/-- The text after a date. -/
def dateEnd (cs : List Char) : Option (List Char) := do
  let (year, rest) ← number 4 0 9999 cs
  let (month, rest) ← number 2 1 12 (← after '-' rest)
  let (_, rest) ← number 2 1 (daysInMonth year month) (← after '-' rest)
  some rest

/-- The text after a time of day. -/
def timeEnd (cs : List Char) : Option (List Char) := do
  let (_, rest) ← number 2 0 23 cs
  let (_, rest) ← number 2 0 59 (← after ':' rest)
  let (_, rest) ← number 2 0 60 (← after ':' rest)
  match rest with
  | '.' :: d :: cs => some (if d.isDigit then cs.dropWhile Char.isDigit else rest)
  | _ => some rest

/-- The text after an offset from universal time, if one stands first. -/
def offsetEnd : List Char → Option (List Char)
  | 'Z' :: cs => some cs
  | 'z' :: cs => some cs
  | c :: cs =>
    if c = '+' ∨ c = '-' then do
      let (_, rest) ← number 2 0 23 cs
      let (_, rest) ← number 2 0 59 (← after ':' rest)
      some rest
    else some (c :: cs)
  | [] => some []

/-- The text after a date, a time, or both. -/
def dateTimeEnd (cs : List Char) : Option (List Char) :=
  match dateEnd cs with
  | some (c :: rest) =>
    if c = 'T' ∨ c = 't' ∨ c = ' ' then
      match timeEnd rest with
      | some afterTime => offsetEnd afterTime
      | none => some (c :: rest)
    else some (c :: rest)
  | some [] => some []
  | none => timeEnd cs

/-- A date or time. -/
def date (cs : List Char) : Option (Value × List Char) :=
  (dateTimeEnd cs).map fun rest => (.date (String.ofList (cs.take (cs.length - rest.length))), rest)

end DocComments.Toml
