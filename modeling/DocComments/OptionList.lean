/-
  The option list in a header's parentheses, for instance `(Table;Headers=A|B)`.

  The text between the parentheses is cut at semicolons into tokens; a token is trimmed, and an
  empty one is dropped.  A token with an `=` is a key with a value: the key is trimmed, the value is
  kept as written (up to the trimming of the whole token).  A token without `=` is a bare flag.

  Look-ups go through the entries in order.  `value?` answers with the FIRST entry that has the
  key, and a bare flag has no value: so a flag `Headers` hides a later `Headers=A`.
-/
import DocComments.Text.Split

namespace DocComments

/-- The options of one header: the text as written, and its entries in order.  A bare flag is an
    entry without a value. -/
structure OptionList where
  raw : String := ""
  entries : List (String × Option String) := []
deriving Repr, DecidableEq, Inhabited

namespace OptionList

/-- One token as an entry. -/
def entryOf (token : String) : String × Option String :=
  match Text.splitOnce '=' token with
  | some (key, value) => (Text.strip key, some value)
  | none => (token, none)

/-- Read the text between the parentheses. -/
def ofText (raw : String) : OptionList where
  raw := raw
  entries := (((Text.splitAt ';' raw).map Text.strip).filter (· ≠ "")).map entryOf

/-- No entry at all. -/
def isEmpty (opts : OptionList) : Bool := opts.entries.isEmpty

/-- Some entry has this key, with a value or without. -/
def has (opts : OptionList) (key : String) : Bool := opts.entries.any (·.1 == key)

/-- The value of the first entry that has this key. -/
def value? (opts : OptionList) (key : String) : Option String :=
  (opts.entries.find? (·.1 == key)).bind (·.2)

end OptionList

end DocComments
