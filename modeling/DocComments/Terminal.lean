/-
  Text with colours, for terminals that know the ANSI escapes.

  A code selects a way to show text until the code `0`, which selects none.  A run of spans selects
  each span's codes afresh; `paint` selects a single one for a text.
-/

namespace DocComments.Terminal

/-- What selects a code. -/
def escape (code : String) : String := "\x1b[" ++ code ++ "m"

/-- A text shown in the way of one code, or plainly. -/
def paint (plain : Bool) (code text : String) : String :=
  if plain then text else escape code ++ text ++ escape "0"

/-- Texts in a row, each shown in the way of several codes at once, or plainly. -/
def spans (plain : Bool) (parts : List (List String × String)) : String :=
  if plain then String.join (parts.map (·.2))
  else String.join (parts.map fun (codes, text) =>
    String.join (("0" :: codes).map escape) ++ text) ++ escape "0"

end DocComments.Terminal
