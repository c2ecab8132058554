/-
  What a command puts out, as a value.
-/

namespace DocComments.CommandLine

/-- The exit status and the texts on the two output streams. -/
structure Output where
  status : Nat := 0
  out : String := ""
  err : String := ""
deriving Repr, DecidableEq, Inhabited

/-- Lines as a text, every line with its end. -/
def ofLines (lines : List String) : String := String.join (lines.map (· ++ "\n"))

/-- Output that consists of error lines only. -/
def Output.ofError (status : Nat) (lines : List String) : Output :=
  { status, err := ofLines lines }

end DocComments.CommandLine
