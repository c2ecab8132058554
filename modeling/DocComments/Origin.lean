/-
  Where a block stands: the name of its source unit and the number of its header line, counted
  from one.
-/

namespace DocComments

/-- A place in a source unit. -/
structure Origin where
  file : String
  line : Nat
deriving Repr, DecidableEq, Inhabited

/-- The place as `file:line`. -/
def Origin.text (origin : Origin) : String := origin.file ++ ":" ++ toString origin.line

end DocComments
