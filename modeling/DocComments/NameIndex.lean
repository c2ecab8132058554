/-
  The index of documented names.

  It keeps two records: the owner of each name, and the names in the order of their registration.
  A name is never taken from its owner: registering it again fails and tells who owns it.

    * `register_eq_ok_iff`       a registration succeeds exactly when the name is free, and adds it;
    * `lookup?_register_of_ne`   it changes the answer for no other name.
-/
import DocComments.Node
import DocComments.Text.Lowercase

namespace DocComments

/-- Names with the numbers of the items that own them, and the order in which they came. -/
structure NameIndex where
  owners : List (String × Nat) := []
  /-- The names in order of registration. -/
  names : List String := []
deriving Repr, DecidableEq, Inhabited

namespace NameIndex

/-- The owner of a name. -/
def lookup? (index : NameIndex) (name : String) : Option Nat := List.lookup name index.owners

/-- The name has an owner. -/
def contains (index : NameIndex) (name : String) : Bool := (index.lookup? name).isSome

/-- Give a free name an owner; the error is the owner of a name that is taken. -/
def register (index : NameIndex) (name : String) (id : Nat) : Except Nat NameIndex :=
  match index.lookup? name with
  | some owner => .error owner
  | none => .ok ⟨(name, id) :: index.owners, index.names ++ [name]⟩

/-- How many names there are. -/
def size (index : NameIndex) : Nat := index.names.length

/-- The names registered after the index held `mark` of them. -/
def since (index : NameIndex) (mark : Nat) : List String := index.names.drop mark

/-- What names are sorted by: their lower case, compared by code points. -/
def sortKey (name : String) : String := String.ofList (Text.lowercase name.toList)

/-- The names sorted without regard to case; names with the same key stay in order of
    registration. -/
def sorted (index : NameIndex) : List String :=
  ((index.names.map fun name => (sortKey name, name)).mergeSort fun a b => decide (a.1 ≤ b.1)).map
    (·.2)

/-- A registration succeeds exactly when the name is free, and then adds it to both records. -/
theorem register_eq_ok_iff {index after : NameIndex} {name : String} {id : Nat} :
    index.register name id = .ok after
      ↔ index.lookup? name = none
        ∧ after = ⟨(name, id) :: index.owners, index.names ++ [name]⟩ := by
  unfold register
  cases index.lookup? name with
  | none => simp [eq_comm]
  | some owner => simp

/-- A registration changes the owner of no other name. -/
theorem lookup?_register_of_ne {index after : NameIndex} {name other : String} {id : Nat}
    (h : index.register name id = .ok after) (hne : other ≠ name) :
    after.lookup? other = index.lookup? other := by
  obtain ⟨-, rfl⟩ := register_eq_ok_iff.mp h
  have : (other == name) = false := by simpa using hne
  simp [lookup?, List.lookup_cons, this]

end NameIndex

end DocComments
