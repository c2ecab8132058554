/-
  Two walks through the same unit.

  The walks `w` and `v` have entered the unit from different sessions `s` and `t`.  They are TWINS
  when nothing that `w` can see of its session differs in `v`: the mode, the active rules, the open
  containers and the nodes of the unit, which stand `d` numbers further up in `v`, and the owners of
  the names that the unit may register.  Both have added the same names and the same log entries.

  What is done to both in the same way leaves them twins: an entry (`Twin.note`), names
  (`Twin.enroll`), a leaf (`Twin.addChild`), information (`Twin.mapItem`), a closed item
  (`Twin.closeItem`).
-/
import DocComments.Proofs.Naming
import DocComments.Proofs.Shift

namespace DocComments

/-! ## Scopes -/

/-- The scope with all its numbers `d` further up. -/
def Scope.shift (d : Nat) (scope : Scope) : Scope where
  file := scope.file.map (· + d)
  sect := scope.sect.map (· + d)
  subsect := scope.subsect.map (· + d)
  item := scope.item.map (· + d)
  parent := scope.parent.map (· + d)

/-- All open containers have numbers from `base` on. -/
structure Scope.From (base : Nat) (scope : Scope) : Prop where
  file : ∀ id, scope.file = some id → base ≤ id
  sect : ∀ id, scope.sect = some id → base ≤ id
  subsect : ∀ id, scope.subsect = some id → base ≤ id
  item : ∀ id, scope.item = some id → base ≤ id
  parent : ∀ id, scope.parent = some id → base ≤ id

/-- A container that has just been opened. -/
theorem Scope.From.just {base new : Nat} (h : base ≤ new) :
    ∀ id, some new = some id → base ≤ id := by
  rintro _ ⟨⟩
  exact h

/-- An empty scope has nothing below `base`. -/
theorem Scope.From.closed (base : Nat) : Scope.From base {} :=
  ⟨nofun, nofun, nofun, nofun, nofun⟩

namespace Walk

/-- The walks cannot tell which of the two sessions they came from. -/
structure Twin (mine : String → Prop) (s t : Session) (d : Nat) (w v : Walk) : Prop where
  mode : v.mode = w.mode
  rules : v.registry.active = w.registry.active
  hooks : w.registry.active.HooksBuiltIn
  document : w.document.Shifted s.document.size d v.document
  scope : v.scope = w.scope.shift d
  opened : w.scope.From s.document.size
  lookup : ∀ name, mine name →
    v.index.lookup? name = (w.index.lookup? name).map (relocate s.document.size d)
  names : ∃ added, w.index.names = s.index.names ++ added ∧ v.index.names = t.index.names ++ added
  entries : ∃ added,
    w.log.entries = s.log.entries ++ added ∧ v.log.entries = t.log.entries ++ added

variable {mine : String → Prop} {s t : Session} {d : Nat} {w v : Walk}

namespace Twin

/-- The open File of the one is that of the other, further up; and likewise for each container. -/
theorem file (twin : Twin mine s t d w v) : v.scope.file = w.scope.file.map (· + d) := by
  rw [twin.scope]
  rfl

theorem sect (twin : Twin mine s t d w v) : v.scope.sect = w.scope.sect.map (· + d) := by
  rw [twin.scope]
  rfl

theorem subsect (twin : Twin mine s t d w v) :
    v.scope.subsect = w.scope.subsect.map (· + d) := by
  rw [twin.scope]
  rfl

theorem item (twin : Twin mine s t d w v) : v.scope.item = w.scope.item.map (· + d) := by
  rw [twin.scope]
  rfl

theorem parent (twin : Twin mine s t d w v) : v.scope.parent = w.scope.parent.map (· + d) := by
  rw [twin.scope]
  rfl

/-- Twins have the same rules. -/
theorem lookup_rule (twin : Twin mine s t d w v) (title : String) :
    v.registry.lookup? title = w.registry.lookup? title := by
  rw [Registry.lookup?, Registry.lookup?, twin.rules]

/-- Twins know the same titles. -/
theorem contains_rule (twin : Twin mine s t d w v) (title : String) :
    v.registry.contains title = w.registry.contains title := by
  rw [Registry.contains, Registry.contains, twin.lookup_rule]

/-- A name that both or neither have is told of the same place. -/
theorem originOf (twin : Twin mine s t d w v) (id : Nat) :
    v.originOf (relocate s.document.size d id) = w.originOf id := by
  rw [Walk.originOf, Walk.originOf, twin.document.origin]

/-- The same entry in both logs. -/
theorem note (twin : Twin mine s t d w v) (entry : LogEntry) :
    Twin mine s t d { w with log := w.log.add entry } { v with log := v.log.add entry } := by
  obtain ⟨added, left, right⟩ := twin.entries
  refine { twin with entries := ⟨added ++ [entry], ?_, ?_⟩ }
  · simp [Log.add, left]
  · simp [Log.add, right]

/-- The same names in both indexes. -/
theorem enroll (twin : Twin mine s t d w v) (names : List String) {id : Nat}
    (le : s.document.size ≤ id) :
    Twin mine s t d { w with index := w.index.enroll names id }
      { v with index := v.index.enroll names (id + d) } := by
  obtain ⟨added, left, right⟩ := twin.names
  refine { twin with lookup := fun name own => ?_, names := ⟨added ++ names, ?_, ?_⟩ }
  · rw [NameIndex.lookup?_enroll, NameIndex.lookup?_enroll, twin.lookup name own]
    split
    · rw [Option.map_some, relocate_of_le d le]
    · rfl
  · simp [NameIndex.enroll, left]
  · simp [NameIndex.enroll, right]

/-- The same change of a node that stands in the unit. -/
theorem mapItem (twin : Twin mine s t d w v) {id : Nat} (le : s.document.size ≤ id)
    (f : ItemInfo → ItemInfo) :
    Twin mine s t d { w with document := w.document.mapItem id f }
      { v with document := v.document.mapItem (id + d) f } :=
  { twin with document := twin.document.mapKind le _ }

/-- The same leaf under a node that stands in the unit. -/
theorem addChild (twin : Twin mine s t d w v) {parent : Nat} (le : s.document.size ≤ parent)
    (node : Node) :
    Twin mine s t d { w with document := w.document.addChild parent node }
      { v with document := v.document.addChild (parent + d) node } :=
  { twin with document := twin.document.addChild le node }

/-- Twins close their items together. -/
theorem closeItem (twin : Twin mine s t d w v) : Twin mine s t d w.closeItem v.closeItem := by
  unfold Walk.closeItem
  rw [twin.item]
  cases item : w.scope.item with
  | none => exact twin
  | some id =>
    -- the parent comes back through the document, where the links are shifted as well
    have le := twin.opened.item id item
    refine { twin with scope := ?_, opened := { twin.opened with item := nofun, parent := ?_ } }
    · simp only [Option.map_some, twin.document.parent? le, twin.scope]
      rfl
    · intro parent up
      exact twin.document.inside id parent le up

end Twin

end Walk

end DocComments
