/-
  The containers that are open in a unit, and how they stand in the document.

  The scope of a walk is five numbers that each handler sets by hand.  `Scope.Sound` says how they
  hang together: each names a node of the unit that is being read, of the kind it should have and
  under the container it should be under, and the parent is the innermost of them.

    * `Sound.grow`       what is added elsewhere does not disturb an open container;
    * `Sound.closeItem`  closing the item leads back to the innermost container that is left.
-/
import DocComments.Proofs.Growth
import DocComments.Session.Basic

namespace DocComments

/-- The node is one of those that were added since the document held `base` of them, and it has
    the kind. -/
def Document.Holds (doc : Document) (base id : Nat) (tag : KindTag) : Prop :=
  base ≤ id ∧ doc.tag? id = some tag

/-- A node that is held is held in every later document. -/
theorem Document.Holds.grow {doc after : Document} {base id : Nat} {tag : KindTag}
    (h : doc.Holds base id tag) (grows : doc.Grows after) : after.Holds base id tag :=
  ⟨h.1, by rw [grows.tag?_eq id (Document.lt_of_tag? h.2), h.2]⟩

/-- The kinds of nodes that a unit can have open. -/
def KindTag.openable : List KindTag := [.file, .sect, .subsect, .item]

/-- The scope fits the document, the nodes of the unit being those from `base` on. -/
structure Scope.Sound (base : Nat) (doc : Document) (scope : Scope) : Prop where
  base_le : base ≤ doc.size
  parent_eq : scope.parent = scope.innermost
  file : ∀ id, scope.file = some id → doc.Holds base id .file
  sect : ∀ id, scope.sect = some id → doc.Holds base id .sect
    ∧ ∃ file, scope.file = some file ∧ doc.parent? id = some file
  subsect : ∀ id, scope.subsect = some id → doc.Holds base id .subsect
    ∧ ∃ sect, scope.sect = some sect ∧ doc.parent? id = some sect
  item : ∀ id, scope.item = some id → doc.Holds base id .item
    ∧ ∃ container, scope.subsect.or scope.sect = some container ∧ doc.parent? id = some container

/-- The scope with its item closed and the innermost of the other containers as the parent. -/
def Scope.shutItem (scope : Scope) : Scope :=
  { scope with item := none, parent := { scope with item := none }.innermost }

namespace Scope.Sound

variable {base : Nat} {doc : Document} {scope : Scope}

/-- Before anything is opened. -/
theorem closed (h : base ≤ doc.size) : Scope.Sound base doc {} where
  base_le := h
  parent_eq := rfl
  file _ opened := nomatch opened
  sect _ opened := nomatch opened
  subsect _ opened := nomatch opened
  item _ opened := nomatch opened

/-- **What is added elsewhere** does not disturb an open container. -/
theorem grow {after : Document} (sound : scope.Sound base doc) (grows : doc.Grows after) :
    scope.Sound base after where
  base_le := Nat.le_trans sound.base_le grows.size_le
  parent_eq := sound.parent_eq
  file id opened := (sound.file id opened).grow grows
  sect id opened := by
    obtain ⟨held, file, same, up⟩ := sound.sect id opened
    exact ⟨held.grow grows, file, same, by rw [grows.parent?_eq id (Document.lt_of_parent? up), up]⟩
  subsect id opened := by
    obtain ⟨held, sect, same, up⟩ := sound.subsect id opened
    exact ⟨held.grow grows, sect, same, by rw [grows.parent?_eq id (Document.lt_of_parent? up), up]⟩
  item id opened := by
    obtain ⟨held, container, same, up⟩ := sound.item id opened
    exact ⟨held.grow grows, container, same,
      by rw [grows.parent?_eq id (Document.lt_of_parent? up), up]⟩

/-! ## What is open is a node of the document -/

/-- An open File is a node of the document, like every container that is open. -/
theorem file_lt (sound : scope.Sound base doc) {file : Nat} (h : scope.file = some file) :
    file < doc.size :=
  Document.lt_of_tag? (sound.file file h).2

theorem sect_lt (sound : scope.Sound base doc) {sect : Nat} (h : scope.sect = some sect) :
    sect < doc.size :=
  Document.lt_of_tag? (sound.sect sect h).1.2

theorem item_lt (sound : scope.Sound base doc) {item : Nat} (h : scope.item = some item) :
    item < doc.size :=
  Document.lt_of_tag? (sound.item item h).1.2

/-! ## Inner containers need outer ones -/

/-- A section needs a File, and a subsection a section. -/
theorem file_of_sect (sound : scope.Sound base doc) {sect : Nat} (h : scope.sect = some sect) :
    ∃ file, scope.file = some file := by
  obtain ⟨-, file, opened, -⟩ := sound.sect sect h
  exact ⟨file, opened⟩

theorem sect_of_subsect (sound : scope.Sound base doc) {sub : Nat} (h : scope.subsect = some sub) :
    ∃ sect, scope.sect = some sect := by
  obtain ⟨-, sect, opened, -⟩ := sound.subsect sub h
  exact ⟨sect, opened⟩

/-- An item needs a section, and there may be a subsection in between. -/
theorem sect_of_item (sound : scope.Sound base doc) {item : Nat} (h : scope.item = some item) :
    ∃ sect, scope.sect = some sect := by
  obtain ⟨-, container, opened, -⟩ := sound.item item h
  cases sub : scope.subsect with
  | none => exact ⟨container, by simpa [sub] using opened⟩
  | some sub' => exact sound.sect_of_subsect sub

/-- Without a section there is neither a subsection nor an item. -/
theorem inner_eq_none (sound : scope.Sound base doc) (h : scope.sect = none) :
    scope.subsect = none ∧ scope.item = none := by
  constructor
  · cases sub : scope.subsect with
    | none => rfl
    | some sub' =>
      obtain ⟨sect, opened⟩ := sound.sect_of_subsect sub
      simp [h] at opened
  · cases item : scope.item with
    | none => rfl
    | some item' =>
      obtain ⟨sect, opened⟩ := sound.sect_of_item item
      simp [h] at opened

/-- Without a file nothing is open. -/
theorem eq_closed (sound : scope.Sound base doc) (h : scope.file = none) : scope = {} := by
  have noSect : scope.sect = none := by
    cases sect : scope.sect with
    | none => rfl
    | some sect' =>
      obtain ⟨file, opened⟩ := sound.file_of_sect sect
      simp [h] at opened
  obtain ⟨noSub, noItem⟩ := sound.inner_eq_none noSect
  have noParent : scope.parent = none := by
    rw [sound.parent_eq, Scope.innermost, noItem, noSub, noSect, h]
    rfl
  cases scope
  simp_all

/-! ## The parent -/

/-- An open item is the parent. -/
theorem parent_of_item (sound : scope.Sound base doc) {item : Nat} (h : scope.item = some item) :
    scope.parent = some item := by
  rw [sound.parent_eq, Scope.innermost, h]
  rfl

/-- Where there is no parent there is no file. -/
theorem file_eq_none (sound : scope.Sound base doc) (h : scope.parent = none) :
    scope.file = none := by
  rw [sound.parent_eq, Scope.innermost] at h
  simp only [Option.or_eq_none_iff] at h
  exact h.2.2.2

/-- The parent is a container of the unit. -/
theorem parent_kind (sound : scope.Sound base doc) {parent : Nat}
    (h : scope.parent = some parent) : ∃ tag ∈ KindTag.openable, doc.Holds base parent tag := by
  -- the innermost container that is open, from the item outwards
  rw [sound.parent_eq, Scope.innermost] at h
  cases item : scope.item with
  | some id =>
    obtain rfl : id = parent := by simpa [item] using h
    exact ⟨.item, by decide, (sound.item id item).1⟩
  | none =>
    cases sub : scope.subsect with
    | some id =>
      obtain rfl : id = parent := by simpa [item, sub] using h
      exact ⟨.subsect, by decide, (sound.subsect id sub).1⟩
    | none =>
      cases sect : scope.sect with
      | some id =>
        obtain rfl : id = parent := by simpa [item, sub, sect] using h
        exact ⟨.sect, by decide, (sound.sect id sect).1⟩
      | none =>
        have opened : scope.file = some parent := by simpa [item, sub, sect] using h
        exact ⟨.file, by decide, sound.file parent opened⟩

/-- The parent is a node of the unit. -/
theorem parent_holds (sound : scope.Sound base doc) {parent : Nat}
    (h : scope.parent = some parent) : ∃ tag, doc.Holds base parent tag := by
  obtain ⟨tag, -, held⟩ := sound.parent_kind h
  exact ⟨tag, held⟩

theorem parent_lt (sound : scope.Sound base doc) {parent : Nat} (h : scope.parent = some parent) :
    parent < doc.size := by
  obtain ⟨tag, held⟩ := sound.parent_holds h
  exact Document.lt_of_tag? held.2

/-! ## Opening a container -/

/-- **A new File** is the only container that is open. -/
theorem openFile (h : base ≤ doc.size) {node : Node} (kind : node.tag = .file) :
    Scope.Sound base (doc.addRoot node) { file := some doc.size, parent := some doc.size } where
  base_le := by simp only [Document.size_addRoot]; omega
  parent_eq := rfl
  file id opened := by
    cases opened
    exact ⟨h, by rw [Document.tag?_addRoot, if_pos rfl, kind]⟩
  sect _ opened := nomatch opened
  subsect _ opened := nomatch opened
  item _ opened := nomatch opened

/-- A new last child of a node is held in its kind, and its parent is that node. -/
theorem new_child (h : base ≤ doc.size) {parent : Nat} (lt : parent < doc.size) {node : Node}
    {tag : KindTag} (kind : node.tag = tag) :
    (doc.addChild parent node).Holds base doc.size tag
      ∧ (doc.addChild parent node).parent? doc.size = some parent := by
  refine ⟨⟨h, ?_⟩, ?_⟩
  · rw [Document.tag?_addChild doc lt, if_pos rfl, kind]
  · rw [Document.parent?_addChild doc lt, if_pos rfl]

/-- **A new section** under the open File closes what was open in the last one. -/
theorem openSect (sound : scope.Sound base doc) {file : Nat} (opened : scope.file = some file)
    {node : Node} (kind : node.tag = .sect) :
    Scope.Sound base (doc.addChild file node)
      { scope with
        sect := some doc.size
        subsect := none
        item := none
        parent := some doc.size } := by
  have lt := sound.file_lt opened
  have grown := sound.grow (doc.grows_addChild lt node)
  obtain ⟨new, up⟩ := new_child sound.base_le lt kind
  refine ⟨grown.base_le, rfl, grown.file, ?_, nofun, nofun⟩
  rintro id ⟨⟩
  exact ⟨new, file, opened, up⟩

/-- **A new subsection** under the open section closes the item. -/
theorem openSubsect (sound : scope.Sound base doc) {sect : Nat} (opened : scope.sect = some sect)
    {node : Node} (kind : node.tag = .subsect) :
    Scope.Sound base (doc.addChild sect node)
      { scope with subsect := some doc.size, item := none, parent := some doc.size } := by
  have lt := sound.sect_lt opened
  have grown := sound.grow (doc.grows_addChild lt node)
  obtain ⟨new, up⟩ := new_child sound.base_le lt kind
  refine ⟨grown.base_le, rfl, grown.file, grown.sect, ?_, nofun⟩
  rintro id ⟨⟩
  exact ⟨new, sect, opened, up⟩

/-- The container that takes an item is a section or subsection of the unit. -/
theorem container_kind (sound : scope.Sound base doc) {container : Nat}
    (h : scope.subsect.or scope.sect = some container) :
    ∃ tag, (tag = .sect ∨ tag = .subsect) ∧ doc.Holds base container tag := by
  cases sub : scope.subsect with
  | some id =>
    obtain rfl : id = container := by simpa [sub] using h
    exact ⟨.subsect, .inr rfl, (sound.subsect id sub).1⟩
  | none =>
    have opened : scope.sect = some container := by simpa [sub] using h
    exact ⟨.sect, .inl rfl, (sound.sect container opened).1⟩

theorem container_holds (sound : scope.Sound base doc) {container : Nat}
    (h : scope.subsect.or scope.sect = some container) :
    ∃ tag, doc.Holds base container tag := by
  obtain ⟨tag, -, held⟩ := sound.container_kind h
  exact ⟨tag, held⟩

theorem container_lt (sound : scope.Sound base doc) {container : Nat}
    (h : scope.subsect.or scope.sect = some container) : container < doc.size := by
  obtain ⟨tag, held⟩ := sound.container_holds h
  exact Document.lt_of_tag? held.2

/-- **A new item** under the innermost container that takes one. -/
theorem openItem (sound : scope.Sound base doc) {container : Nat}
    (opened : scope.subsect.or scope.sect = some container) {node : Node}
    (kind : node.tag = .item) :
    Scope.Sound base (doc.addChild container node)
      { scope with item := some doc.size, parent := some doc.size } := by
  have lt := sound.container_lt opened
  have grown := sound.grow (doc.grows_addChild lt node)
  obtain ⟨new, up⟩ := new_child sound.base_le lt kind
  refine ⟨grown.base_le, rfl, grown.file, grown.sect, grown.subsect, ?_⟩
  rintro id ⟨⟩
  exact ⟨new, container, opened, up⟩

/-! ## Closing the item -/

/-- **Closing the item** leaves a scope that fits. -/
theorem shutItem (sound : scope.Sound base doc) : scope.shutItem.Sound base doc where
  base_le := sound.base_le
  parent_eq := rfl
  file := sound.file
  sect := sound.sect
  subsect := sound.subsect
  item _ opened := nomatch opened

/-- What an open item stands under is the innermost container around it. -/
theorem parent?_item (sound : scope.Sound base doc) {item : Nat} (h : scope.item = some item) :
    doc.parent? item = scope.shutItem.parent := by
  obtain ⟨-, container, opened, up⟩ := sound.item item h
  rw [up, Scope.shutItem, Scope.innermost, Option.none_or, ← Option.or_assoc, opened]
  rfl

end Scope.Sound

namespace Walk

/-- The scope of the walk fits its document. -/
def Sound (base : Nat) (w : Walk) : Prop := w.scope.Sound base w.document

/-- Closing the item is a matter of the scope alone. -/
theorem closeItem_toSession (w : Walk) : w.closeItem.toSession = w.toSession := by
  unfold closeItem
  split <;> rfl

/-- **Closing the item** leaves the other containers open and makes the innermost of them the
    parent. -/
theorem closeItem_eq {base : Nat} {w : Walk} (sound : w.Sound base) :
    w.closeItem = { w with scope := w.scope.shutItem } := by
  unfold closeItem
  split
  · rename_i shut
    -- without an item the parent is what it would be reset to
    have same : w.scope.shutItem = w.scope := by
      have parent := Scope.Sound.parent_eq sound
      simp only [Scope.shutItem, Scope.innermost, shut] at parent ⊢
      rw [← parent, ← shut]
    rw [same]
  · rename_i item opened
    rw [Scope.Sound.parent?_item sound opened]
    rfl

/-- **Closing the item** keeps the scope of a walk sound. -/
theorem Sound.closeItem {base : Nat} {w : Walk} (sound : w.Sound base) :
    w.closeItem.Sound base := by
  rw [closeItem_eq sound]
  exact Scope.Sound.shutItem sound

end Walk

end DocComments
