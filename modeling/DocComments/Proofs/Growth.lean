/-
  What stays true of a document while it grows.

  An addition or a change of information never touches the kind word of a node that is there, nor
  its parent.  `Grows` says just that, and it is all that a walk up the tree can see: a walk that
  starts at an old node ends at the same root as before (`rootOf_of_grows`).
-/
import DocComments.Document

namespace DocComments.Document

/-- The kind of a node, without what it carries. -/
def tag? (doc : Document) (id : Nat) : Option KindTag := (doc.node? id).map (·.tag)

/-- The later document has all nodes of the earlier one, of the same kinds and under the same
    parents. -/
structure Grows (doc after : Document) : Prop where
  size_le : doc.size ≤ after.size
  tag?_eq : ∀ id, id < doc.size → after.tag? id = doc.tag? id
  parent?_eq : ∀ id, id < doc.size → after.parent? id = doc.parent? id

theorem Grows.refl (doc : Document) : doc.Grows doc :=
  ⟨Nat.le_refl _, fun _ _ => rfl, fun _ _ => rfl⟩

/-- Growing can be done in steps. -/
theorem Grows.trans {doc mid after : Document} (first : doc.Grows mid) (second : mid.Grows after) :
    doc.Grows after where
  size_le := Nat.le_trans first.size_le second.size_le
  tag?_eq id lt := by
    rw [second.tag?_eq id (Nat.lt_of_lt_of_le lt first.size_le), first.tag?_eq id lt]
  parent?_eq id lt := by
    rw [second.parent?_eq id (Nat.lt_of_lt_of_le lt first.size_le), first.parent?_eq id lt]

/-- Only nodes have kinds. -/
theorem lt_of_tag? {doc : Document} {id : Nat} {tag : KindTag} (h : doc.tag? id = some tag) :
    id < doc.size := by
  obtain ⟨node, found, -⟩ := Option.map_eq_some_iff.mp h
  exact lt_of_node? found

theorem lt_of_parent? {doc : Document} {id parent : Nat} (h : doc.parent? id = some parent) :
    id < doc.size := by
  obtain ⟨node, found, -⟩ := Option.bind_eq_some_iff.mp h
  exact lt_of_node? found

/-! ## Kinds and parents after an operation -/

/-- A new root has its own kind, and the others keep theirs. -/
theorem tag?_addRoot (doc : Document) (node : Node) (id : Nat) :
    (doc.addRoot node).tag? id = if id = doc.size then some node.tag else doc.tag? id := by
  rw [tag?, node?_addRoot]
  split
  · rfl
  · rfl

/-- A new child has its own kind, and the others keep theirs, the parent included. -/
theorem tag?_addChild (doc : Document) {parent : Nat} (h : parent < doc.size) (node : Node)
    (id : Nat) :
    (doc.addChild parent node).tag? id = if id = doc.size then some node.tag else doc.tag? id := by
  rw [tag?, node?_addChild doc h]
  split
  · rfl
  · rw [tag?, Option.map_map]
    congr 1
    funext old
    simp only [Function.comp_apply]
    split <;> rfl

/-- A change that keeps the kind word of every kind keeps it at every node. -/
theorem tag?_mapKind (doc : Document) (changed : Nat) {f : NodeKind → NodeKind}
    (kept : ∀ kind, (f kind).tag = kind.tag) (id : Nat) :
    (doc.mapKind changed f).tag? id = doc.tag? id := by
  rw [tag?, tag?, node?_mapKind, Option.map_map]
  congr 1
  funext node
  simp only [Function.comp_apply]
  split
  · exact kept node.kind
  · rfl

/-- A change of what is known of an item, or of a File, changes no kind. -/
theorem tag?_mapItem (doc : Document) (item : Nat) (f : ItemInfo → ItemInfo) (id : Nat) :
    (doc.mapItem item f).tag? id = doc.tag? id :=
  tag?_mapKind doc item (NodeKind.tag_mapItem f) id

theorem tag?_mapFile (doc : Document) (file : Nat) (f : FileInfo → FileInfo) (id : Nat) :
    (doc.mapFile file f).tag? id = doc.tag? id :=
  tag?_mapKind doc file (NodeKind.tag_mapFile f) id

/-- A new root has no parent, and the others keep theirs. -/
theorem parent?_addRoot (doc : Document) (node : Node) (id : Nat) :
    (doc.addRoot node).parent? id = if id = doc.size then none else doc.parent? id := by
  rw [parent?, node?_addRoot]
  split
  · rfl
  · rfl

/-- A new child has the parent it was added to, and the others keep theirs. -/
theorem parent?_addChild (doc : Document) {parent : Nat} (h : parent < doc.size) (node : Node)
    (id : Nat) :
    (doc.addChild parent node).parent? id
      = if id = doc.size then some parent else doc.parent? id := by
  rw [parent?, node?_addChild doc h]
  split
  · rfl
  · rw [parent?]
    cases doc.node? id with
    | none => rfl
    | some old =>
      simp only [Option.map_some, Option.bind_some]
      split <;> rfl

/-- A change of kind moves no node. -/
theorem parent?_mapKind (doc : Document) (changed : Nat) (f : NodeKind → NodeKind) (id : Nat) :
    (doc.mapKind changed f).parent? id = doc.parent? id := by
  rw [parent?, parent?, node?_mapKind]
  cases doc.node? id with
  | none => rfl
  | some old =>
    simp only [Option.map_some, Option.bind_some]
    split <;> rfl

/-! ## Every operation grows the document -/

/-- **A new root** grows the document. -/
theorem grows_addRoot (doc : Document) (node : Node) : doc.Grows (doc.addRoot node) where
  size_le := by
    rw [size_addRoot]
    omega
  tag?_eq id lt := by rw [tag?_addRoot, if_neg (Nat.ne_of_lt lt)]
  parent?_eq id lt := by rw [parent?_addRoot, if_neg (Nat.ne_of_lt lt)]

/-- **A new child** grows the document, if its parent is a node. -/
theorem grows_addChild (doc : Document) {parent : Nat} (h : parent < doc.size) (node : Node) :
    doc.Grows (doc.addChild parent node) where
  size_le := by
    rw [size_addChild doc h]
    omega
  tag?_eq id lt := by rw [tag?_addChild doc h, if_neg (Nat.ne_of_lt lt)]
  parent?_eq id lt := by rw [parent?_addChild doc h, if_neg (Nat.ne_of_lt lt)]

/-- **News of an item**, or of a File, grow the document. -/
theorem grows_mapItem (doc : Document) (item : Nat) (f : ItemInfo → ItemInfo) :
    doc.Grows (doc.mapItem item f) where
  size_le := by simp [mapItem]
  tag?_eq id _ := tag?_mapItem doc item f id
  parent?_eq id _ := parent?_mapKind doc item _ id

theorem grows_mapFile (doc : Document) (file : Nat) (f : FileInfo → FileInfo) :
    doc.Grows (doc.mapFile file f) where
  size_le := by simp [mapFile]
  tag?_eq id _ := tag?_mapFile doc file f id
  parent?_eq id _ := parent?_mapKind doc file _ id

/-! ## The root above a node -/

/-- A node without parent is its own root. -/
theorem rootOf_eq_self {doc : Document} {id : Nat} (h : doc.parent? id = none) :
    doc.rootOf id = id := by
  unfold rootOf
  split
  · rfl
  · rename_i found
    simp [h] at found

/-- A node with a parent has the root of its parent. -/
theorem rootOf_eq_rootOf {doc : Document} {id parent : Nat} (h : doc.parent? id = some parent) :
    doc.rootOf id = doc.rootOf parent := by
  conv => lhs; unfold rootOf
  split
  · rename_i found
    simp [h] at found
  · rename_i found
    rw [h] at found
    cases found
    rfl

/-- **A walk up from an old node** ends where it ended before. -/
theorem rootOf_of_grows {doc after : Document} (grows : doc.Grows after) (id : Nat)
    (lt : id < doc.size) : after.rootOf id = doc.rootOf id := by
  -- parents have smaller numbers, so they are old nodes too
  induction id using Nat.strongRecOn with
  | ind id ih =>
    cases up : doc.parent? id with
    | none => rw [rootOf_eq_self up, rootOf_eq_self (by rw [grows.parent?_eq id lt, up])]
    | some parent =>
      have less := parent?_lt up
      rw [rootOf_eq_rootOf up, rootOf_eq_rootOf (by rw [grows.parent?_eq id lt, up])]
      exact ih parent less (Nat.lt_trans less lt)

end DocComments.Document
