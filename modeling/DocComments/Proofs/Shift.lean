/-
  The same nodes further up.

  Two sessions that read one unit put its nodes at different numbers, the one after `d` more nodes
  than the other.  `Document.Shifted` relates the two documents: up to `base` they are alike, and
  from there on the second has the nodes of the first `d` numbers further up, with all the numbers
  inside them moved along (`Node.shift`).

    * `Shifted.addRoot`, `Shifted.addChild`, `Shifted.mapKind`  the relation survives the same
      operation on both sides, as long as it changes nothing below `base`;
    * `Shifted.viewOf`  a view shows no numbers, so it is the same on both sides.
-/
import Mathlib.Data.List.Basic
import DocComments.Document.View

namespace DocComments

/-- The node with its parent and its children `d` numbers further up. -/
def Node.shift (d : Nat) (node : Node) : Node :=
  { node with parent := node.parent.map (· + d), children := node.children.map (· + d) }

/-- From `base` on, the other document has the same nodes, `d` numbers further up. -/
structure Document.Shifted (base d : Nat) (doc other : Document) : Prop where
  base_le : base ≤ doc.size
  size : other.size = doc.size + d
  below : ∀ id, id < base → other.node? id = doc.node? id
  node : ∀ id, base ≤ id → other.node? (id + d) = (doc.node? id).map (Node.shift d)
  /-- No link leads out of the nodes that are shifted. -/
  inside : ∀ id parent, base ≤ id → doc.parent? id = some parent → base ≤ parent

/-- Where the number of a node goes: those below `base` stay. -/
def relocate (base d id : Nat) : Nat := if id < base then id else id + d

/-- The nodes from `base` on are those that are shifted. -/
theorem relocate_of_le {base id : Nat} (d : Nat) (h : base ≤ id) : relocate base d id = id + d :=
  if_neg (Nat.not_lt.mpr h)

namespace Document.Shifted

variable {base d : Nat} {doc other : Document}

/-- **A root on both sides** leaves the documents shifted. -/
theorem addRoot (shifted : doc.Shifted base d other) (node : Node) :
    (doc.addRoot node).Shifted base d (other.addRoot node) where
  base_le := by
    have := shifted.base_le
    simp only [size_addRoot]
    omega
  size := by
    simp only [size_addRoot, shifted.size]
    omega
  below id lt := by
    have := shifted.base_le
    have := shifted.size
    rw [node?_addRoot, node?_addRoot, if_neg (by omega), if_neg (by omega), shifted.below id lt]
  node id le := by
    rw [node?_addRoot, node?_addRoot, shifted.size, shifted.node id le]
    by_cases last : id = doc.size
    · rw [if_pos last, if_pos (by omega)]
      rfl
    · rw [if_neg last, if_neg (by omega)]
  inside id parent le up := by
    rw [Document.parent?, node?_addRoot] at up
    split at up
    · simp [fresh] at up
    · exact shifted.inside id parent le up

/-- **A child on both sides**, under the same node, leaves the documents shifted. -/
theorem addChild (shifted : doc.Shifted base d other) {parent : Nat} (from_ : base ≤ parent)
    (node : Node) :
    (doc.addChild parent node).Shifted base d (other.addChild (parent + d) node) := by
  have grown := shifted.size
  by_cases lt : parent < doc.size
  · have lt' : parent + d < other.size := by omega
    have start := shifted.base_le
    refine ⟨?_, ?_, fun id below => ?_, fun id le => ?_, fun id up le named => ?_⟩
    · rw [size_addChild doc lt]
      omega
    · rw [size_addChild doc lt, size_addChild other lt']
      omega
    · -- neither the new node nor its parent is below `base`
      rw [node?_addChild doc lt, node?_addChild other lt', if_neg (by omega), if_neg (by omega),
        shifted.below id below]
      simp only [if_neg (show parent ≠ id by omega), if_neg (show parent + d ≠ id by omega)]
    · -- the new node is the last on both sides, and the parent gets its number as a child
      rw [node?_addChild doc lt, node?_addChild other lt', shifted.size, shifted.node id le]
      by_cases last : id = doc.size
      · rw [if_pos last, if_pos (by omega)]
        rfl
      · rw [if_neg last, if_neg (by omega), Option.map_map, Option.map_map]
        congr 1
        funext old
        simp only [Function.comp_apply, Nat.add_right_cancel_iff]
        split
        · simp [adopt, Node.shift]
        · rfl
    · rw [Document.parent?, node?_addChild doc lt] at named
      split at named
      · cases named
        exact from_
      · refine shifted.inside id up le ?_
        rw [Document.parent?]
        cases found : doc.node? id with
        | none => simp [found] at named
        | some old =>
          rw [found, Option.map_some, Option.bind_some] at named
          rw [Option.bind_some, ← named]
          split <;> rfl
  · -- neither document has the parent, so neither changes
    rw [Document.addChild, dif_neg lt, Document.addChild, dif_neg (by omega)]
    exact shifted

/-- **A change of kind on both sides**, of the same node, leaves the documents shifted. -/
theorem mapKind (shifted : doc.Shifted base d other) {id : Nat} (from_ : base ≤ id)
    (f : NodeKind → NodeKind) : (doc.mapKind id f).Shifted base d (other.mapKind (id + d) f) where
  base_le := by
    rw [size_mapKind]
    exact shifted.base_le
  size := by rw [size_mapKind, size_mapKind, shifted.size]
  below i lt := by
    rw [node?_mapKind, node?_mapKind, shifted.below i lt]
    simp only [if_neg (show id ≠ i by omega), if_neg (show id + d ≠ i by omega)]
  node i le := by
    rw [node?_mapKind, node?_mapKind, shifted.node i le, Option.map_map, Option.map_map]
    congr 1
    funext old
    simp only [Function.comp_apply, Nat.add_right_cancel_iff]
    split <;> rfl
  inside i parent le up := by
    refine shifted.inside i parent le ?_
    rw [Document.parent?, node?_mapKind] at up
    rw [Document.parent?]
    cases found : doc.node? i with
    | none => simp [found] at up
    | some old =>
      rw [found, Option.map_some, Option.bind_some] at up
      rw [Option.bind_some, ← up]
      split <;> rfl

theorem foldl_addChild {item : Nat} (from_ : base ≤ item) (nodes : List Node)
    {doc other : Document} (shifted : doc.Shifted base d other) :
    (nodes.foldl (·.addChild item ·) doc).Shifted base d
      (nodes.foldl (·.addChild (item + d) ·) other) := by
  induction nodes generalizing doc other with
  | nil => exact shifted
  | cons node rest ih => exact ih (shifted.addChild from_ node)

/-! ## What the nodes show -/

/-- Parents are shifted with their children. -/
theorem parent? (shifted : doc.Shifted base d other) {id : Nat} (le : base ≤ id) :
    other.parent? (id + d) = (doc.parent? id).map (· + d) := by
  rw [Document.parent?, Document.parent?, shifted.node id le]
  cases doc.node? id <;> rfl

/-- A number that is relocated names a node at the same place. -/
theorem origin (shifted : doc.Shifted base d other) (id : Nat) :
    (other.node? (relocate base d id)).map (·.origin) = (doc.node? id).map (·.origin) := by
  by_cases lt : id < base
  · rw [relocate, if_pos lt, shifted.below id lt]
  · rw [relocate_of_le d (Nat.not_lt.mp lt), shifted.node id (Nat.not_lt.mp lt), Option.map_map]
    rfl

/-- A shifted node has the same kind. -/
theorem tagged (shifted : doc.Shifted base d other) {id : Nat} (le : base ≤ id) (tag : KindTag) :
    (other.node? (id + d)).any (·.tag = tag) = (doc.node? id).any (·.tag = tag) := by
  rw [shifted.node id le]
  cases doc.node? id <;> rfl

/-- The list of all nodes from `base` on is that of the other document, shifted. -/
theorem drop (shifted : doc.Shifted base d other) :
    other.nodes.drop (base + d) = (doc.nodes.drop base).map (Node.shift d) := by
  apply List.ext_getElem?
  intro n
  rw [List.getElem?_drop, List.getElem?_map, List.getElem?_drop]
  have here := shifted.node (base + n) (Nat.le_add_right ..)
  rwa [show base + n + d = base + d + n by omega] at here

/-! ## Views -/

/-- Children are shifted with their parents. -/
theorem children (shifted : doc.Shifted base d other) {id : Nat} (le : base ≤ id) :
    other.children (id + d) = (doc.children id).map (· + d) := by
  rw [Document.children, Document.children, shifted.node id le]
  cases doc.node? id <;> rfl

theorem childNodes (shifted : doc.Shifted base d other) {id : Nat} (le : base ≤ id) :
    other.childNodes (id + d)
      = (doc.childNodes id).map fun child => (child.1 + d, child.2.shift d) := by
  rw [Document.childNodes, Document.childNodes, shifted.children le, List.filterMap_map,
    List.map_filterMap]
  refine List.filterMap_congr fun child mem => ?_
  -- children come after their parent, so they are shifted too
  have above : base ≤ child := Nat.le_of_lt (Nat.lt_of_le_of_lt le (lt_of_mem_children mem).1)
  simp only [Function.comp_apply, shifted.node child above, Option.map_map]
  rfl

/-- Picking children by title picks the same ones. -/
theorem childrenTitled (shifted : doc.Shifted base d other) {id : Nat} (le : base ≤ id)
    (title : String) :
    other.childrenTitled (id + d) title = (doc.childrenTitled id title).map (Node.shift d) := by
  rw [Document.childrenTitled, Document.childrenTitled, shifted.childNodes le, List.map_map,
    List.filter_map, List.filter_map, List.map_map]
  rfl

/-- What an item gathers from its children is texts, so nothing of it is shifted. -/
theorem gathered (shifted : doc.Shifted base d other) {id : Nat} (le : base ≤ id) :
    other.gathered (id + d) = doc.gathered id := by
  simp only [Document.gathered, shifted.childrenTitled le, List.map_map, List.flatMap_map]
  rfl

theorem viewDetails (shifted : doc.Shifted base d other) {id : Nat} (le : base ≤ id)
    (node : Node) : other.viewDetails (id + d) (node.shift d) = doc.viewDetails id node := by
  rw [Document.viewDetails, Document.viewDetails, shifted.gathered le]
  rfl

end Document.Shifted

namespace Document

/-- A view from the views of the children that keep one. -/
theorem viewOf_eq (doc : Document) (id : Nat) (node : Node) :
    doc.viewOf id node
      = .mk node.title node.subtitle node.body node.origin (doc.viewDetails id node)
          (((doc.childNodes id).filter fun child => keepsView node child.2).map
            fun child => doc.viewOf child.1 child.2) := by
  have kept : ∀ children : List (Nat × Node),
      ((children.attach.filter fun child => keepsView node child.val.2).map
          fun child => doc.viewOf child.val.1 child.val.2)
        = (children.filter fun child => keepsView node child.2).map
            fun child => doc.viewOf child.1 child.2 := by
    intro children
    -- `viewOf` carries proofs along with the children; they change nothing
    conv => rhs; rw [← List.attach_map_subtype_val children, List.filter_map, List.map_map]
    rfl
  rw [viewOf]
  congr 1
  exact kept (doc.childNodes id)

namespace Shifted

variable {base d : Nat} {doc other : Document}

/-- **Views show no numbers.** -/
theorem viewOf (shifted : doc.Shifted base d other) (id : Nat) (le : base ≤ id) (node : Node) :
    other.viewOf (id + d) (node.shift d) = doc.viewOf id node := by
  -- children have greater numbers, and no number reaches the size
  induction left : doc.size - id using Nat.strongRecOn generalizing id node with
  | ind left' ih =>
    subst left
    rw [viewOf_eq, viewOf_eq, shifted.viewDetails le, shifted.childNodes le, List.filter_map,
      List.map_map]
    congr 1
    refine List.map_congr_left fun child mem => ?_
    obtain ⟨above, lt⟩ := lt_of_mem_childNodes (List.mem_filter.mp mem).1
    exact ih _ (by omega) child.1 (by omega) child.2 rfl

/-- The view of a node, found by its number on either side. -/
theorem view? (shifted : doc.Shifted base d other) {id : Nat} (le : base ≤ id) :
    other.view? (id + d) = doc.view? id := by
  rw [Document.view?, Document.view?, shifted.node id le, Option.map_map]
  congr 1
  funext node
  exact shifted.viewOf id le node

end Shifted

end Document

end DocComments
