/-
  The nodes of a subtree in preorder: the node itself, then the subtrees of its children in order.

  `Document.preorder` goes down by the children.  Which nodes it meets is told by the parents: the
  nodes from which the way up leads to the top of the subtree (`Document.Below`).  A node has one
  parent, so the way up is the only one: it ends at one root (`Linked.eq_rootOf`), and two subtrees
  with tops beside each other share no node (`eq_of_below_both`).  Nothing is met twice then, and
  from the roots, taken in any order, every node is met (`Linked.preorder_perm`).

  None of this asks for the grammar of the tree.  It is enough that the links are recorded at both
  ends.
-/
import Mathlib.Data.List.Nodup
import Mathlib.Logic.Relation
import DocComments.Proofs.Nesting

namespace DocComments.Document

/-- The numbers of the nodes of a subtree, in preorder. -/
def preorder (doc : Document) (id : Nat) : List Nat :=
  id :: (doc.children id).attach.flatMap fun ⟨child, _mem⟩ => preorder doc child
termination_by doc.size - id
decreasing_by
  have := lt_of_mem_children _mem
  omega

/-- The way up from a node comes by another one, or starts there. -/
def Below (doc : Document) : Nat → Nat → Prop :=
  Relation.ReflTransGen fun child parent => doc.parent? child = some parent

variable {doc : Document} {id top other : Nat}

theorem preorder_eq (doc : Document) (id : Nat) :
    doc.preorder id = id :: (doc.children id).flatMap doc.preorder := by
  have each : ∀ ids : List Nat,
      (ids.attach.flatMap fun child => doc.preorder child.val) = ids.flatMap doc.preorder := by
    intro ids
    conv => rhs; rw [← List.attach_map_subtype_val ids, List.flatMap_map]
  rw [preorder]
  congr 1
  exact each (doc.children id)

/-! ## The way up -/

/-- On the way up the numbers get smaller. -/
theorem Below.le (below : doc.Below id top) : top ≤ id := by
  induction below with
  | refl => exact Nat.le_refl _
  | tail _ up ih => exact Nat.le_trans (Nat.le_of_lt (parent?_lt up)) ih

theorem Below.lt_size (below : doc.Below id top) (inside : top < doc.size) : id < doc.size := by
  cases below using Relation.ReflTransGen.head_induction_on with
  | refl => exact inside
  | head up _ => exact lt_of_parent? up

/-- The next node on the way up. -/
theorem Below.eq_or_parent (below : doc.Below id top) :
    id = top ∨ ∃ parent, doc.parent? id = some parent ∧ doc.Below parent top := by
  cases below using Relation.ReflTransGen.head_induction_on with
  | refl => exact .inl rfl
  | head up rest => exact .inr ⟨_, up, rest⟩

/-- Of two nodes beside each other neither is below the other. -/
theorem Below.eq_of_parent_eq (below : doc.Below id top)
    (beside : doc.parent? id = doc.parent? top) : id = top := by
  rcases below.eq_or_parent with same | ⟨parent, up, rest⟩
  · exact same
  · -- the parent would be below its own child
    have := parent?_lt (beside.symm.trans up)
    have := rest.le
    omega

/-- The way up from a node is the only one, so it does not come by two nodes beside each other. -/
theorem eq_of_below_both (first : doc.Below id top) (second : doc.Below id other)
    (beside : doc.parent? top = doc.parent? other) : top = other := by
  have one : Relator.RightUnique fun child parent => doc.parent? child = some parent := by
    intro child parent parent' up up'
    exact Option.some.inj (up.symm.trans up')
  rcases Relation.ReflTransGen.total_of_right_unique one first second with below | below
  · exact Below.eq_of_parent_eq below beside
  · exact (Below.eq_of_parent_eq below beside.symm).symm

theorem parent?_rootOf (doc : Document) (id : Nat) : doc.parent? (doc.rootOf id) = none := by
  induction id using Nat.strongRecOn with
  | ind id ih =>
    cases up : doc.parent? id with
    | none => rw [rootOf_eq_self up, up]
    | some parent => rw [rootOf_eq_rootOf up, ih parent (parent?_lt up)]

/-- The way up ends at the root. -/
theorem below_rootOf (doc : Document) (id : Nat) : doc.Below id (doc.rootOf id) := by
  induction id using Nat.strongRecOn with
  | ind id ih =>
    cases up : doc.parent? id with
    | none => rw [rootOf_eq_self up]; exact .refl
    | some parent => rw [rootOf_eq_rootOf up]; exact .head up (ih parent (parent?_lt up))

namespace Linked

variable (linked : doc.Linked)
include linked

/-- **The root above a node** is one of the roots of the document. -/
theorem rootOf_mem (inside : id < doc.size) : doc.rootOf id ∈ doc.roots := by
  have above := (below_rootOf doc id).le
  exact linked.mem_roots.mpr ⟨by omega, parent?_rootOf doc id⟩

/-- **A node is below one root only.** -/
theorem eq_rootOf {root : Nat} (mem : root ∈ doc.roots) (below : doc.Below id root) :
    root = doc.rootOf id := by
  have beside : doc.parent? root = doc.parent? (doc.rootOf id) := by
    rw [(linked.mem_roots.mp mem).2, parent?_rootOf]
  exact eq_of_below_both below (below_rootOf doc id) beside

/-! ## The nodes of a subtree -/

/-- **A subtree holds what is below its top.** -/
theorem mem_preorder : id ∈ doc.preorder top ↔ doc.Below id top := by
  constructor
  · intro mem
    induction left : doc.size - top using Nat.strongRecOn generalizing top with
    | ind left ih =>
      rw [preorder_eq, List.mem_cons, List.mem_flatMap] at mem
      rcases mem with rfl | ⟨child, isChild, mem⟩
      · exact .refl
      · have after := lt_of_mem_children isChild
        have below := ih (doc.size - child) (by omega) mem rfl
        exact below.tail (linked.mem_children.mp isChild)
  · intro below
    induction below with
    | refl => rw [preorder_eq]; exact List.mem_cons_self ..
    | tail _ up ih =>
      rw [preorder_eq, List.mem_cons, List.mem_flatMap]
      exact .inr ⟨_, linked.mem_children.mpr up, ih⟩

/-- The subtrees of different nodes beside each other have nothing in common. -/
theorem disjoint_preorder (ne : top ≠ other) (beside : doc.parent? top = doc.parent? other) :
    (doc.preorder top).Disjoint (doc.preorder other) := by
  intro id first second
  exact ne (eq_of_below_both (linked.mem_preorder.mp first) (linked.mem_preorder.mp second) beside)

/-- Subtrees side by side, none of which has a node twice. -/
theorem nodup_flatMap_preorder {ids : List Nat} {parent : Option Nat} (nodup : ids.Nodup)
    (beside : ∀ id ∈ ids, doc.parent? id = parent)
    (each : ∀ id ∈ ids, (doc.preorder id).Nodup) : (ids.flatMap doc.preorder).Nodup := by
  refine List.nodup_flatMap.mpr ⟨each, nodup.pairwise_of_forall_ne ?_⟩
  intro a memA b memB ne
  exact linked.disjoint_preorder ne ((beside a memA).trans (beside b memB).symm)

theorem nodup_preorder : (doc.preorder id).Nodup := by
  induction left : doc.size - id using Nat.strongRecOn generalizing id with
  | ind left ih =>
    have later : ∀ child ∈ doc.children id, (doc.preorder child).Nodup := by
      intro child mem
      have after := lt_of_mem_children mem
      exact ih (doc.size - child) (by omega) rfl
    have beside : ∀ child ∈ doc.children id, doc.parent? child = some id :=
      fun child mem => linked.mem_children.mp mem
    rw [preorder_eq, List.nodup_cons]
    refine ⟨?_, linked.nodup_flatMap_preorder linked.nodup_children beside later⟩
    intro mem
    obtain ⟨child, isChild, mem⟩ := List.mem_flatMap.mp mem
    have after := lt_of_mem_children isChild
    have := (linked.mem_preorder.mp mem).le
    omega

/-- **From the roots every node is met once.** -/
theorem preorder_perm {tops : List Nat} (perm : tops.Perm doc.roots) :
    (tops.flatMap doc.preorder).Perm (List.range doc.size) := by
  have inOrder : (doc.roots.flatMap doc.preorder).Perm (List.range doc.size) := by
    have nodup : (doc.roots.flatMap doc.preorder).Nodup :=
      linked.nodup_flatMap_preorder linked.nodup_roots
        (fun root mem => (linked.mem_roots.mp mem).2) fun root _ => linked.nodup_preorder
    refine (List.perm_ext_iff_of_nodup nodup List.nodup_range).mpr fun id => ?_
    rw [List.mem_flatMap, List.mem_range]
    constructor
    · rintro ⟨root, mem, below⟩
      exact (linked.mem_preorder.mp below).lt_size (linked.mem_roots.mp mem).1
    · intro inside
      exact ⟨doc.rootOf id, linked.rootOf_mem inside,
        linked.mem_preorder.mpr (below_rootOf doc id)⟩
  exact (perm.flatMap_right doc.preorder).trans inOrder

end Linked

/-- From the files every node is met once. -/
theorem Nested.preorder_perm (nested : doc.Nested) {files : List Nat}
    (perm : files.Perm doc.roots) :
    (files.flatMap doc.preorder).Perm (List.range doc.size) :=
  nested.linked.preorder_perm perm

end DocComments.Document
