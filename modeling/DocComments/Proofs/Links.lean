/-
  A link is recorded at both ends.

  A node names its parent, the parent lists the node among its children, and a node without parent
  is listed among the roots.  These are three records of one thing, and the type of a document does
  not tie them together.  What does is that nothing writes one without the others: an addition
  writes both ends, and no other change writes any.  So the lists are what the parents say
  (`Linked`), in whatever order a document is built and whatever the kinds of its nodes are
  (`Built.linked`).

  All that is known of the lists comes from that: the nodes under one node, and those under none,
  are the numbers that pass a test, picked from the range of all numbers.  So they go up, and
  nothing is in them twice or out of place.

    * `Linked.addRoot`, `Linked.addChild`, `Linked.mapKind`  the three ways to change a document;
    * `Linked.mem_children`, `Linked.mem_roots`              the lists told from the parents.
-/
import Mathlib.Data.List.Nodup
import DocComments.Proofs.Growth

namespace DocComments.Document

/-! ## Children after an operation -/

variable {doc : Document} {node : Node} {parent : Nat}

/-- The number after the last node has no children. -/
theorem children_size (doc : Document) : doc.children doc.size = [] := by
  rw [children, node?_eq_none (Nat.le_refl _)]
  rfl

/-- A new root is nobody's child. -/
theorem children_addRoot (node : Node) (id : Nat) :
    (doc.addRoot node).children id = doc.children id := by
  rw [children, children, node?_addRoot]
  split
  · rename_i new
    rw [new, node?_eq_none (Nat.le_refl _)]
    rfl
  · rfl

/-- A new child is the last of its parent. -/
theorem children_addChild (doc : Document) {parent : Nat} (lt : parent < doc.size) (node : Node) :
    (doc.addChild parent node).children parent = doc.children parent ++ [doc.size] := by
  simp only [children, node?_addChild doc lt, if_neg (Nat.ne_of_lt lt), if_true, Option.map_map]
  cases found : doc.node? parent with
  | none => exact absurd lt (Nat.not_lt.mpr (List.getElem?_eq_none_iff.mp found))
  | some old => rfl

/-- The new node is nobody else's child. -/
theorem children_addChild_of_ne (lt : parent < doc.size) (node : Node) {id : Nat}
    (ne : parent ≠ id) : (doc.addChild parent node).children id = doc.children id := by
  rw [children, children, node?_addChild doc lt]
  simp only [if_neg ne, Option.map_id']
  split
  · rename_i new
    rw [new, node?_eq_none (Nat.le_refl _)]
    rfl
  · rfl

/-- A change of kind leaves the children as they are. -/
theorem children_mapKind (doc : Document) (id : Nat) (f : NodeKind → NodeKind) (i : Nat) :
    (doc.mapKind id f).children i = doc.children i := by
  simp only [children, node?_mapKind, Option.map_map]
  congr 2
  funext node
  simp only [Function.comp_apply]
  split <;> rfl

/-! ## What the parents say -/

/-- The numbers of the nodes that have a given parent, or that have none, in order. -/
def withParent (doc : Document) (up : Option Nat) : List Nat :=
  (List.range doc.size).filter fun id => doc.parent? id = up

/-- The numbers of the nodes whose parent is a given one, in order. -/
def under (doc : Document) (parent : Nat) : List Nat :=
  (List.range doc.size).filter fun id => doc.parent? id = some parent

/-- Those under a node are those with that node for a parent. -/
theorem under_eq (doc : Document) (parent : Nat) :
    doc.under parent = doc.withParent (some parent) := rfl

theorem mem_withParent {up : Option Nat} {id : Nat} :
    id ∈ doc.withParent up ↔ id < doc.size ∧ doc.parent? id = up := by
  rw [withParent, List.mem_filter, List.mem_range, decide_eq_true_iff]

theorem increasing_withParent (doc : Document) (up : Option Nat) :
    (doc.withParent up).Pairwise (· < ·) :=
  List.pairwise_lt_range.filter _

/-- A question that has the old answer for every old node is asked once more for the new one. -/
theorem filter_range_succ {size : Nat} {ask before : Nat → Bool}
    (kept : ∀ id, id < size → ask id = before id) :
    (List.range (size + 1)).filter ask
      = (List.range size).filter before ++ if ask size then [size] else [] := by
  have old : (List.range size).filter ask = (List.range size).filter before := by
    refine List.filter_congr fun id mem => ?_
    exact kept id (List.mem_range.mp mem)
  rw [List.range_succ, List.filter_append, old]
  cases asked : ask size <;> simp [asked]

/-- A new root is one more node without parent, the last of them. -/
theorem withParent_addRoot (node : Node) (up : Option Nat) :
    (doc.addRoot node).withParent up
      = doc.withParent up ++ if up = none then [doc.size] else [] := by
  have kept : ∀ id, id < doc.size → decide ((doc.addRoot node).parent? id = up)
      = decide (doc.parent? id = up) := by
    intro id lt
    rw [parent?_addRoot, if_neg (Nat.ne_of_lt lt)]
  rw [withParent, size_addRoot, filter_range_succ kept, withParent]
  simp [parent?_addRoot, eq_comm]

/-- A new child is one more node with that parent, the last of them. -/
theorem withParent_addChild (lt : parent < doc.size) (node : Node) (up : Option Nat) :
    (doc.addChild parent node).withParent up
      = doc.withParent up ++ if up = some parent then [doc.size] else [] := by
  have kept : ∀ id, id < doc.size → decide ((doc.addChild parent node).parent? id = up)
      = decide (doc.parent? id = up) := by
    intro id inside
    rw [parent?_addChild doc lt, if_neg (Nat.ne_of_lt inside)]
  rw [withParent, size_addChild doc lt, filter_range_succ kept, withParent]
  simp [parent?_addChild doc lt, eq_comm]

/-- A change of kind moves no node. -/
theorem withParent_mapKind (id : Nat) (f : NodeKind → NodeKind) (up : Option Nat) :
    (doc.mapKind id f).withParent up = doc.withParent up := by
  rw [withParent, withParent, size_mapKind]
  simp only [parent?_mapKind]

/-! ## Linked documents -/

/-- The roots and the children are what the parents say. -/
structure Linked (doc : Document) : Prop where
  roots : doc.roots = doc.withParent none
  children : ∀ id, doc.children id = doc.under id

namespace Linked

theorem empty : Linked Document.empty where
  roots := rfl
  children id := by simp [Document.children, under, Document.empty, node?, size]

/-- **A new root** is listed as a root. -/
theorem addRoot (linked : doc.Linked) (node : Node) : (doc.addRoot node).Linked where
  roots := by rw [roots_addRoot, withParent_addRoot, if_pos rfl, linked.roots]
  children id := by
    rw [children_addRoot, under_eq, withParent_addRoot, if_neg nofun, List.append_nil,
      linked.children, under_eq]

/-- **A new child** is listed under its parent. -/
theorem addChild (linked : doc.Linked) (lt : parent < doc.size) (node : Node) :
    (doc.addChild parent node).Linked where
  roots := by
    rw [roots_addChild, withParent_addChild lt, if_neg nofun, List.append_nil, linked.roots]
  children id := by
    rw [under_eq, withParent_addChild lt, ← under_eq, ← linked.children]
    by_cases same : id = parent
    · subst same
      rw [children_addChild doc lt, if_pos rfl]
    · have other : some id ≠ some parent := fun eq => same (Option.some.inj eq)
      rw [children_addChild_of_ne lt node (Ne.symm same), if_neg other, List.append_nil]

/-- **A change of kind** changes no list. -/
theorem mapKind (linked : doc.Linked) (id : Nat) (f : NodeKind → NodeKind) :
    (doc.mapKind id f).Linked where
  roots := by rw [roots_mapKind, linked.roots, withParent_mapKind]
  children i := by rw [children_mapKind, linked.children, under_eq, under_eq, withParent_mapKind]

variable (linked : doc.Linked)
include linked

/-- **A node is listed under its parent,** and nowhere else. -/
theorem mem_children {id child : Nat} :
    child ∈ doc.children id ↔ doc.parent? child = some id := by
  rw [linked.children, under_eq, mem_withParent]
  exact ⟨And.right, fun up => ⟨lt_of_parent? up, up⟩⟩

/-- Children are listed in the order in which they were added. -/
theorem increasing_children (id : Nat) : (doc.children id).Pairwise (· < ·) := by
  rw [linked.children]
  exact increasing_withParent doc (some id)

/-- No child is listed twice. -/
theorem nodup_children {id : Nat} : (doc.children id).Nodup :=
  (linked.increasing_children id).imp Nat.ne_of_lt

/-- **A node without parent is listed as a root,** and no other is. -/
theorem mem_roots {id : Nat} : id ∈ doc.roots ↔ id < doc.size ∧ doc.parent? id = none := by
  rw [linked.roots, mem_withParent]

/-- Roots are listed in the order in which they were added. -/
theorem increasing_roots : doc.roots.Pairwise (· < ·) := by
  rw [linked.roots]
  exact increasing_withParent doc none

theorem nodup_roots : doc.roots.Nodup := linked.increasing_roots.imp Nat.ne_of_lt

end Linked

/-! ## Documents as they are built -/

/-- Any operations lead from the empty document to this one: roots and children are added, with any
    content and anywhere, and kinds are changed. -/
inductive Built : Document → Prop
  | empty : Built .empty
  | addRoot {doc : Document} (built : Built doc) (node : Node) : Built (doc.addRoot node)
  | addChild {doc : Document} (built : Built doc) (parent : Nat) (node : Node) :
    Built (doc.addChild parent node)
  | mapKind {doc : Document} (built : Built doc) (id : Nat) (f : NodeKind → NodeKind) :
    Built (doc.mapKind id f)

/-- **However a document is built,** its links are recorded at both ends. -/
theorem Built.linked {doc : Document} (built : doc.Built) : doc.Linked := by
  induction built with
  | empty => exact .empty
  | addRoot _ node ih => exact ih.addRoot node
  | @addChild doc _ parent node ih =>
    by_cases lt : parent < doc.size
    · exact ih.addChild lt node
    · have same : doc.addChild parent node = doc := dif_neg lt
      rwa [same]
  | mapKind _ id f ih => exact ih.mapKind id f

end DocComments.Document
