/-
  A document is a forest, whatever is added to it.

  The additions to a document are a list: roots, and children of nodes that are there already
  (`Grounded`).  Nothing is asked of the kinds, and the additions may come in any order, the
  children of one node between those of another.  Every node is then the one that was added with its
  number, under the parent that was named with it (`node?_ofAdditions`), and both records of every
  link agree (`Linked`).

  Three walks go over the tree: up the parents to the root, down the children to a view, and down
  the children to a text.  What ends them is the order of the numbers.  The first two are given a
  budget here, and have no answer when that is used up (`climb`, `viewWithin`); the text is cut off
  below a number of levels by itself (`dump`).  As many turns as there are nodes are always enough
  (`climb_eq`, `bounded_of_size_le`), and what comes out is then no matter of the budget any more.

    * `Linked.isForest`        the forest, from the links alone;
    * `walksEnd`               the walks, from the order of the numbers alone;
    * `additions_make_forest`  what holds after any additions.
-/
import Mathlib.Data.List.Induction
import DocComments.Proofs.TreeText

namespace DocComments

/-! ## Additions -/

/-- One addition to a document. -/
inductive Addition where
  | root (node : Node)
  | child (parent : Nat) (node : Node)
deriving Repr, DecidableEq

namespace Addition

/-- The node that is added. -/
def node : Addition → Node
  | root node => node
  | child _ node => node

/-- The parent that is named with the node. -/
def parent? : Addition → Option Nat
  | root _ => none
  | child parent _ => some parent

/-- Each child is added under a node that is there: one with a number that has been given. -/
def Grounded (additions : List Addition) : Prop :=
  ∀ id, (lt : id < additions.length) → ∀ parent ∈ additions[id].parent?, parent < id

instance (additions : List Addition) : Decidable (Grounded additions) :=
  inferInstanceAs (Decidable (∀ id, (lt : id < additions.length) →
    ∀ parent ∈ additions[id].parent?, parent < id))

theorem Grounded.front {front : List Addition} {last : Addition}
    (grounded : Grounded (front ++ [last])) : Grounded front := by
  intro id lt parent named
  have inside : id < (front ++ [last]).length := by
    rw [List.length_append]
    omega
  exact grounded id inside parent (by rwa [List.getElem_append_left lt])

theorem Grounded.last {front : List Addition} {last : Addition}
    (grounded : Grounded (front ++ [last])) {parent : Nat} (named : last.parent? = some parent) :
    parent < front.length := by
  refine grounded front.length (by simp) parent ?_
  simpa using named

end Addition

namespace Document

/-- The document after one addition. -/
def add (doc : Document) : Addition → Document
  | .root node => doc.addRoot node
  | .child parent node => doc.addChild parent node

/-- The document that some additions make. -/
def ofAdditions (additions : List Addition) : Document := additions.foldl add empty

variable {doc : Document} {id : Nat} {added : Addition} {additions : List Addition}

/-- One node is new, and of the others nothing but the children may change. -/
theorem node?_add (grounded : ∀ parent, added.parent? = some parent → parent < doc.size)
    (id : Nat) :
    (doc.add added).node? id
      = if id = doc.size then some (fresh added.node added.parent?)
        else (doc.node? id).map fun old => { old with children := (doc.add added).children id } := by
  cases added with
  | root node =>
    rw [add, node?_addRoot, children_addRoot]
    split
    · rfl
    · cases found : doc.node? id with
      | none => rfl
      | some old => rw [children_of_node? found]; rfl
  | child parent node =>
    have lt : parent < doc.size := grounded parent rfl
    rw [add, node?_addChild doc lt]
    split
    · rfl
    · cases found : doc.node? id with
      | none => rfl
      | some old =>
        by_cases same : parent = id
        · subst same
          rw [children_addChild doc lt, children_of_node? found, Option.map_some, if_pos rfl]
          rfl
        · rw [children_addChild_of_ne lt node same, children_of_node? found, Option.map_some,
            if_neg same]
          rfl

theorem size_add (grounded : ∀ parent, added.parent? = some parent → parent < doc.size) :
    (doc.add added).size = doc.size + 1 := by
  cases added with
  | root node => exact size_addRoot doc node
  | child parent node => exact size_addChild doc (grounded parent rfl) node

theorem ofAdditions_concat (front : List Addition) (last : Addition) :
    ofAdditions (front ++ [last]) = (ofAdditions front).add last := by
  rw [ofAdditions, List.foldl_append]
  rfl

theorem built_ofAdditions (additions : List Addition) : (ofAdditions additions).Built := by
  induction additions using List.reverseRecOn with
  | nil => exact .empty
  | append_singleton front last ih =>
    rw [ofAdditions_concat]
    cases last with
    | root node => exact ih.addRoot node
    | child parent node => exact ih.addChild parent node

theorem size_ofAdditions (grounded : Addition.Grounded additions) :
    (ofAdditions additions).size = additions.length := by
  induction additions using List.reverseRecOn with
  | nil => rfl
  | append_singleton front last ih =>
    have size := ih grounded.front
    rw [ofAdditions_concat, size_add fun parent named => size ▸ grounded.last named, size,
      List.length_append, List.length_singleton]

/-- **Every node is the one that was added with its number.** -/
theorem node?_ofAdditions (grounded : Addition.Grounded additions) (id : Nat) :
    (ofAdditions additions).node? id
      = additions[id]?.map fun added =>
          { added.node with
            parent := added.parent?
            children := (ofAdditions additions).children id } := by
  induction additions using List.reverseRecOn with
  | nil => rfl
  | append_singleton front last ih =>
    have size := size_ofAdditions grounded.front
    have there : ∀ parent, last.parent? = some parent → parent < (ofAdditions front).size :=
      fun parent named => size ▸ grounded.last named
    have step := node?_add there
    rw [ofAdditions_concat, step, size]
    by_cases new : id = front.length
    · have childless : ((ofAdditions front).add last).children front.length = [] := by
        have found := step front.length
        rw [size, if_pos rfl] at found
        rw [children_of_node? found]
        rfl
      subst new
      rw [if_pos rfl, List.getElem?_concat_length, childless]
      rfl
    · have old : (front ++ [last])[id]? = front[id]? := by
        rcases Nat.lt_or_gt_of_ne new with before | behind
        · exact List.getElem?_append_left before
        · rw [List.getElem?_eq_none (by simp; omega), List.getElem?_eq_none (by omega)]
      rw [if_neg new, ih grounded.front, old, Option.map_map]
      rfl

/-! ## Without a measure -/

/-- Where the way up from a node ends, if it ends within a number of turns. -/
def climb (doc : Document) : Nat → Nat → Option Nat
  | 0, _ => none
  | turns + 1, id =>
    match doc.parent? id with
    | none => some id
    | some parent => climb doc turns parent

/-- **The way up ends:** each turn leads to a smaller number. -/
theorem climb_eq {turns : Nat} (enough : id < turns) :
    doc.climb turns id = some (doc.rootOf id) := by
  induction turns generalizing id with
  | zero => omega
  | succ turns ih =>
    rw [climb]
    split
    · rename_i top
      rw [rootOf_eq_self top]
    · rename_i parent up
      have less := parent?_lt up
      rw [rootOf_eq_rootOf up]
      exact ih (by omega)

/-- The view of the subtree at a node, if the subtree has no more than a number of levels. -/
def viewWithin (doc : Document) : Nat → Nat → Node → Option View
  | 0, _, _ => none
  | depth + 1, id, node => do
    let kept := (doc.childNodes id).filter fun child => keepsView node child.2
    let below ← kept.mapM fun child => viewWithin doc depth child.1 child.2
    some (.mk node.title node.subtitle node.body node.origin (doc.viewDetails id node) below)

/-- **The way down ends:** with levels enough the view is whole. -/
theorem viewWithin_eq {depth : Nat} (bounded : doc.Bounded depth id) (node : Node) :
    doc.viewWithin depth id node = some (doc.viewOf id node) := by
  induction depth generalizing id node with
  | zero => cases bounded
  | succ depth ih =>
    cases bounded with
    | mk below =>
      have each : ∀ child ∈ (doc.childNodes id).filter fun child => keepsView node child.2,
          doc.viewWithin depth child.1 child.2 = some (doc.viewOf child.1 child.2) := by
        intro child mem
        have isChild := (mem_childNodes.mp (List.mem_filter.mp mem).1).1
        exact ih (below child.1 isChild) child.2
      rw [viewWithin, mapM_eq_some each, viewOf_eq]
      rfl

/-- Each walk over the document ends by itself: with turns enough, or levels enough, it gives what
    it gives without a bound. -/
structure WalksEnd (doc : Document) : Prop where
  climb : ∀ id turns, id < doc.size → doc.size ≤ turns →
    doc.climb turns id = some (doc.rootOf id)
  view : ∀ id node depth, doc.node? id = some node → doc.size ≤ depth →
    doc.viewWithin depth id node = some (doc.viewOf id node)
  text : ∀ ids depth indent, (∀ id ∈ ids, id < doc.size) → doc.size ≤ depth →
    doc.dump depth indent ids = String.join (ids.map (doc.fullText indent))

/-- **No walk needs a bound:** there are no more turns or levels than nodes. -/
theorem walksEnd (doc : Document) : doc.WalksEnd := by
  have bounded : ∀ id depth, id < doc.size → doc.size ≤ depth → doc.Bounded depth id :=
    fun id depth inside enough => bounded_of_size_le inside (by omega)
  constructor
  case climb =>
    intro id turns inside enough
    exact climb_eq (by omega)
  case view =>
    intro id node depth found enough
    exact viewWithin_eq (bounded id depth (lt_of_node? found) enough) node
  case text =>
    intro ids depth indent inside enough
    exact dump_of_bounded (fun id mem => bounded id depth (inside id mem) enough) indent

/-! ## The forest -/

/-- The nodes are a forest, in the order of their numbers. -/
structure IsForest (doc : Document) : Prop where
  /-- A parent has a smaller number, and it alone has the node among its children, once. -/
  parent : ∀ id parent, doc.parent? id = some parent →
    parent < id ∧ (doc.children parent).count id = 1
      ∧ ∀ other, id ∈ doc.children other → other = parent
  child : ∀ id child, child ∈ doc.children id → doc.parent? child = some id
  children : ∀ id, (doc.children id).Pairwise (· < ·)
  roots : doc.roots.Pairwise (· < ·)
  mem_roots : ∀ id, id ∈ doc.roots ↔ id < doc.size ∧ doc.parent? id = none
  /-- Each node is below one root, the one that the way up leads to. -/
  root : ∀ id, id < doc.size → doc.rootOf id ∈ doc.roots ∧ doc.Below id (doc.rootOf id)
    ∧ ∀ root ∈ doc.roots, doc.Below id root → root = doc.rootOf id
  /-- From the roots each node is met, once. -/
  all : (doc.roots.flatMap doc.preorder).Perm (List.range doc.size)

/-- **Links that are recorded at both ends make a forest.** -/
theorem Linked.isForest (linked : doc.Linked) : doc.IsForest where
  parent := by
    intro id parent up
    have mem := linked.mem_children.mpr up
    refine ⟨parent?_lt up, List.count_eq_one_of_mem linked.nodup_children mem, ?_⟩
    intro other mem'
    exact Option.some.inj ((linked.mem_children.mp mem').symm.trans up)
  child _ _ := linked.mem_children.mp
  children := linked.increasing_children
  roots := linked.increasing_roots
  mem_roots _ := linked.mem_roots
  root id inside := ⟨linked.rootOf_mem inside, below_rootOf doc id, fun _ => linked.eq_rootOf⟩
  all := linked.preorder_perm (.refl _)

/-- **Any additions make a forest.**  Let roots and children of nodes that are there be added, of
    any kinds and in any order.  Then every node is the one that was added with its number, under
    the parent that was named with it.  That parent has a smaller number, has the node among its
    children once, and no other node has it; the children of a node go up, and the roots are the
    nodes without parent, going up.  From every node the way up ends, at the only root that it is
    below; and from the roots all nodes are met going down, each once.  No walk needs a bound: the
    root of a node, its view, and the text of some nodes are the same for every number of turns or
    levels from the number of nodes on, and whole. -/
theorem additions_make_forest (grounded : Addition.Grounded additions) :
    let doc := ofAdditions additions
    (∀ id, doc.node? id = additions[id]?.map fun added =>
        { added.node with parent := added.parent?, children := doc.children id })
      ∧ doc.IsForest ∧ doc.WalksEnd := by
  intro doc
  have linked : doc.Linked := (built_ofAdditions additions).linked
  exact ⟨node?_ofAdditions grounded, linked.isForest, walksEnd doc⟩

/-- An item as a root, a file under a text, a section under the file, and the children of two nodes
    in turn. -/
theorem additions_make_forest_mixed_kinds :
    let node (kind : NodeKind) (title : String) : Node := { kind, title, origin := ⟨"a", 1⟩ }
    let additions : List Addition :=
      [.root (node (.leaf .text) "A"), .child 0 (node (.file {}) "B"), .root (node (.item {}) "C"),
        .child 1 (node .sect "D"), .child 0 (node .topics "E"), .child 3 (node .subsect "F")]
    let doc := ofAdditions additions
    Addition.Grounded additions
      ∧ doc.roots = [0, 2]
      ∧ (List.range 6).map doc.children = [[1, 4], [3], [], [5], [], []]
      ∧ doc.climb 6 5 = some 0 ∧ doc.rootOf 5 = 0
      ∧ (doc.roots.flatMap doc.preorder).Perm (List.range 6)
      ∧ String.join (doc.roots.map (doc.fullText ""))
          = "A:\n  B:\n    D:\n      F:\n  E:\nC:\n" := by
  intro node additions doc
  have grounded : Addition.Grounded additions := by decide
  obtain ⟨-, forest, ends⟩ := additions_make_forest grounded
  have turns : doc.climb 6 5 = some 0 := by decide
  have top := ends.climb 5 6 (by decide) (by decide)
  refine ⟨grounded, rfl, rfl, turns, Option.some.inj (top.symm.trans turns), forest.all, ?_⟩
  rw [← ends.text doc.roots 6 "" (by decide) (by decide)]
  decide

end Document

end DocComments
