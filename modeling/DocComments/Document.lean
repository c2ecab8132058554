/-
  The document: all nodes, in the order in which they were added.

  A node is added either as a root or under a node that is there already.  Both ends of the link
  are recorded, the parent in the node and the node among the children of its parent, and the roots
  are kept in a list of their own.

  A parent always has a smaller number than its children.  That is part of the type (`Ordered`), so
  a walk up the tree ends, and so does a walk down.

    * `node?_addRoot`, `node?_addChild`, `node?_mapKind`  every node after an operation, told from
      the nodes before it;
    * `lt_of_mem_childNodes`  children come after their parent.
-/
import DocComments.Node

namespace DocComments

/-- In a list of nodes, a parent has a smaller number than its child, whichever of the two names
    the other. -/
structure Ordered (nodes : List Node) : Prop where
  parent_lt : ∀ (id parent : Nat) (node : Node),
    nodes[id]? = some node → node.parent = some parent → parent < id
  lt_child : ∀ (id child : Nat) (node : Node),
    nodes[id]? = some node → child ∈ node.children → id < child ∧ child < nodes.length

theorem Ordered.nil : Ordered [] where
  parent_lt id parent node found := by simp at found
  lt_child id child node found := by simp at found

/-- One more node without children keeps the order when its parent is there already. -/
theorem Ordered.append {nodes : List Node} (ordered : Ordered nodes) {node : Node}
    (h : ∀ parent, node.parent = some parent → parent < nodes.length) (leaf : node.children = []) :
    Ordered (nodes ++ [node]) where
  parent_lt := by
    intro id parent n found named
    rcases Nat.lt_trichotomy id nodes.length with lt | eq | gt
    · rw [List.getElem?_append_left lt] at found
      exact ordered.parent_lt id parent n found named
    · subst eq
      simp at found
      subst found
      exact h parent named
    · rw [List.getElem?_eq_none (by simp; omega)] at found
      simp at found
  lt_child := by
    intro id child n found mem
    rcases Nat.lt_trichotomy id nodes.length with lt | eq | gt
    · rw [List.getElem?_append_left lt] at found
      have := ordered.lt_child id child n found mem
      simp only [List.length_append, List.length_singleton]
      omega
    · subst eq
      simp at found
      subst found
      simp [leaf] at mem
    · rw [List.getElem?_eq_none (by simp; omega)] at found
      simp at found

/-- Changing one node keeps the order when the change moves no parent and adds no child but such as
    come after the node. -/
theorem Ordered.modify {nodes : List Node} (ordered : Ordered nodes) (id : Nat) (f : Node → Node)
    (parent : ∀ node, (f node).parent = node.parent)
    (children : ∀ node, ∀ child ∈ (f node).children,
      child ∈ node.children ∨ id < child ∧ child < nodes.length) :
    Ordered (nodes.modify id f) where
  parent_lt := by
    intro i p node found named
    rw [List.getElem?_modify] at found
    obtain ⟨before, old, rfl⟩ := Option.map_eq_some_iff.mp found
    refine ordered.parent_lt i p before old ?_
    split at named
    · rwa [parent] at named
    · exact named
  lt_child := by
    intro i child node found mem
    rw [List.getElem?_modify] at found
    obtain ⟨before, old, rfl⟩ := Option.map_eq_some_iff.mp found
    rw [List.length_modify]
    split at mem
    · rename_i same
      subst same
      rcases children before child mem with mem | after
      · exact ordered.lt_child id child before old mem
      · exact after
    · exact ordered.lt_child i child before old mem

/-- The nodes in order, and the numbers of those without parent. -/
@[ext]
structure Document where
  nodes : List Node
  roots : List Nat
  ordered : Ordered nodes

namespace Document

/-- The document without nodes. -/
def empty : Document := ⟨[], [], Ordered.nil⟩

instance : Inhabited Document := ⟨empty⟩

/-- How many nodes there are; the next one added gets this number. -/
def size (doc : Document) : Nat := doc.nodes.length

/-- The node with a number. -/
def node? (doc : Document) (id : Nat) : Option Node := doc.nodes[id]?

/-- The parent of a node; a file has none. -/
def parent? (doc : Document) (id : Nat) : Option Nat := (doc.node? id).bind (·.parent)

theorem parent?_lt {doc : Document} {id parent : Nat} (h : doc.parent? id = some parent) :
    parent < id := by
  obtain ⟨node, found, named⟩ := Option.bind_eq_some_iff.mp h
  exact doc.ordered.parent_lt id parent node found named

/-! ## Adding and changing nodes -/

/-- The node as it enters a document: under a given parent, and without children. -/
def fresh (node : Node) (parent : Option Nat) : Node := { node with parent, children := [] }

/-- The document with one more root; its number is the old size. -/
def addRoot (doc : Document) (node : Node) : Document where
  nodes := doc.nodes ++ [fresh node none]
  roots := doc.roots ++ [doc.size]
  ordered := doc.ordered.append (fun _ named => nomatch named) rfl

theorem fresh_parent_lt {nodes : List Node} {parent : Nat} (node : Node)
    (h : parent < nodes.length) :
    ∀ other, (fresh node (some parent)).parent = some other → other < nodes.length := by
  intro other same
  cases same
  exact h

/-- The node with one more child, the last. -/
def adopt (child : Nat) (node : Node) : Node := { node with children := node.children ++ [child] }

/-- A new last node may become a child of any node before it. -/
theorem ordered_adopt {nodes : List Node} {parent : Nat} {node : Node} (h : parent < nodes.length)
    (ordered : Ordered (nodes ++ [node])) :
    Ordered ((nodes ++ [node]).modify parent (adopt nodes.length)) := by
  refine ordered.modify parent (adopt nodes.length) (fun _ => rfl) fun before child mem => ?_
  rcases List.mem_append.mp mem with old | new
  · exact Or.inl old
  · rw [List.mem_singleton.mp new]
    exact Or.inr ⟨h, by simp⟩

/-- The document with `node` as the last child of `parent`; its number is the old size.  A parent
    that is not in the document takes no child. -/
def addChild (doc : Document) (parent : Nat) (node : Node) : Document :=
  if h : parent < doc.size then
    { nodes := (doc.nodes ++ [fresh node (some parent)]).modify parent (adopt doc.size)
      roots := doc.roots
      ordered := ordered_adopt h (doc.ordered.append (fresh_parent_lt node h) rfl) }
  else doc

/-- The document with the kind of one node changed. -/
def mapKind (doc : Document) (id : Nat) (f : NodeKind → NodeKind) : Document where
  nodes := doc.nodes.modify id fun node => { node with kind := f node.kind }
  roots := doc.roots
  ordered := doc.ordered.modify id _ (fun _ => rfl) fun _ _ mem => Or.inl mem

/-- The document with the information of an item changed. -/
def mapItem (doc : Document) (id : Nat) (f : ItemInfo → ItemInfo) : Document :=
  doc.mapKind id (·.mapItem f)

/-- The document with the information of a file changed. -/
def mapFile (doc : Document) (id : Nat) (f : FileInfo → FileInfo) : Document :=
  doc.mapKind id (·.mapFile f)

/-! ## Walking the tree -/

/-- The numbers of the nodes directly under a node, in order. -/
def children (doc : Document) (id : Nat) : List Nat :=
  ((doc.node? id).map (·.children)).getD []

/-- The nodes directly under a node, with their numbers, in order. -/
def childNodes (doc : Document) (id : Nat) : List (Nat × Node) :=
  (doc.children id).filterMap fun child => (doc.node? child).map (child, ·)

/-- A child has a greater number than its parent, and a number of the document. -/
theorem lt_of_mem_children {doc : Document} {id child : Nat} (h : child ∈ doc.children id) :
    id < child ∧ child < doc.size := by
  unfold children at h
  cases found : doc.node? id with
  | none => simp [found] at h
  | some node =>
    rw [found] at h
    exact doc.ordered.lt_child id child node found h

/-- The nodes under a node are those that its children's numbers name. -/
theorem mem_childNodes {doc : Document} {id child : Nat} {node : Node} :
    (child, node) ∈ doc.childNodes id ↔ child ∈ doc.children id ∧ doc.node? child = some node := by
  simp only [childNodes, List.mem_filterMap, Option.map_eq_some_iff, Prod.mk.injEq]
  constructor
  · rintro ⟨c, mem, n, found, rfl, rfl⟩
    exact ⟨mem, found⟩
  · rintro ⟨mem, found⟩
    exact ⟨child, mem, node, found, rfl, rfl⟩

/-- A child has a greater number than its parent, and a number of the document. -/
theorem lt_of_mem_childNodes {doc : Document} {id child : Nat} {node : Node}
    (h : (child, node) ∈ doc.childNodes id) : id < child ∧ child < doc.size :=
  lt_of_mem_children (mem_childNodes.mp h).1

/-- The root above a node, or the node itself. -/
def rootOf (doc : Document) (id : Nat) : Nat :=
  match _h : doc.parent? id with
  | none => id
  | some parent => rootOf doc parent
termination_by id
decreasing_by exact parent?_lt _h

/-- The children with a given title. -/
def childrenTitled (doc : Document) (id : Nat) (title : String) : List Node :=
  ((doc.childNodes id).map (·.2)).filter (·.title = title)

/-- The roots whose subtitle is a given name, in order. -/
def rootsNamed (doc : Document) (name : String) : List Nat :=
  doc.roots.filter fun id => (doc.node? id).any (·.subtitle = name)

/-- The roots with those named in `priority` first, in the order of the names; the others follow
    in their own order.  Each root stands at its first place only. -/
def prioritized (doc : Document) (priority : List String) : List Nat :=
  ((priority.flatMap doc.rootsNamed) ++ doc.roots).eraseDups

/-! ## The tree as text -/

/-- The subtrees of some nodes as indented lines: each node's display, its body lines two spaces
    further in, then its children two spaces further in, `depth` levels in all. -/
def dump (doc : Document) : Nat → String → List Nat → String
  | 0, _, _ => ""
  | depth + 1, indent, ids =>
    String.join <| ids.map fun id =>
      match doc.node? id with
      | none => ""
      | some node =>
        indent ++ node.display ++ "\n"
          ++ String.join (node.body.map fun line => "  " ++ indent ++ line ++ "\n")
          ++ dump doc depth (indent ++ "  ") (doc.children id)

/-! ## Every node after an operation -/

@[simp] theorem roots_addRoot (doc : Document) (node : Node) :
    (doc.addRoot node).roots = doc.roots ++ [doc.size] := rfl

@[simp] theorem roots_addChild (doc : Document) (parent : Nat) (node : Node) :
    (doc.addChild parent node).roots = doc.roots := by
  unfold addChild
  split <;> rfl

@[simp] theorem roots_mapKind (doc : Document) (id : Nat) (f : NodeKind → NodeKind) :
    (doc.mapKind id f).roots = doc.roots := rfl

@[simp] theorem size_addRoot (doc : Document) (node : Node) :
    (doc.addRoot node).size = doc.size + 1 := by
  simp [addRoot, size]

theorem size_addChild (doc : Document) {parent : Nat} (h : parent < doc.size) (node : Node) :
    (doc.addChild parent node).size = doc.size + 1 := by
  rw [addChild, dif_pos h]
  simp [size]

@[simp] theorem size_mapKind (doc : Document) (id : Nat) (f : NodeKind → NodeKind) :
    (doc.mapKind id f).size = doc.size := by
  simp [mapKind, size]

theorem node?_eq_none {doc : Document} {id : Nat} (h : doc.size ≤ id) : doc.node? id = none :=
  List.getElem?_eq_none h

theorem lt_of_node? {doc : Document} {id : Nat} {node : Node} (h : doc.node? id = some node) :
    id < doc.size :=
  (List.getElem?_eq_some_iff.mp h).1

theorem node?_addRoot (doc : Document) (node : Node) (id : Nat) :
    (doc.addRoot node).node? id
      = if id = doc.size then some (fresh node none) else doc.node? id := by
  simp only [addRoot, node?, size, List.getElem?_append]
  grind

theorem node?_addChild (doc : Document) {parent : Nat} (h : parent < doc.size) (node : Node)
    (id : Nat) :
    (doc.addChild parent node).node? id
      = if id = doc.size then some (fresh node (some parent))
        else (doc.node? id).map fun old => if parent = id then adopt doc.size old else old := by
  rw [addChild, dif_pos h]
  simp only [node?, size, List.getElem?_modify, List.getElem?_append] at h ⊢
  grind

theorem node?_mapKind (doc : Document) (id : Nat) (f : NodeKind → NodeKind) (i : Nat) :
    (doc.mapKind id f).node? i
      = (doc.node? i).map fun node =>
          if id = i then { node with kind := f node.kind } else node := by
  simp only [mapKind, node?, List.getElem?_modify, Option.map_eq_map]

end Document

end DocComments
