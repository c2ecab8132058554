/-
  Questions to a session, checked, and all checks in one theorem.

  Questions walk the tree by number: up the parents (`Checked.rootOf`), down the children
  (`Checked.viewOf`, `Checked.dump`), over the roots (`Checked.views`, `Checked.filesPrioritized`),
  and from a name to its owner (`Checked.item`).  The parents and the children in a document are
  numbers of the document (`Ordered`), and in a session that can be reached so are its roots and the
  owners of its names.  So every node that a question looks up is there, and the answers are those
  that the session gives.

    * `Session.no_lookup_fails`  no cut of a text and no lookup of a node fails, in any run or in
      any question after it.
-/
import Mathlib.Data.List.ReduceOption
import DocComments.Proofs.CheckedReading
import DocComments.Proofs.Nesting
import DocComments.Proofs.Shift

namespace DocComments

namespace Document

variable {doc : Document} {id child : Nat} {node : Node}

theorem children_of_node? (found : doc.node? id = some node) : doc.children id = node.children := by
  rw [children, found]
  rfl

/-- The children of a node are nodes after it. -/
theorem child_lt (found : doc.node? id = some node) (mem : child ∈ node.children) :
    id < child ∧ child < doc.size :=
  doc.ordered.lt_child id child node found mem

end Document

/-- A list of lookups none of which fails. -/
theorem mapM_eq_filterMap {α β : Type} {f : α → Option β} {steps : List α}
    (step : ∀ a ∈ steps, ∃ b, f a = some b) : steps.mapM f = some (steps.filterMap f) := by
  induction steps with
  | nil => rfl
  | cons a rest ih =>
    obtain ⟨b, first⟩ := step a (List.mem_cons_self ..)
    have others := ih fun c mem => step c (List.mem_cons_of_mem a mem)
    rw [List.mapM_cons, List.filterMap_cons, first, others]
    rfl

/-- The same where it is known what each of them gives. -/
theorem mapM_eq_some {α β : Type} {f : α → Option β} {g : α → β} {steps : List α}
    (step : ∀ a ∈ steps, f a = some (g a)) : steps.mapM f = some (steps.map g) := by
  rw [mapM_eq_filterMap fun a mem => ⟨g a, step a mem⟩, List.filterMap_congr step,
    List.filterMap_eq_map']

namespace Checked

/-! ## Up the tree -/

/-- The root above a node; each node on the way is looked up. -/
def rootOf (doc : Document) (id : Nat) : Option Nat :=
  match _found : doc.node? id with
  | none => none
  | some node =>
    match _up : node.parent with
    | none => some id
    | some parent => rootOf doc parent
termination_by id
decreasing_by exact doc.ordered.parent_lt id parent node _found _up

variable {doc : Document} {id : Nat}

/-- **A walk up the tree never fails:** the parent of a node is there. -/
theorem rootOf_eq (lt : id < doc.size) : rootOf doc id = some (doc.rootOf id) := by
  induction id using Nat.strongRecOn with
  | ind id ih =>
    obtain ⟨node, found⟩ := Document.exists_node? lt
    have named : doc.parent? id = node.parent := by rw [Document.parent?, found]; rfl
    rw [rootOf]
    split
    · rename_i missing
      rw [found] at missing
      cases missing
    · rename_i same
      rw [found] at same
      cases same
      split
      · rename_i top
        rw [Document.rootOf_eq_self (named.trans top)]
      · rename_i parent up
        have above : parent < id := doc.ordered.parent_lt id parent node found up
        rw [Document.rootOf_eq_rootOf (named.trans up)]
        exact ih parent above (by omega)

/-! ## Down the tree -/

/-- The nodes with some numbers, each looked up. -/
def nodesAt (doc : Document) (ids : List Nat) : Option (List (Nat × Node)) :=
  ids.mapM fun id => (doc.node? id).map (id, ·)

/-- The nodes directly under a node. -/
def childNodes (doc : Document) (id : Nat) : Option (List (Nat × Node)) := do
  let node ← doc.node? id
  nodesAt doc node.children

/-- The children with a given title. -/
def childrenTitled (doc : Document) (id : Nat) (title : String) : Option (List Node) := do
  let under ← childNodes doc id
  some ((under.map (·.2)).filter (·.title = title))

/-- The bodies that the view of an item gathers. -/
def gathered (doc : Document) (id : Nat) : Option Gathered := do
  let usages ← childrenTitled doc id "Usage"
  let description ← childrenTitled doc id "Description"
  let arguments ← childrenTitled doc id "Arguments"
  let examples ← childrenTitled doc id "Example"
  some {
    usages := usages.map fun node => (node.subtitle, node.body)
    description := description.flatMap (·.body)
    arguments := arguments.flatMap (·.body)
    examples := examples.map (·.body) }

/-- What the view of a node has beyond the common part. -/
def viewDetails (doc : Document) (id : Nat) (node : Node) : Option ViewDetails :=
  match node.kind with
  | .file info => some (.file info)
  | .item info => (gathered doc id).map (.item info)
  | _ => some .plain

/-- The view of the subtree at a node; the node is looked up, and each node below it. -/
def viewOf (doc : Document) (id : Nat) : Option View :=
  match _found : doc.node? id with
  | none => none
  | some node => do
    let details ← viewDetails doc id node
    let children ← node.children.attach.mapM fun ⟨child, _mem⟩ => do
      let below ← doc.node? child
      if Document.keepsView node below then (viewOf doc child).map some else some none
    some (.mk node.title node.subtitle node.body node.origin details children.reduceOption)
termination_by doc.size - id
decreasing_by
  have := Document.child_lt _found _mem
  omega

/-- The lines of a node itself. -/
def nodeText (indent : String) (node : Node) : String :=
  indent ++ node.display ++ "\n"
    ++ String.join (node.body.map fun line => "  " ++ indent ++ line ++ "\n")

/-- The subtrees of some nodes as indented lines; each node is looked up. -/
def dump (doc : Document) : Nat → String → List Nat → Option String
  | 0, _, _ => some ""
  | depth + 1, indent, ids => do
    let subtrees ← ids.mapM fun id => do
      let node ← doc.node? id
      let below ← dump doc depth (indent ++ "  ") node.children
      some (nodeText indent node ++ below)
    some (String.join subtrees)

theorem nodesAt_eq {ids : List Nat} (inside : ∀ id ∈ ids, id < doc.size) :
    nodesAt doc ids = some (ids.filterMap fun id => (doc.node? id).map (id, ·)) := by
  apply mapM_eq_filterMap
  intro id mem
  obtain ⟨node, found⟩ := Document.exists_node? (inside id mem)
  exact ⟨(id, node), by rw [found]; rfl⟩

theorem childNodes_eq (lt : id < doc.size) : childNodes doc id = some (doc.childNodes id) := by
  obtain ⟨node, found⟩ := Document.exists_node? lt
  rw [childNodes, found, Document.childNodes, Document.children_of_node? found]
  exact nodesAt_eq fun child mem => (Document.child_lt found mem).2

theorem viewDetails_eq (lt : id < doc.size) (node : Node) :
    viewDetails doc id node = some (doc.viewDetails id node) := by
  have gathers : gathered doc id = some (doc.gathered id) := by
    simp only [gathered, childrenTitled, childNodes_eq lt, Option.bind_eq_bind, Option.bind_some]
    rfl
  unfold viewDetails Document.viewDetails
  cases node.kind with
  | item info =>
    simp only [gathers, Option.map_some]
  | _ => rfl

/-- The view of a child, if it keeps one of its own. -/
def ownView (doc : Document) (node : Node) (child : Nat) : Option View := do
  let below ← doc.node? child
  if Document.keepsView node below then some (doc.viewOf child below) else none

/-- The views of the children that keep one, told by their numbers. -/
theorem viewOf_eq_mk {node : Node} (found : doc.node? id = some node) :
    doc.viewOf id node
      = .mk node.title node.subtitle node.body node.origin (doc.viewDetails id node)
          (node.children.filterMap (ownView doc node)) := by
  rw [Document.viewOf_eq, Document.childNodes, Document.children_of_node? found,
    List.filter_filterMap, List.map_filterMap]
  congr 2
  funext child
  rw [ownView]
  cases doc.node? child with
  | none => rfl
  | some below => cases keeps : Document.keepsView node below <;> simp [keeps]

/-- A child that is there and can be viewed. -/
theorem ownView_eq {node below : Node} {child : Nat} (there : doc.node? child = some below)
    (viewed : viewOf doc child = some (doc.viewOf child below)) :
    ((doc.node? child).bind fun below =>
        if Document.keepsView node below then (viewOf doc child).map some else some none)
      = some (ownView doc node child) := by
  rw [ownView, there, viewed]
  simp only [Option.bind_eq_bind, Option.bind_some, Option.map_some]
  split <;> rfl

/-- **A walk down the tree never fails:** the children of a node are there. -/
theorem viewOf_eq {node : Node} (found : doc.node? id = some node) :
    viewOf doc id = some (doc.viewOf id node) := by
  induction left : doc.size - id using Nat.strongRecOn generalizing id node with
  | ind left ih =>
    have lt := Document.lt_of_node? found
    have each : ∀ child ∈ node.children.attach,
        ((doc.node? child.val).bind fun below =>
          if Document.keepsView node below then (viewOf doc child.val).map some else some none)
          = some (ownView doc node child.val) := by
      intro child _
      obtain ⟨after, inside⟩ := Document.child_lt found child.property
      obtain ⟨below, there⟩ := Document.exists_node? inside
      exact ownView_eq there (ih (doc.size - child.val) (by omega) there rfl)
    have children : (node.children.attach.map fun child => ownView doc node child.val)
        = node.children.map (ownView doc node) := by
      calc (node.children.attach.map fun child => ownView doc node child.val)
          = (node.children.attach.map Subtype.val).map (ownView doc node) := by
            rw [List.map_map]
            rfl
        _ = node.children.map (ownView doc node) := by rw [List.attach_map_subtype_val]
    rw [viewOf]
    split
    · rename_i missing
      rw [found] at missing
      cases missing
    · rename_i same
      rw [found] at same
      cases same
      simp only [Option.bind_eq_bind]
      rw [viewDetails_eq lt, mapM_eq_some each, children, viewOf_eq_mk found]
      simp only [Option.bind_some, List.reduceOption, List.filterMap_map]
      rfl

/-- **The tree as text:** the nodes of each level are there. -/
theorem dump_eq (depth : Nat) (indent : String) {ids : List Nat}
    (inside : ∀ id ∈ ids, id < doc.size) :
    dump doc depth indent ids = some (doc.dump depth indent ids) := by
  induction depth generalizing indent ids with
  | zero => rfl
  | succ depth ih =>
    have each : ∀ id ∈ ids, (do
        let node ← doc.node? id
        let below ← dump doc depth (indent ++ "  ") node.children
        some (nodeText indent node ++ below))
        = some ((doc.node? id).elim "" fun node =>
            nodeText indent node ++ doc.dump depth (indent ++ "  ") (doc.children id)) := by
      intro id mem
      obtain ⟨node, found⟩ := Document.exists_node? (inside id mem)
      have below : ∀ child ∈ node.children, child < doc.size :=
        fun child mem => (Document.child_lt found mem).2
      rw [Document.children_of_node? found, found]
      simp only [Option.bind_eq_bind, Option.bind_some, ih (indent ++ "  ") below, Option.elim_some]
    rw [dump, mapM_eq_some each, Document.dump]
    simp only [Option.bind_eq_bind, Option.bind_some]
    congr 2
    refine List.map_congr_left fun id _ => ?_
    cases doc.node? id <;> rfl

/-! ## Over the roots -/

/-- The views of all roots. -/
def views (doc : Document) : Option (List View) := doc.roots.mapM (viewOf doc)

/-- The roots whose subtitle is a given name; each root is looked up. -/
def rootsNamed (doc : Document) (name : String) : Option (List Nat) := do
  let roots ← nodesAt doc doc.roots
  some ((roots.filter (·.2.subtitle = name)).map (·.1))

/-- The roots with the prioritized ones first. -/
def prioritized (doc : Document) (priority : List String) : Option (List Nat) := do
  let named ← priority.mapM (rootsNamed doc)
  some (named.flatten ++ doc.roots).eraseDups

theorem views_eq (inside : ∀ id ∈ doc.roots, id < doc.size) : views doc = some doc.views := by
  have each : ∀ id ∈ doc.roots,
      viewOf doc id = doc.view? id ∧ ∃ view, viewOf doc id = some view := by
    intro id mem
    obtain ⟨node, found⟩ := Document.exists_node? (inside id mem)
    rw [viewOf_eq found, Document.view?, found]
    exact ⟨rfl, _, rfl⟩
  rw [views, mapM_eq_filterMap fun id mem => (each id mem).2, Document.views]
  congr 1
  exact List.filterMap_congr fun id mem => (each id mem).1

theorem rootsNamed_eq (inside : ∀ id ∈ doc.roots, id < doc.size) (name : String) :
    rootsNamed doc name = some (doc.rootsNamed name) := by
  rw [rootsNamed, nodesAt_eq inside, Document.rootsNamed, Option.bind_eq_bind, Option.bind_some,
    List.filter_filterMap, List.map_filterMap, ← List.filterMap_eq_filter]
  congr 2
  funext id
  rw [Option.guard]
  cases doc.node? id with
  | none => rfl
  | some node => by_cases same : node.subtitle = name <;> simp [same]

theorem prioritized_eq (inside : ∀ id ∈ doc.roots, id < doc.size) (priority : List String) :
    prioritized doc priority = some (doc.prioritized priority) := by
  rw [prioritized, mapM_eq_some fun name _ => rootsNamed_eq inside name]
  rfl

/-! ## Questions to a session -/

/-- The tables of a node, if it is a table. -/
def nodeTables (node : Node) : Option (Option (Except Cause (List Table))) :=
  match node.headerSets? with
  | none => some none
  | some sets => (tables sets 0 [] node.body).map some

/-- The item with a name and its number; the owner of the name is looked up. -/
def item (s : Session) (name : String) : Option (Option (Nat × Node)) :=
  match s.index.lookup? name with
  | none => some none
  | some id => (s.document.node? id).map fun node => some (id, node)

/-- The files with the prioritized ones first. -/
def filesPrioritized (s : Session) : Option (List Nat) :=
  prioritized s.document s.project.priority

/-- All files as indented text. -/
def tree (s : Session) : Option String := do
  let files ← filesPrioritized s
  dump s.document 6 "" files

theorem nodeTables_eq (node : Node) : nodeTables node = some node.tables? := by
  rw [nodeTables, Node.tables?]
  cases node.headerSets? with
  | none => rfl
  | some sets =>
    simp only [tables_ofBody]
    rfl

variable {s : Session}

theorem item_eq (consistent : s.Consistent) (name : String) :
    item s name = some (s.item? name) := by
  rw [item, Session.item?]
  cases taken : s.index.lookup? name with
  | none => rfl
  | some id =>
    have lt : id < s.document.size := (enter_safe consistent).owner_lt taken
    obtain ⟨node, found⟩ := Document.exists_node? lt
    simp only [Option.bind_eq_bind, Option.bind_some, found]
    rfl

theorem filesPrioritized_eq (inside : ∀ id ∈ s.document.roots, id < s.document.size) :
    filesPrioritized s = some s.filesPrioritized :=
  prioritized_eq inside s.project.priority

theorem mem_roots_of_mem_prioritized {priority : List String}
    (mem : id ∈ doc.prioritized priority) : id ∈ doc.roots := by
  rcases List.mem_append.mp (List.mem_eraseDups.mp mem) with named | root
  · obtain ⟨name, -, mem⟩ := List.mem_flatMap.mp named
    exact (List.mem_filter.mp mem).1
  · exact root

theorem tree_eq (inside : ∀ id ∈ s.document.roots, id < s.document.size) :
    tree s = some s.tree := by
  rw [tree, filesPrioritized_eq inside, Option.bind_eq_bind, Option.bind_some]
  exact dump_eq 6 "" fun id mem => inside id (mem_roots_of_mem_prioritized mem)

end Checked

/-! ## All of it -/

/-- The roots of a document that follows the grammar are there. -/
theorem Document.Nested.root_lt {doc : Document} (nested : doc.Nested) :
    ∀ id ∈ doc.roots, id < doc.size := by
  intro id mem
  rw [nested.roots] at mem
  exact List.mem_range.mp (List.mem_filter.mp mem).1

/-- **No cut and no lookup fails.**  A run with every cut of a text and every lookup checked ends in
    the session that the calls lead to; the next call does what it does without the checks, and each
    question to the session has the session's own answer.  Bodies and headers can be cut for any
    text, and tables be put out for any header sets, whatever a run hands to them. -/
theorem Session.no_lookup_fails (mode : Mode) (calls : List Call) :
    let s := (start mode).after calls
    Checked.run mode calls = some s
      ∧ (∀ c, Checked.call s c = some (s.call c))
      ∧ (∀ id node, s.document.node? id = some node →
          Checked.viewOf s.document id = some (s.document.viewOf id node)
            ∧ Checked.rootOf s.document id = some (s.document.rootOf id))
      ∧ Checked.views s.document = some s.document.views
      ∧ Checked.tree s = some s.tree
      ∧ Checked.filesPrioritized s = some s.filesPrioritized
      ∧ (∀ name, Checked.item s name = some (s.item? name))
      ∧ (∀ node, Checked.nodeTables node = some node.tables?)
      ∧ (∀ lines, Checked.bodyFrom Body.minIndent true lines = some (Body.ofLines lines))
      ∧ (∀ line, Checked.header line = some (Header.ofLine? line))
      ∧ ∀ sets body, Checked.tables sets 0 [] body = some (Table.ofBody sets body) := by
  intro s
  have reached : s.Reachable := ⟨mode, calls, rfl⟩
  have inside := reached.nested.root_lt
  refine ⟨Checked.run_eq mode calls, Checked.call_eq reached.consistent, ?_,
    Checked.views_eq inside, Checked.tree_eq inside, Checked.filesPrioritized_eq inside,
    Checked.item_eq reached.consistent, Checked.nodeTables_eq, Checked.bodyFrom_eq,
    Checked.header_eq, Checked.tables_ofBody⟩
  intro id node found
  have lt : id < s.document.size := Document.lt_of_node? found
  exact ⟨Checked.viewOf_eq found, Checked.rootOf_eq lt⟩

end DocComments
