/-
  The tree as text, in full.

  `Document.dump` prints the subtrees of some nodes level by level and stops after a number of
  levels.  Where no subtree has more levels than that (`Bounded`) the number is no matter, and the
  text is that of the nodes one by one in preorder, each with its own margin
  (`Linked.fullText_eq_join`).

  In the tree of a session a few levels are always enough: the grammar puts a kind only under kinds
  that are higher (`KindTag.height`), so no subtree has more levels than the height of its top
  (`Nested.bounded_of_fits`).

    * `dump_of_bounded`        the text is whole when there are levels enough;
    * `tree_lists_every_node`  the text of a session is that of all nodes, each taken once.
-/
import DocComments.Proofs.CheckedQueries
import DocComments.Proofs.Preorder

namespace DocComments

/-- How many levels a subtree can have, by the kind of its top. -/
def KindTag.height : KindTag → Nat
  | .file => 5
  | .sect => 4
  | .subsect => 3
  | .item => 2
  | .text | .label | .list | .table | .sample | .figure | .generic | .topics | .seeAlso => 1

theorem KindTag.height_pos (tag : KindTag) : 0 < tag.height := by
  cases tag <;> decide

theorem KindTag.height_le (tag : KindTag) : tag.height ≤ 5 := by
  cases tag <;> decide

/-- Nodes stand under higher ones. -/
theorem KindTag.height_lt_of_takes {outer inner : KindTag} (takes : outer.takes inner) :
    inner.height < outer.height := by
  cases outer <;> cases inner <;> first | decide | cases takes

/-! ## Text -/

theorem join_flatMap {α : Type} (pieces : α → List String) (parts : List α) :
    String.join (parts.flatMap pieces) = String.join (parts.map fun a => String.join (pieces a)) := by
  induction parts with
  | nil => rfl
  | cons a rest ih => rw [List.flatMap_cons, String.join_append, ih, List.map_cons, String.join_cons]

/-- Two spaces for each level. -/
def margin (level : Nat) : String := String.join (List.replicate level "  ")

theorem margin_succ (level : Nat) : margin (level + 1) = "  " ++ margin level := by
  rw [margin, List.replicate_succ, String.join_cons, margin]

theorem margin_succ' (level : Nat) : margin (level + 1) = margin level ++ "  " := by
  rw [margin, List.replicate_succ', String.join_append, margin]
  rfl

/-- The node in one line at the margin of its level, then its body lines one level further in. -/
def Node.text (node : Node) (level : Nat) : String :=
  margin level ++ node.display ++ "\n"
    ++ String.join (node.body.map fun line => margin (level + 1) ++ line ++ "\n")

theorem Node.text_eq (node : Node) (level : Nat) :
    node.text level = Checked.nodeText (margin level) node := by
  rw [Node.text, Checked.nodeText, margin_succ]

namespace Document

/-- How many nodes the way up from a node comes by after it. -/
def level (doc : Document) (id : Nat) : Nat :=
  match _h : doc.parent? id with
  | none => 0
  | some parent => level doc parent + 1
termination_by id
decreasing_by exact parent?_lt _h

/-- The lines of a node. -/
def text (doc : Document) (id : Nat) : String :=
  ((doc.node? id).map fun node => node.text (doc.level id)).getD ""

variable {doc : Document} {id parent : Nat}

/-- A root has no margin. -/
theorem level_eq_zero (top : doc.parent? id = none) : doc.level id = 0 := by
  rw [level]
  split
  · rfl
  · rename_i up
    rw [top] at up
    cases up

/-- A child stands one level further in. -/
theorem level_eq_succ (up : doc.parent? id = some parent) :
    doc.level id = doc.level parent + 1 := by
  conv => lhs; rw [level]
  split
  · rename_i top
    rw [up] at top
    cases top
  · rename_i named
    rw [up] at named
    cases named
    rfl

/-! ## Subtrees level by level -/

/-- The subtree at a node has no more than a number of levels. -/
inductive Bounded (doc : Document) : Nat → Nat → Prop
  | mk {depth id : Nat} (below : ∀ child ∈ doc.children id, Bounded doc depth child) :
    Bounded doc (depth + 1) id

/-- The whole subtree at a node as indented lines. -/
def fullText (doc : Document) (indent : String) (id : Nat) : String :=
  match doc.node? id with
  | none => ""
  | some node =>
    Checked.nodeText indent node
      ++ String.join ((doc.children id).attach.map fun ⟨child, _mem⟩ =>
          fullText doc (indent ++ "  ") child)
termination_by doc.size - id
decreasing_by
  have := lt_of_mem_children _mem
  omega

/-- The text of a node is its own, and then that of its children. -/
theorem fullText_eq (doc : Document) (indent : String) (id : Nat) :
    doc.fullText indent id = (doc.node? id).elim "" fun node =>
      Checked.nodeText indent node
        ++ String.join ((doc.children id).map (doc.fullText (indent ++ "  "))) := by
  have each : ∀ ids : List Nat,
      (ids.attach.map fun child => doc.fullText (indent ++ "  ") child.val)
        = ids.map (doc.fullText (indent ++ "  ")) := by
    intro ids
    conv => rhs; rw [← List.attach_map_subtype_val ids, List.map_map]
    rfl
  rw [fullText, ← each]
  cases doc.node? id <;> rfl

/-- **With levels enough** the text of some subtrees is whole. -/
theorem dump_of_bounded {depth : Nat} {ids : List Nat}
    (bounded : ∀ id ∈ ids, doc.Bounded depth id) (indent : String) :
    doc.dump depth indent ids = String.join (ids.map (doc.fullText indent)) := by
  induction depth generalizing ids indent with
  | zero =>
    -- no subtree has no levels
    cases ids with
    | nil => rfl
    | cons id _ => cases bounded id List.mem_cons_self
  | succ depth ih =>
    rw [dump]
    congr 1
    refine List.map_congr_left fun id mem => ?_
    cases bounded id mem with
    | mk below =>
      rw [ih below, fullText_eq]
      cases doc.node? id <;> rfl

/-- The numbers go up on the way down, so the nodes behind a node bound its levels. -/
theorem bounded_of_size_le {depth : Nat} (inside : id < doc.size)
    (enough : doc.size ≤ id + depth) : doc.Bounded depth id := by
  induction depth generalizing id with
  | zero => omega
  | succ depth ih =>
    refine .mk fun child mem => ?_
    obtain ⟨after, there⟩ := lt_of_mem_children mem
    exact ih there (by omega)

/-- **The text of a subtree** is that of its nodes in preorder. -/
theorem Linked.fullText_eq_join (linked : doc.Linked) (id : Nat) :
    doc.fullText (margin (doc.level id)) id
      = String.join ((doc.preorder id).map doc.text) := by
  induction left : doc.size - id using Nat.strongRecOn generalizing id with
  | ind left ih =>
    have inner : (doc.children id).map (doc.fullText (margin (doc.level id) ++ "  "))
        = (doc.children id).map fun child => String.join ((doc.preorder child).map doc.text) := by
      refine List.map_congr_left fun child mem => ?_
      have after := lt_of_mem_children mem
      rw [← margin_succ', ← level_eq_succ (linked.mem_children.mp mem)]
      exact ih (doc.size - child) (by omega) child rfl
    rw [fullText_eq, preorder_eq, List.map_cons, String.join_cons, List.map_flatMap, join_flatMap,
      inner, text]
    cases found : doc.node? id with
    | none =>
      have nothing : doc.children id = [] := by rw [Document.children, found]; rfl
      rw [nothing]
      rfl
    | some node => rw [Option.map_some, Option.getD_some, Node.text_eq]; rfl

/-- The node has a kind that fits into a number of levels. -/
def Fits (doc : Document) (depth id : Nat) : Prop :=
  ∃ tag, doc.tag? id = some tag ∧ tag.height ≤ depth

namespace Nested

variable (nested : doc.Nested)
include nested

/-- A child fits into one level less. -/
theorem fits_child {depth child : Nat} (fits : doc.Fits (depth + 1) id)
    (mem : child ∈ doc.children id) : doc.Fits depth child := by
  obtain ⟨tag, isTag, low⟩ := fits
  obtain ⟨outer, inner, isOuter, isInner, takes⟩ :=
    nested.takes child id (nested.linked.mem_children.mp mem)
  obtain rfl : outer = tag := Option.some.inj (isOuter.symm.trans isTag)
  have := KindTag.height_lt_of_takes takes
  exact ⟨inner, isInner, by omega⟩

/-- A subtree has no more levels than its top fits into. -/
theorem bounded_of_fits {depth : Nat} (fits : doc.Fits depth id) : doc.Bounded depth id := by
  induction depth generalizing id with
  | zero =>
    -- nothing fits into no level
    obtain ⟨tag, -, low⟩ := fits
    have := tag.height_pos
    omega
  | succ depth ih => exact .mk fun child mem => ih (nested.fits_child fits mem)

/-- **Level by level or node by node:** with levels enough the text of some subtrees side by side
    is that of their nodes in preorder. -/
theorem dump_eq {depth level : Nat} {ids : List Nat} (fits : ∀ id ∈ ids, doc.Fits depth id)
    (beside : ∀ id ∈ ids, doc.level id = level) :
    doc.dump depth (margin level) ids
      = String.join ((ids.flatMap doc.preorder).map doc.text) := by
  rw [dump_of_bounded fun id mem => nested.bounded_of_fits (fits id mem), List.map_flatMap,
    join_flatMap]
  congr 1
  refine List.map_congr_left fun id mem => ?_
  rw [← beside id mem, nested.linked.fullText_eq_join]

/-- The files in the order in which they are listed are the roots. -/
theorem prioritized_perm (priority : List String) :
    (doc.prioritized priority).Perm doc.roots := by
  have nodup : (doc.prioritized priority).Nodup := Walk.nodup_eraseDups _
  refine (List.perm_ext_iff_of_nodup nodup nested.linked.nodup_roots).mpr fun id => ?_
  refine ⟨Checked.mem_roots_of_mem_prioritized, fun mem => ?_⟩
  exact List.mem_eraseDups.mpr (List.mem_append_right _ mem)

theorem dump_roots {files : List Nat} (perm : files.Perm doc.roots) {depth : Nat}
    (enough : 5 ≤ depth) :
    doc.dump depth "" files = String.join ((files.flatMap doc.preorder).map doc.text) := by
  have fits : ∀ id ∈ files, doc.Fits depth id := by
    intro id mem
    obtain ⟨inside, -⟩ := nested.linked.mem_roots.mp (perm.mem_iff.mp mem)
    obtain ⟨node, found⟩ := exists_node? inside
    have low := node.tag.height_le
    exact ⟨node.tag, by rw [tag?, found]; rfl, by omega⟩
  have tops : ∀ id ∈ files, doc.level id = 0 := by
    intro id mem
    exact level_eq_zero (nested.linked.mem_roots.mp (perm.mem_iff.mp mem)).2
  exact nested.dump_eq fits tops

end Nested

end Document

namespace Session

/-- **The text of a session shows every node.**  In every session that can be reached the files are
    listed once each; the nodes met in preorder from the listed files are all nodes of the document,
    each met once; and the text is that of these nodes one after the other, each indented by two
    spaces for each node above it, with its body lines two spaces further in.  Six levels are enough
    for it, and more show nothing else. -/
theorem tree_lists_every_node {s : Session} (reached : s.Reachable) :
    let doc := s.document
    let order := s.filesPrioritized.flatMap doc.preorder
    s.filesPrioritized.Perm doc.roots
      ∧ order.Perm (List.range doc.size)
      ∧ s.tree = String.join (order.map doc.text)
      ∧ ∀ depth, 6 ≤ depth → doc.dump depth "" s.filesPrioritized = s.tree := by
  intro doc order
  have nested := reached.nested
  have perm : s.filesPrioritized.Perm doc.roots := nested.prioritized_perm s.project.priority
  have all : s.tree = String.join (order.map doc.text) := nested.dump_roots perm (by decide)
  refine ⟨perm, nested.preorder_perm perm, all, fun depth enough => ?_⟩
  rw [all]
  exact nested.dump_roots perm (by omega)

/-- Two files, the second listed first; the other one has a subtree of all five levels. -/
theorem tree_lists_every_node_prioritized :
    let s := (start {}).after
      [.loadConfig "PrioritizeFiles:\n  b",
       .readLines ["// File: a", "// Section: S", "// Subsection: T", "// Function: f()",
         "// Description:", "//   says", "//     what"] "a",
       .readLines ["// Function: g()"] "b"]
    let order := s.filesPrioritized.flatMap s.document.preorder
    s.Reachable ∧ s.filesPrioritized = [5, 0] ∧ s.filesPrioritized.Perm s.document.roots
      ∧ order.Perm (List.range 8)
      ∧ s.tree = String.join (order.map s.document.text)
      ∧ s.tree = String.join
          ["LibFile: b\n", "  Section:\n", "    Function: g()\n",
           "File: a\n", "  Section: S\n", "    Subsection: T\n", "      Function: f()\n",
           "        Description:\n          says\n            what\n"] := by
  intro s order
  have reached : s.Reachable := ⟨{}, _, rfl⟩
  have size : s.document.size = 8 := by decide +kernel
  obtain ⟨files, all, text, -⟩ := tree_lists_every_node reached
  rw [size] at all
  exact ⟨reached, by decide +kernel, files, all, text, by decide +kernel⟩

end Session

end DocComments
