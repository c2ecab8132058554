/-
  What the data views show of a document, and what they leave out.

  Every node has a view of its own below the views of the files, but for the children that the view
  of an item folds away by their titles (`Document.folded`).  Such a child is a leaf, so nothing
  goes with it but its own lines; and they go into the field of its title, if there is one
  (`Gathered.lines`).  Five of the folded titles have no field.  They are those of blocks that feed
  the item's information and are born without a body; but a definition can give their titles to
  blocks that have one.

    * `Nested.views_all`  the views in all are those of the nodes that are not folded away;
    * `exports_iff`  the nodes whose lines the views hold.
-/
import DocComments.Proofs.CheckedQueries
import DocComments.Proofs.Preorder

namespace DocComments

namespace View

/-- The body of the node. -/
def body : View → List String
  | .mk _ _ body _ _ _ => body

/-- What the view has by the kind of its node. -/
def details : View → ViewDetails
  | .mk _ _ _ _ details _ => details

mutual

/-- A view and the views inside it, in preorder. -/
def all : View → List View
  | view@(.mk _ _ _ _ _ children) => view :: allOf children

/-- Some views and the views inside them. -/
def allOf : List View → List View
  | [] => []
  | view :: views => all view ++ allOf views

end

theorem allOf_eq (views : List View) : allOf views = views.flatMap all := by
  induction views with
  | nil => rfl
  | cons view rest ih => rw [allOf, ih, List.flatMap_cons]

end View

/-- The lines that an item view gathers from the children with a title, in order. -/
def Gathered.lines (gathered : Gathered) : String → List String
  | "Usage" => gathered.usages.flatMap (·.2)
  | "Description" => gathered.description
  | "Arguments" => gathered.arguments
  | "Example" => gathered.examples.flatten
  | _ => []

namespace Document

/-- The titles of children that an item view folds away without a field for their lines. -/
def droppedTitles : List String := ["Status", "Alias", "Aliases", "Topics", "See Also"]

/-- The titles of children whose lines an item view gathers. -/
def gatheredTitles : List String := ["Usage", "Description", "Arguments", "Example"]

theorem foldedTitles_eq : foldedTitles = droppedTitles ++ gatheredTitles := rfl

/-- The view of an item stands above the node and folds it away. -/
def folded (doc : Document) (id : Nat) : Bool :=
  match doc.parent? id, doc.node? id with
  | some parent, some node => doc.tag? parent = some .item && foldedTitles.contains node.title
  | _, _ => false

/-- The numbers of the nodes with a view of their own, in preorder. -/
def shown (doc : Document) : List Nat :=
  (doc.roots.flatMap doc.preorder).filter fun id => !doc.folded id

/-- The lines of the node stand in the view of the node, or in the view of its item under its
    title. -/
def Exports (doc : Document) (id : Nat) (node : Node) : Prop :=
  (id ∈ doc.shown ∧ ∃ view, doc.view? id = some view ∧ view.body = node.body)
    ∨ ∃ item view info gathered, doc.parent? id = some item ∧ item ∈ doc.shown
        ∧ doc.view? item = some view ∧ view.details = .item info gathered
        ∧ node.body <:+: gathered.lines node.title

variable {doc : Document} {id parent : Nat} {node above : Node}

/-! ## What a field gathers -/

/-- The lines of the children with a title, where that title has a field. -/
theorem lines_gathered {title : String} (field : title ∈ gatheredTitles) :
    (doc.gathered id).lines title = (doc.childrenTitled id title).flatMap (·.body) := by
  simp only [gatheredTitles, List.mem_cons, List.not_mem_nil, or_false] at field
  rcases field with rfl | rfl | rfl | rfl
  · simp [Gathered.lines, gathered, List.flatMap_map]
  · rfl
  · rfl
  · simp [Gathered.lines, gathered, List.flatMap_def]

theorem lines_dropped (gathered : Gathered) {title : String} (dropped : title ∈ droppedTitles) :
    gathered.lines title = [] := by
  simp only [droppedTitles, List.mem_cons, List.not_mem_nil, or_false] at dropped
  rcases dropped with rfl | rfl | rfl | rfl | rfl <;> rfl

/-- A child's lines stand in the field of its title, one after the other. -/
theorem body_infix_lines (found : doc.node? id = some node) (mem : id ∈ doc.children parent)
    (field : node.title ∈ gatheredTitles) :
    node.body <:+: (doc.gathered parent).lines node.title := by
  have titled : node ∈ doc.childrenTitled parent node.title := by
    have isChild : (id, node) ∈ doc.childNodes parent := mem_childNodes.mpr ⟨mem, found⟩
    exact List.mem_filter.mpr ⟨List.mem_map.mpr ⟨_, isChild, rfl⟩, decide_eq_true rfl⟩
  rw [lines_gathered field, List.flatMap_def]
  exact List.infix_of_mem_flatten (List.mem_map_of_mem titled)

/-! ## What is folded away -/

theorem isSome_itemInfo? (node : Node) : node.itemInfo?.isSome ↔ node.tag = .item := by
  unfold Node.itemInfo? Node.tag
  cases kind : node.kind with
  | item info => simp [NodeKind.tag]
  | leaf leaf => cases leaf <;> simp [NodeKind.tag, LeafKind.tag]
  | _ => simp [NodeKind.tag]

theorem folded_iff (found : doc.node? id = some node) :
    doc.folded id ↔ (∃ item, doc.parent? id = some item ∧ doc.tag? item = some .item)
      ∧ node.title ∈ foldedTitles := by
  rw [folded, found]
  cases doc.parent? id with
  | none => simp
  | some parent => simp

/-- A child has no view of its own exactly when it is folded away. -/
theorem keepsView_eq (there : doc.node? parent = some above) (found : doc.node? id = some node)
    (up : doc.parent? id = some parent) : keepsView above node = !doc.folded id := by
  have item : doc.tag? parent = some .item ↔ above.itemInfo?.isSome := by
    rw [isSome_itemInfo?, tag?, there, Option.map_some, Option.some.injEq]
  rw [folded, up, found, keepsView]
  cases info : above.itemInfo? with
  | none =>
    have other : doc.tag? parent ≠ some .item := by simp [item, info]
    simp [other]
  | some _ =>
    have isItem : doc.tag? parent = some .item := by simp [item, info]
    simp [isItem]

namespace Nested

variable (nested : doc.Nested)
include nested

theorem children_of_folded (away : doc.folded id) : doc.children id = [] := by
  cases found : doc.node? id with
  | none => rw [Document.children, found]; rfl
  | some node =>
    obtain ⟨⟨item, up, isItem⟩, -⟩ := (folded_iff found).mp away
    obtain ⟨outer, inner, isOuter, isInner, takes⟩ := nested.takes id item up
    obtain rfl : outer = .item := Option.some.inj (isOuter.symm.trans isItem)
    rw [List.eq_nil_iff_forall_not_mem]
    intro child mem
    -- an item takes leaves only, and a leaf takes nothing
    obtain ⟨outer', inner', isOuter', -, takes'⟩ :=
      nested.takes child id (nested.linked.mem_children.mp mem)
    obtain rfl : outer' = inner := Option.some.inj (isOuter'.symm.trans isInner)
    rw [KindTag.not_takes_of_isLeaf takes] at takes'
    cases takes'

/-- An item is never folded away. -/
theorem not_folded_item (isItem : doc.tag? id = some .item) : doc.folded id = false := by
  rw [Bool.eq_false_iff]
  intro away
  obtain ⟨node, found, -⟩ := Option.map_eq_some_iff.mp isItem
  obtain ⟨⟨parent, up, held⟩, -⟩ := (folded_iff found).mp away
  obtain ⟨outer, inner, isOuter, isInner, takes⟩ := nested.takes id parent up
  obtain rfl : outer = .item := Option.some.inj (isOuter.symm.trans held)
  obtain rfl : inner = .item := Option.some.inj (isInner.symm.trans isItem)
  cases takes

theorem mem_shown : id ∈ doc.shown ↔ id < doc.size ∧ doc.folded id = false := by
  rw [shown, List.mem_filter, (nested.preorder_perm (List.Perm.refl _)).mem_iff, List.mem_range,
    Bool.not_eq_true']

theorem nodup_shown : doc.shown.Nodup :=
  ((nested.preorder_perm (List.Perm.refl _)).nodup_iff.mpr List.nodup_range).filter _

/-! ## The views in all -/

/-- **The views of a subtree** are those of its nodes that are not folded away. -/
theorem all_viewOf (found : doc.node? id = some node) (kept : doc.folded id = false) :
    (doc.viewOf id node).all
      = ((doc.preorder id).filter fun id => !doc.folded id).filterMap doc.view? := by
  induction left : doc.size - id using Nat.strongRecOn generalizing id node with
  | ind left ih =>
    have own : doc.view? id = some (doc.viewOf id node) := by rw [view?, found]; rfl
    have each : ∀ child ∈ doc.children id,
        ((Checked.ownView doc node child).toList.flatMap View.all)
          = ((doc.preorder child).filter fun id => !doc.folded id).filterMap doc.view? := by
      intro child mem
      obtain ⟨after, inside⟩ := lt_of_mem_children mem
      obtain ⟨below, there⟩ := exists_node? inside
      have keeps := keepsView_eq found there (nested.linked.mem_children.mp mem)
      rw [Checked.ownView, there]
      cases away : doc.folded child with
      | false => simp [keeps, away, ih (doc.size - child) (by omega) there away rfl]
      | true => simp [keeps, away, preorder_eq, nested.children_of_folded away]
    have inner : ((doc.children id).filterMap (Checked.ownView doc node)).flatMap View.all
        = (((doc.children id).flatMap doc.preorder).filter fun id => !doc.folded id).filterMap
            doc.view? := by
      rw [List.filterMap_eq_flatMap_toList, List.flatMap_assoc, List.filter_flatMap,
        List.filterMap_flatMap]
      exact List.flatMap_congr each
    rw [preorder_eq, List.filter_cons_of_pos (by simp [kept]), List.filterMap_cons_some own, ← inner,
      ← View.allOf_eq, Checked.viewOf_eq_mk found, View.all, children_of_node? found]

/-- The views of the files are, in all, those of the nodes that are not folded away. -/
theorem views_all : doc.views.flatMap View.all = doc.shown.filterMap doc.view? := by
  have each : ∀ root ∈ doc.roots, (doc.view? root).toList.flatMap View.all
      = ((doc.preorder root).filter fun id => !doc.folded id).filterMap doc.view? := by
    intro root mem
    obtain ⟨inside, top⟩ := nested.linked.mem_roots.mp mem
    obtain ⟨node, found⟩ := exists_node? inside
    have kept : doc.folded root = false := by rw [folded, top]
    rw [view?, found, ← nested.all_viewOf found kept]
    simp
  rw [views, shown, List.filterMap_eq_flatMap_toList, List.flatMap_assoc, List.filter_flatMap,
    List.filterMap_flatMap]
  exact List.flatMap_congr each

/-! ## Which lines are there -/

/-- **The lines that are lost** are those of an item's children with a dropped title. -/
theorem exports_iff (found : doc.node? id = some node) :
    doc.Exports id node ↔
      ¬ (node.body ≠ [] ∧ node.title ∈ droppedTitles
          ∧ ∃ item, doc.parent? id = some item ∧ doc.tag? item = some .item) := by
  have inside := lt_of_node? found
  constructor
  · rintro shows ⟨text, dropped, isChild⟩
    rcases shows with ⟨own, -⟩ | ⟨item, view, info, gathered, -, -, -, -, within⟩
    · have away : doc.folded id :=
        (folded_iff found).mpr ⟨isChild, foldedTitles_eq ▸ List.mem_append_left _ dropped⟩
      rw [(nested.mem_shown.mp own).2] at away
      cases away
    · rw [lines_dropped gathered dropped, List.infix_nil] at within
      exact text within
  · intro safe
    cases away : doc.folded id with
    | false =>
      refine .inl ⟨nested.mem_shown.mpr ⟨inside, away⟩, doc.viewOf id node, ?_, ?_⟩
      · rw [view?, found]
        rfl
      · rw [Checked.viewOf_eq_mk found, View.body]
    | true =>
      obtain ⟨⟨item, up, isItem⟩, title⟩ := (folded_iff found).mp away
      obtain ⟨owner, there, kind⟩ := Option.map_eq_some_iff.mp isItem
      obtain ⟨info, isInfo⟩ := Option.isSome_iff_exists.mp ((isSome_itemInfo? owner).mpr kind)
      have shows : item ∈ doc.shown :=
        nested.mem_shown.mpr ⟨lt_of_node? there, nested.not_folded_item isItem⟩
      have details : (doc.viewOf item owner).details = .item info (doc.gathered item) := by
        rw [Checked.viewOf_eq_mk there, View.details, viewDetails]
        unfold Node.itemInfo? at isInfo
        split at isInfo
        · rename_i same
          cases isInfo
          rw [same]
        · cases isInfo
      refine .inr ⟨item, doc.viewOf item owner, info, doc.gathered item, up, shows, ?_, details, ?_⟩
      · rw [view?, there]
        rfl
      · rcases List.mem_append.mp (foldedTitles_eq ▸ title) with dropped | field
        · -- such a child is safe only without lines
          have empty : node.body = [] := by
            by_contra text
            exact safe ⟨text, dropped, item, up, isItem⟩
          rw [empty]
          exact List.nil_infix
        · exact body_infix_lines found (nested.linked.mem_children.mpr up) field

end Nested

end Document

/-! ## Sessions -/

namespace Session

/-- **Which lines the data views hold.**  In every session that can be reached the views of all
    files are, with the views inside them, those of the shown nodes, one for each.  The body lines
    of a node stand in its own view, or in the right field of the view of its item, all of them and
    in their order, exactly if the node has no lines, is no child of an item, or has another title
    than the five that are folded away without a field. -/
theorem views_hold_lines_iff {s : Session} (reached : s.Reachable) :
    let doc := s.document
    doc.views.flatMap View.all = doc.shown.filterMap doc.view?
      ∧ doc.shown.Nodup
      ∧ ∀ id node, doc.node? id = some node →
          (doc.Exports id node ↔
            ¬ (node.body ≠ []
                ∧ node.title ∈ ["Status", "Alias", "Aliases", "Topics", "See Also"]
                ∧ ∃ item, doc.parent? id = some item ∧ doc.tag? item = some .item)) := by
  intro doc
  have nested := reached.nested
  exact ⟨nested.views_all, nested.nodup_shown, fun id node found => nested.exports_iff found⟩

/-- A description is gathered; a `Status` block that a definition has given a body is not. -/
theorem views_hold_lines_iff_redefined :
    let s := (start {}).after
      [.readLines ["// DefineHeader(Text): Status", "// Function: f()", "// Description:",
         "//   says what", "// Status:", "//   gone soon"] "a"]
    ∃ description status, s.Reachable ∧ s.document.node? 3 = some description
      ∧ description.body = ["says what"] ∧ s.document.Exports 3 description
      ∧ s.document.node? 4 = some status ∧ status.body = ["gone soon"]
      ∧ ¬ s.document.Exports 4 status := by
  intro s
  have reached : s.Reachable := ⟨{}, _, rfl⟩
  obtain ⟨-, -, holds⟩ := views_hold_lines_iff reached
  let description : Node := ⟨.leaf .text, "Description", "", ["says what"], ⟨"a", 3⟩, {}, some 2, []⟩
  let status : Node := ⟨.leaf .text, "Status", "", ["gone soon"], ⟨"a", 5⟩, {}, some 2, []⟩
  have first : s.document.node? 3 = some description := by decide +kernel
  have second : s.document.node? 4 = some status := by decide +kernel
  have item : s.document.parent? 4 = some 2 ∧ s.document.tag? 2 = some .item := by decide +kernel
  have kept : s.document.Exports 3 description := by
    refine (holds 3 description first).mpr ?_
    rintro ⟨-, dropped, -⟩
    exact absurd dropped (by decide)
  have lost : ¬ s.document.Exports 4 status := by
    intro shows
    exact (holds 4 status second).mp shows ⟨by decide, by decide, 2, item⟩
  exact ⟨description, status, reached, first, rfl, kept, second, rfl, lost⟩

/-- A text block under a redefined title whose line is in no view. -/
theorem redefined_status_is_lost :
    let s := (start {}).after
      [.readLines ["// DefineHeader(Text): Status", "// Function: f()", "// Status:",
         "//   gone soon"] "a"]
    s.Reachable ∧ ∃ node, s.document.node? 3 = some node ∧ node.tag = .text
      ∧ node.body = ["gone soon"] ∧ ¬ s.document.Exports 3 node := by
  intro s
  have reached : s.Reachable := ⟨{}, _, rfl⟩
  let node : Node := ⟨.leaf .text, "Status", "", ["gone soon"], ⟨"a", 3⟩, {}, some 2, []⟩
  have found : s.document.node? 3 = some node := by decide +kernel
  have item : s.document.parent? 3 = some 2 ∧ s.document.tag? 2 = some .item := by decide +kernel
  refine ⟨reached, node, found, rfl, rfl, fun shows => ?_⟩
  exact (reached.nested.exports_iff found).mp shows ⟨by decide, by decide, 2, item⟩

end Session

end DocComments
