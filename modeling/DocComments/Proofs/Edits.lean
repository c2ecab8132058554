/-
  What a block does to the document, as a sequence of edits.

  A handler adds nodes and changes the information of files and items, and nothing else.  An EDIT is
  one such change, told by what later proofs ask about it.  A new leaf is of a kind that some rule
  can make (`LeafKind.Made`).  A node titled `Status` comes together with a change of its item, which
  is marked as deprecated or not by the subtitle of the node, unless a definition has taken the
  title (`RuleTable.KeepsStatus`).  The predicate `marks` says which items may be marked, and how.

  Moves would not do: they tell what can happen to a walk, and not for which of the blocks.  Here
  `marks` says it, block by block.  There is one lemma for each handler, in the order of the calls
  (`ensureFile_edits` up to `dispatch_edits`); after that no handler is looked into again.

    * `dispatch_edits`     a block marks the item that it stands under, if any, and no new item;
    * `walkUnit_document`  what every header preserves of the document holds along a unit;
    * `Reachable.made`     every leaf of every session is of a kind that some rule can make.
-/
import DocComments.Proofs.Attaching
import DocComments.Proofs.ClosedItems
import DocComments.Proofs.Configuration
import DocComments.Proofs.LeafKinds
import DocComments.Proofs.Naming

namespace DocComments

/-! ## The rule that marks items -/

/-- The built-in rule of `Status`: a label under an item, which marks the item. -/
def statusRule : Rule := { kind := .label, parent := some .item, hook := some .status }

/-- No definition stands in the place of the rule that marks items. -/
def RuleTable.KeepsStatus (table : RuleTable) : Prop := table.lookup? "Status" = some statusRule

/-- A rule that marks items is the built-in one. -/
theorem RuleTable.HooksBuiltIn.status {table : RuleTable} (built : table.HooksBuiltIn)
    {title : String} {rule : Rule} (found : table.lookup? title = some rule)
    (hook : rule.hook = some .status) : title = "Status" ∧ rule = statusRule := by
  have mem := RuleTable.mem_of_lookup? (built title rule found (by simp [hook]))
  simp only [Registry.builtinRules, List.mem_cons, Prod.mk.injEq, List.not_mem_nil, or_false] at mem
  rcases mem with ⟨title, rfl⟩ | ⟨-, rfl⟩ | ⟨-, rfl⟩ | ⟨-, rfl⟩
  · exact ⟨title, rfl⟩
  all_goals cases hook

/-! ## Edits -/

/-- A node that comes alone: no item is marked with it. -/
structure Node.Plain (table : RuleTable) (node : Node) : Prop where
  made : ∀ kind, node.kind = .leaf kind → kind.Made
  titled : table.KeepsStatus → node.title ≠ "Status"
  unmarked : ∀ info, node.kind = .item info → info.deprecated = false

namespace Document

/-- One change of a document, under the rules of a table. -/
inductive Edit (table : RuleTable) (marks : Nat → Bool → Prop) (doc : Document) : Document → Prop
  | root (node : Node) (kind : node.kind = .file {}) : Edit table marks doc (doc.addRoot node)
  | child (parent : Nat) (node : Node) (plain : node.Plain table) :
    Edit table marks doc (doc.addChild parent node)
  | describe (file : Nat) (f : FileInfo → FileInfo) : Edit table marks doc (doc.mapFile file f)
  /-- An item takes up words or names. -/
  | enlarge (item : Nat) (f : ItemInfo → ItemInfo)
      (kept : ∀ info, (f info).deprecated = info.deprecated) :
    Edit table marks doc (doc.mapItem item f)
  /-- A block that tells the status of an item. -/
  | status (item : Nat) (block : Block) (titled : block.title = "Status") (inside : item < doc.size)
      (allowed : marks item (Text.contains block.subtitle "DEPRECATED")) :
    Edit table marks doc ((doc.addChild item (block.node (.leaf .label))).mapItem item
      (Walk.setDeprecated (Text.contains block.subtitle "DEPRECATED")))

/-- Any number of edits. -/
abbrev Edits (table : RuleTable) (marks : Nat → Bool → Prop) : Document → Document → Prop :=
  Relation.ReflTransGen (Edit table marks)

variable {table : RuleTable} {marks others : Nat → Bool → Prop} {doc after : Document}

/-- More may be marked than is. -/
theorem Edits.mono (edits : Edits table marks doc after)
    (allowed : ∀ item deprecated, marks item deprecated → others item deprecated) :
    Edits table others doc after := by
  induction edits with
  | refl => exact .refl
  | tail _ edit ih =>
    refine ih.tail ?_
    cases edit with
    | root node kind => exact .root node kind
    | child parent node plain => exact .child parent node plain
    | describe file f => exact .describe file f
    | enlarge item f kept => exact .enlarge item f kept
    | status item block titled inside marked =>
      exact .status item block titled inside (allowed item _ marked)

/-- All leaves are of kinds that rules can make. -/
def LeavesMade (doc : Document) : Prop :=
  ∀ id node kind, doc.node? id = some node → node.kind = .leaf kind → kind.Made

/-- A new leaf of such a kind, or a node that is no leaf. -/
theorem LeavesMade.addChild (made : doc.LeavesMade) (parent : Nat) {node : Node}
    (new : ∀ kind, node.kind = .leaf kind → kind.Made) : (doc.addChild parent node).LeavesMade := by
  by_cases inside : parent < doc.size
  · intro id found kind at_ leaf
    rw [node?_addChild doc inside] at at_
    split at at_
    · cases at_
      exact new kind leaf
    · obtain ⟨old, there, rfl⟩ := Option.map_eq_some_iff.mp at_
      refine made id old kind there ?_
      split at leaf
      · exact leaf
      · exact leaf
  · rwa [Document.addChild, dif_neg inside]

/-- Changing what only files or items carry makes no leaf. -/
theorem LeavesMade.mapKind (made : doc.LeavesMade) (changed : Nat) {f : NodeKind → NodeKind}
    (kept : ∀ kind leaf, f kind = .leaf leaf → kind = .leaf leaf) :
    (doc.mapKind changed f).LeavesMade := by
  intro id found kind at_ leaf
  rw [node?_mapKind] at at_
  obtain ⟨old, there, rfl⟩ := Option.map_eq_some_iff.mp at_
  refine made id old kind there ?_
  split at leaf
  · exact kept _ _ leaf
  · exact leaf

theorem LeavesMade.mapItem (made : doc.LeavesMade) (item : Nat) (f : ItemInfo → ItemInfo) :
    (doc.mapItem item f).LeavesMade := by
  refine made.mapKind item fun kind leaf same => ?_
  cases kind with
  | item info => cases same
  | _ => exact same

/-- **No edit adds a leaf of another kind.** -/
theorem Edit.leavesMade (edit : Edit table marks doc after) (made : doc.LeavesMade) :
    after.LeavesMade := by
  cases edit with
  | root node file =>
    intro id found kind at_ leaf
    rw [node?_addRoot] at at_
    split at at_
    · cases at_
      rw [fresh, file] at leaf
      cases leaf
    · exact made id found kind at_ leaf
  | child parent node plain => exact made.addChild parent plain.made
  | describe file f =>
    refine made.mapKind file fun kind leaf same => ?_
    cases kind with
    | file info => cases same
    | _ => exact same
  | enlarge item f kept => exact made.mapItem item f
  | status item block titled inside allowed =>
    refine (made.addChild item fun kind same => ?_).mapItem item _
    cases same
    have mem : ("Status", statusRule) ∈ Registry.builtinRules := List.mem_cons_self
    exact LeafKind.Made.builtin mem

/-- **Edits add no leaf of another kind.** -/
theorem Edits.leavesMade (edits : Edits table marks doc after) (made : doc.LeavesMade) :
    after.LeavesMade := by
  induction edits with
  | refl => exact made
  | tail _ edit ih => exact edit.leavesMade ih

end Document

/-! ## What every handler does -/

namespace Walk

open Document (Edits)

variable {w : Walk} {block : Block} {base : Nat}

/-- The rules of the walk are such as units leave them, and its scope is sound. -/
structure Ruled (w : Walk) (base : Nat) : Prop where
  sound : w.Sound base
  made : w.registry.active.Made
  hooks : w.registry.active.HooksBuiltIn

/-- A leaf leaves the rules as they are, and the scope sound. -/
theorem Ruled.leaf (ruled : w.Ruled base) (leaf : Block) :
    (settle leaf (w.addLeaf leaf)).Ruled base := by
  have leads : w.Leads (settle leaf (w.addLeaf leaf)) :=
    settle_moves (fun _ _ => trivial) (addLeaf_leads ruled.sound leaf)
  have rules : (settle leaf (w.addLeaf leaf)).registry = w.registry :=
    (settle_steady (addLeaf_steady w leaf)).registry
  exact ⟨leads.sound ruled.sound, rules ▸ ruled.made, rules ▸ ruled.hooks⟩

/-! ### Containers -/

section Containers

variable (table : RuleTable) (marks : Nat → Bool → Prop)

/-- A container is plain, since `Status` opens none. -/
theorem plain_container {node : Node} (other : node.title ≠ "Status")
    (container : node.kind = .sect ∨ node.kind = .subsect ∨ node.kind = .item {}) :
    node.Plain table where
  made kind leaf := by simp [leaf] at container
  titled _ := other
  unmarked info item := by
    simp only [item, reduceCtorEq, NodeKind.item.injEq, false_or] at container
    rw [container]

theorem ensureFile_edits (w : Walk) (origin : Origin) :
    Edits table marks w.document (w.ensureFile origin).1.document := by
  unfold ensureFile
  split
  · exact .refl
  · exact .single (.root (placeholder origin) rfl)

/-- A File comes without information, and is no leaf. -/
theorem openFile_edits (w : Walk) (block : Block) :
    Edits table marks w.document (w.openFile block).1.document := by
  unfold openFile
  split
  · exact .refl
  · exact .single (.root _ rfl)

/-- A section is a node that comes alone. -/
theorem openSect_edits (w : Walk) (other : block.title ≠ "Status") :
    Edits table marks w.document (w.openSect block).1.document :=
  (ensureFile_edits table marks w block.origin).tail
    (.child _ _ (plain_container table other (.inl rfl)))

theorem openSubsect_edits (w : Walk) (other : block.title ≠ "Status") :
    Edits table marks w.document (w.openSubsect block).1.document := by
  unfold openSubsect
  split
  · exact .refl
  · split
    · exact .refl
    · exact .single (.child _ _ (plain_container table other (.inr (.inl rfl))))

/-- The containers made up for an item come alone. -/
theorem prepareItem_edits (w : Walk) (origin : Origin) :
    Edits table marks w.document (w.prepareItem origin).1.document := by
  have filed := ensureFile_edits table marks w origin
  simp only [prepareItem, ensureSect]
  split
  · exact filed
  · exact filed.tail (.child _ _ (plain_container table (by simp) (.inl rfl)))

/-- Information on a File is one edit, after those of the File. -/
theorem describeFile_edits (w : Walk) (field : FileField) (block : Block) :
    Edits table marks w.document (w.describeFile field block).1.document := by
  unfold describeFile
  split
  · exact .refl
  · let warned := if field = .footnotes then w.warnFootnotes block else w
    have same : warned.document = w.document := by
      unfold warned
      split
      · rfl
      · rfl
    have filed := ensureFile_edits table marks warned block.origin
    rw [same] at filed
    exact filed.tail (.describe _ _)

end Containers

/-! ### Leaves -/

section Leaves

variable (table : RuleTable) (marks : Nat → Bool → Prop)

/-- An image is plain, whatever the title of its block. -/
theorem plain_image {node : Node} {kind : LeafKind} (leaf : node.kind = .leaf kind)
    (made : kind.Made) (titled : node.title = "Example" ∨ node.title = "Figure") :
    node.Plain table where
  made other same := by
    rw [leaf, NodeKind.leaf.injEq] at same
    exact same ▸ made
  titled _ title := by simp [title] at titled
  unmarked info item := by simp [leaf] at item

theorem addImage_edits (w : Walk) {kind : LeafKind}
    (role : LeafRole.ofTitle block.title = .image kind) :
    Edits table marks w.document (w.addImage kind block).1.document := by
  unfold addImage
  split
  · exact .refl
  · exact .single (.child _ _
      (plain_image table rfl (LeafKind.made_of_image role) (title_of_image role)))

/-- Each image is an edit. -/
theorem addImages_edits (w : Walk) {title : String} {kind : LeafKind}
    (role : LeafRole.ofTitle block.title = .images title kind) :
    Edits table marks w.document (w.addImages title kind block).1.document := by
  unfold addImages
  split
  · exact .refl
  · rename_i item opened
    have plain : ∀ node ∈ imageNodes title kind block, node.Plain table := by
      intro node mem
      obtain ⟨_, -, rfl⟩ := List.mem_map.mp mem
      exact plain_image table rfl (LeafKind.made_of_images role) (title_of_images role)
    show Edits table marks w.document
      ((imageNodes title kind block).foldl (·.addChild item ·) w.document)
    generalize imageNodes title kind block = nodes at plain
    generalize w.document = doc
    induction nodes generalizing doc with
    | nil => exact .refl
    | cons node rest ih =>
      exact .head (.child item node (plain node (List.mem_cons_self ..)))
        (ih (fun other mem => plain other (List.mem_cons_of_mem _ mem)) _)

/-- A list of words is a leaf, and news of its item. -/
theorem addWordList_edits (w : Walk) {list : WordList}
    (role : LeafRole.ofTitle block.title = .words list) :
    Edits table marks w.document (w.addWordList list block).1.document := by
  unfold addWordList
  split
  · exact .refl
  · have plain : (block.node (WordList.kind list)).Plain table := by
      refine ⟨fun kind leaf => ?_, fun _ title => ?_, fun info item => ?_⟩
      · cases list <;> cases leaf
      · have title : block.title = "Status" := title
        simp [title, LeafRole.ofTitle] at role
      · cases list <;> cases item
    have kept : ∀ info, (addWords list (wordsOf block) info).deprecated = info.deprecated := by
      cases list
      all_goals exact fun info => rfl
    exact .tail (.single (.child _ _ plain)) (.enlarge _ _ kept)

theorem placeFor_edits (w : Walk) (rule : Rule) (origin : Origin) :
    Edits table marks w.document (w.placeFor rule origin).1.document := by
  unfold placeFor
  split
  · exact .refl
  · exact .refl
  · exact ensureFile_edits table marks w origin
  · exact .refl

theorem foldl_addAlias_edits (w : Walk) (item : Nat) (names : List String) :
    Edits table marks w.document (names.foldl (addAlias item) w).document := by
  induction names generalizing w with
  | nil => exact .refl
  | cons name rest ih =>
    refine .trans ?_ (ih _)
    unfold addAlias
    split
    · exact .refl
    · exact .single (.enlarge item _ fun info => rfl)

end Leaves

/-- The block marks the item that it stands under. -/
def Marks (w : Walk) (block : Block) (item : Nat) (deprecated : Bool) : Prop :=
  block.title = "Status" ∧ w.scope.item = some item
    ∧ deprecated = Text.contains block.subtitle "DEPRECATED"

/-- **A status** goes to the open item and marks it; a body is not allowed, and without an open item
    the block is dropped. -/
theorem addRegistered_status (sound : w.Sound base) (block : Block) :
    w.addRegistered statusRule block
      = match w.scope.item with
        | none => (w, .dropped)
        | some item =>
          if block.body = [] then
            ({ w with
                document := (w.document.addChild item (block.node (.leaf .label))).mapItem item
                  (setDeprecated (Text.contains block.subtitle "DEPRECATED")) }, .accepted)
          else (w, .rejected .bodyNotSupported) := by
  cases opened : w.scope.item with
  | none =>
    -- the parent, if there is one, is no item
    have place : w.placeFor statusRule block.origin = (w, none) := by
      cases above : w.scope.parent with
      | none => simp only [placeFor, above, statusRule]
      | some parent =>
        have other : w.document.tag? parent ≠ some .item := fun isItem =>
          Closed.ne_of_parent ⟨isItem, by simp [opened]⟩ sound above rfl
        have plain : (w.document.node? parent).any (·.tag = .item) = false := by
          rw [Document.tag?] at other
          cases found : w.document.node? parent <;> simp_all
        simp only [placeFor, above, statusRule, plain]
        rfl
    simp only [addRegistered, place]
  | some item =>
    have place : w.placeFor statusRule block.origin = (w, some item) :=
      placeFor_of_item sound opened (.inr rfl) block.origin
    simp only [addRegistered, place]
    by_cases bare : block.body = []
    · simp only [statusRule, shaped, bare, if_true, aliasesOf, runHook]
      rfl
    · simp only [statusRule, shaped, bare, if_false]

/-- The node of a registered block is plain, unless its rule marks the item. -/
theorem plain_registered (ruled : w.Ruled base) {rule : Rule}
    (found : w.registry.lookup? block.title = some rule) (hook : rule.hook ≠ some .status)
    {shapedBlock : Block} (shape : shaped rule.kind block = .ok shapedBlock) :
    (shapedBlock.node (.leaf rule.kind)).Plain w.registry.active where
  made kind same := by
    cases same
    exact ruled.made _ _ found
  titled kept title := by
    have title : block.title = "Status" := by
      rcases shaped_eq_ok shape with rfl | rfl <;> exact title
    have builtin : some rule = some statusRule := by
      rw [← found, title]
      exact kept
    cases builtin
    exact hook rfl
  unmarked info item := by cases item

/-- **A block with a rule** marks the open item, if its rule does. -/
theorem addRegistered_edits (ruled : w.Ruled base) {rule : Rule}
    (found : w.registry.lookup? block.title = some rule) :
    Edits w.registry.active (w.Marks block) w.document (w.addRegistered rule block).1.document := by
  by_cases hook : rule.hook = some .status
  · obtain ⟨title, rfl⟩ := ruled.hooks.status found hook
    rw [addRegistered_status ruled.sound]
    split
    · exact .refl
    · rename_i item opened
      split
      · exact .single (.status item block title (Scope.Sound.item_lt ruled.sound opened)
          ⟨title, opened, rfl⟩)
      · exact .refl
  · have placed := placeFor_edits w.registry.active (w.Marks block) w rule block.origin
    unfold addRegistered
    generalize w.placeFor rule block.origin = place at placed
    obtain ⟨w', parent⟩ := place
    cases parent with
    | none => exact placed
    | some parent =>
      simp only
      split
      · exact placed
      · rename_i shapedBlock shape
        split
        · exact placed
        · rename_i aliases examined
          have added := placed.tail (.child parent _ (plain_registered ruled found hook shape))
          unfold runHook
          split
          · exact added
          · rename_i same
            exact absurd same hook
          · let w'' := { w' with
              document := w'.document.addChild parent (shapedBlock.node (.leaf rule.kind)) }
            exact added.trans (foldl_addAlias_edits _ _ w'' parent aliases)

/-- **A leaf** marks the item that it stands under, if it is a Status, and nothing else. -/
theorem addLeaf_edits (ruled : w.Ruled base) (block : Block) :
    Edits w.registry.active (w.Marks block) w.document (w.addLeaf block).1.document := by
  unfold addLeaf
  split
  · rename_i kind role
    exact addImage_edits _ _ w role
  · rename_i title kind role
    exact addImages_edits _ _ w role
  · split
    · rename_i rule found
      exact addRegistered_edits ruled found
    · split
      · rename_i list role
        exact addWordList_edits _ _ w role
      · exact .refl

/-! ### Any block -/

/-- Blocks without subtitle mark the open item as not deprecated, if at all. -/
theorem foldl_addLeaf_edits {item : Nat} (leaves : List Block) (ruled : w.Ruled base)
    (opened : w.scope.item = some item) (bare : ∀ leaf ∈ leaves, leaf.subtitle = "") :
    Edits w.registry.active (fun marked deprecated => marked = item ∧ deprecated = false) w.document
      (leaves.foldl (fun w leaf => settle leaf (w.addLeaf leaf)) w).document := by
  induction leaves generalizing w with
  | nil => exact .refl
  | cons leaf rest ih =>
    have first : Edits w.registry.active
        (fun marked deprecated => marked = item ∧ deprecated = false) w.document
        (settle leaf (w.addLeaf leaf)).document := by
      rw [document_settle]
      refine (addLeaf_edits ruled leaf).mono fun marked deprecated ⟨_, same, given⟩ => ⟨?_, ?_⟩
      · simpa [opened] using same.symm
      · rw [given, bare leaf (List.mem_cons_self ..)]
        decide
    have kept : (settle leaf (w.addLeaf leaf)).scope.item = w.scope.item :=
      (settle_keepsItems (addLeaf_keepsItems w leaf)).item
    have rules : (settle leaf (w.addLeaf leaf)).registry = w.registry :=
      (settle_steady (addLeaf_steady w leaf)).registry
    have later := ih (ruled.leaf leaf) (kept.trans opened)
      fun other mem => bare other (List.mem_cons_of_mem _ mem)
    rw [rules] at later
    exact first.trans later

/-- The item of an item block is not marked as it is added, nor is any other. -/
theorem startItem_edits (table : RuleTable) (marks : Nat → Bool → Prop) (w : Walk)
    (other : block.title ≠ "Status") :
    Edits table marks w.document (w.startItem block).document :=
  (prepareItem_edits table marks w block.origin).tail
    (.child _ _ (plain_container table other (.inr (.inr rfl))))

/-- An item that is started leaves the rules as they are, and the scope sound. -/
theorem Ruled.startItem (ruled : w.Ruled base) (block : Block)
    (passed : (w.prepareItem block.origin).1.itemCause? block.subtitle = none) :
    (w.startItem block).Ruled base ∧ (w.startItem block).registry = w.registry := by
  have rules : (w.startItem block).registry = w.registry :=
    (prepareItem_steady w block.origin).registry
  exact ⟨⟨startItem_sound ruled.sound block passed, rules ▸ ruled.made, rules ▸ ruled.hooks⟩, rules⟩

/-- An item and the headings in its body: the item is new, and not marked. -/
theorem openItem_edits (ruled : w.Ruled base) (other : block.title ≠ "Status") :
    Edits w.registry.active (fun item deprecated => w.document.size ≤ item ∧ deprecated = false)
      w.document (w.openItem block).1.document := by
  cases passed : (w.prepareItem block.origin).1.itemCause? block.subtitle with
  | some cause =>
    rw [openItem_of_cause passed]
    exact prepareItem_edits _ _ w block.origin
  | none =>
    obtain ⟨item, new, opened, -⟩ := openItem_opens ruled.sound block passed
    obtain ⟨ready, rules⟩ := ruled.startItem block passed
    have headings := foldl_addLeaf_edits (splitAtHeadings block.origin 0 block.body).2 ready opened
      fun leaf mem => (splitAtHeadings_inside mem).2.1
    rw [rules] at headings
    rw [openItem_of_passed passed]
    refine (startItem_edits _ _ w other).trans (headings.mono ?_)
    rintro marked deprecated ⟨rfl, plain⟩
    exact ⟨new, plain⟩

/-- Only leaves are titled Status. -/
theorem title_ne_of_role {title : String} (role : TitleRole.ofTitle title ≠ .leaf) :
    title ≠ "Status" := by
  rintro rfl
  exact role (by decide)

theorem title_ne_of_takesItem {title : String} (takes : w.takesItem title) : title ≠ "Status" := by
  simp only [takesItem, Bool.and_eq_true, decide_eq_true_eq] at takes
  exact title_ne_of_role (by simp [takes.1.1])

/-- **Every block** is a sequence of edits.  It marks the open item, if it is a status, and leaves
    the items that it adds unmarked. -/
theorem dispatch_edits (ruled : w.Ruled base) (block : Block) :
    Edits w.registry.active
      (fun item deprecated => w.Marks block item deprecated
        ∨ w.document.size ≤ item ∧ deprecated = false)
      w.document (w.dispatch block).1.document := by
  have handler := w.dispatch_handler block
  generalize w.dispatch block = result at handler
  cases handler with
  | define role =>
    unfold define
    split
    · exact .refl
    · split
      · exact .refl
      · exact .refl
  | configure directive role =>
    unfold configure
    split
    · exact .refl
    · split
      · exact .refl
      · exact .refl
  | file role => exact openFile_edits _ _ w block
  | early awaits => exact .refl
  | sect role => exact openSect_edits _ _ w (title_ne_of_role (by simp [role]))
  | subsect role => exact openSubsect_edits _ _ w (title_ne_of_role (by simp [role]))
  | describe field role => exact describeFile_edits _ _ w field block
  | item takes =>
    exact (openItem_edits ruled (title_ne_of_takesItem takes)).mono
      fun item deprecated new => .inr new
  | leaf takes =>
    exact (addLeaf_edits ruled block).mono fun item deprecated marked => .inl marked

end Walk

/-! ## Along a unit -/

/-- **Every header** is a sequence of edits; one that is refused for its body edits nothing. -/
theorem Visit.settled_edits {v : Visit} {base : Nat} (ruled : v.walk.Ruled base) :
    Document.Edits v.walk.registry.active
      (fun item deprecated => v.walk.Marks v.block item deprecated
        ∨ v.walk.document.size ≤ item ∧ deprecated = false)
      v.walk.document v.settled.document := by
  cases extracted : Body.ofLines v.rest with
  | error n =>
    rw [settled, handled, extracted]
    exact .refl
  | ok body =>
    rw [(settled_of_dispatch extracted).2, block, extracted]
    exact Walk.dispatch_edits ruled _

/-- What the headers from a line on preserve holds at each of them, and after them. -/
theorem Walk.readFrom_document {holds : Document → Prop} {w : Walk} {file : String} {line : Nat}
    {lines : List String} (start : holds w.document)
    (step : ∀ v ∈ w.visitsFrom file line lines, holds v.walk.document → holds v.settled.document) :
    holds (w.readFrom file line lines).document
      ∧ ∀ v ∈ w.visitsFrom file line lines, holds v.walk.document := by
  fun_induction visitsFrom w file line lines with
  | case1 w line =>
    rw [readFrom, dif_pos rfl]
    exact ⟨start, by simp⟩
  | case2 w line lines more next ih =>
    rw [readFrom, dif_neg more]
    have skipped : (w.skipLines line lines).1.document = w.document := by
      rw [skipLines_toSession]
    rcases Option.eq_none_or_eq_some (w.visit? file line lines) with last | ⟨v, found⟩
    · have same : next = w.skipLines line lines := (readBlock_of_visit?_eq_none last).1
      have there : holds next.1.document := by
        rw [same, skipped]
        exact start
      simpa [last] using ih there fun v mem => step v (List.mem_append_right _ mem)
    · have here : holds v.walk.document := by
        rw [(of_visit? found).1, skipped]
        exact start
      have own : v ∈ (w.visit? file line lines).toList := by simp [found]
      have left : next.1 = v.left := congrArg (·.1) (readBlock_of_visit? found)
      have there : holds next.1.document := by
        rw [left, v.left_toSession]
        exact step v (List.mem_append_left _ own) here
      obtain ⟨ended, met⟩ := ih there fun u mem => step u (List.mem_append_right _ mem)
      refine ⟨ended, fun u mem => ?_⟩
      rcases List.mem_append.mp mem with first | later
      · obtain rfl : u = v := by simpa [found] using first
        exact here
      · exact met u later

namespace Session

variable {s : Session} {file : String} {lines rest : List String} {past future : List Visit}
  {w : Walk} {line : Nat} {v : Visit}

/-- The rules at a header are those of the start with the definitions before the header. -/
theorem visit_rules (met : s.visits file lines = past ++ v :: future) :
    v.walk.registry.active
      = s.registry.baseline.override ((blocksOf past).filterMap Block.definition?) := by
  have settings := visit_settings met
  rw [Settings.foldl_after] at settings
  exact congrArg (·.registry.active) settings

/-- **What every header preserves of the document** holds at every header and at the end. -/
theorem walkUnit_document {holds : Document → Prop} (start : holds s.document)
    (step : ∀ v ∈ s.visits file lines, holds v.walk.document → holds v.settled.document) :
    holds (s.walkUnit file lines).document
      ∧ ∀ v ∈ s.visits file lines, holds v.walk.document := by
  obtain ⟨ended, met⟩ := Walk.readFrom_document start step
  refine ⟨?_, met⟩
  show holds (s.enter.readFrom file 1 lines).closeItem.document
  rwa [Walk.closeItem_toSession]

/-- A unit that starts from such rules meets every header with such rules. -/
theorem Consistent.visit_ruled (consistent : s.Consistent) (made : s.registry.baseline.Made)
    (met : v ∈ s.visits file lines) : v.walk.Ruled s.document.size := by
  have leads : s.enter.Leads v.walk := Walk.visitsFrom_leads s.enter_sound met
  refine ⟨visit_sound met, ?_, leads.rules.2 consistent.baseline⟩
  obtain ⟨past, future, split⟩ := List.append_of_mem met
  rw [visit_rules split]
  exact made.override _

/-- All rules and all leaves of the session are of kinds that rules can make. -/
structure Made (s : Session) : Prop where
  consistent : s.Consistent
  baseline : s.registry.baseline.Made
  active : s.registry.active.Made
  leaves : s.document.LeavesMade

/-- A unit leaves every leaf of such a kind. -/
theorem Made.walkUnit (made : s.Made) (file : String) (lines : List String) :
    (s.walkUnit file lines).Made := by
  obtain ⟨-, -, rules⟩ := s.walkUnit_rules file lines
  refine ⟨made.consistent.walkUnit file lines, ?_, ?_, ?_⟩
  · rw [rules]
    exact made.baseline
  · rw [rules]
    exact made.baseline.override _
  · exact (walkUnit_document made.leaves fun v met leaves =>
      (Visit.settled_edits (made.consistent.visit_ruled made.baseline met)).leavesMade leaves).1

theorem Made.commit (made : s.Made) : s.commit.Made := by
  obtain ⟨⟨-, hooks, named⟩, -, active, leaves⟩ := made
  exact ⟨⟨hooks, hooks, named⟩, active, active, leaves⟩

/-- Before any unit there is no leaf. -/
theorem made_fresh (mode : Mode) : Made { mode } := by
  refine ⟨consistent_fresh mode, RuleTable.made_builtinRules, RuleTable.made_builtinRules, ?_⟩
  intro id node kind found
  simp [Document.node?, Document.empty] at found

/-- **Every leaf of every session** is of a kind that some rule can make. -/
theorem Reachable.made (reached : s.Reachable) : s.Made :=
  reached.induction made_fresh (fun _ file lines made => made.walkUnit file lines)
    fun _ made => made.commit

end Session

end DocComments
