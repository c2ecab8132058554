/-
  Nodes by number, checked.

  A session stores the numbers of nodes: those that are open in the scope, the owner of each name,
  the parent and the children in each node.  A number that names no node would fail where it is
  used.  The handlers of `Checked` do what the handlers do, and look up each number first; in a walk
  whose stored numbers fit its document (`Walk.Safe`) none of the lookups fails, and the block is
  handled as before, up to `Checked.dispatch_eq`.

  A handler may open containers before it uses their numbers, so what has to be safe is the walk
  after each of its steps.  Steps are moves, and every move keeps a walk safe (`Leads.safe`).
-/
import DocComments.Proofs.CheckedText
import DocComments.Proofs.Naming
import DocComments.Proofs.OpenItem

namespace DocComments

/-! ## Operations on a node that is looked up -/

namespace Document

/-- A new last child for a node that is there. -/
def addChild? (doc : Document) (parent : Nat) (node : Node) : Option Document :=
  (doc.node? parent).map fun _ => doc.addChild parent node

/-- New information for an item that is there. -/
def mapItem? (doc : Document) (id : Nat) (f : ItemInfo → ItemInfo) : Option Document :=
  (doc.node? id).map fun _ => doc.mapItem id f

/-- New information for a file that is there. -/
def mapFile? (doc : Document) (id : Nat) (f : FileInfo → FileInfo) : Option Document :=
  (doc.node? id).map fun _ => doc.mapFile id f

variable {doc : Document} {id : Nat}

/-- A number below the size is that of a node. -/
theorem exists_node? (lt : id < doc.size) : ∃ node, doc.node? id = some node :=
  ⟨doc.nodes[id], List.getElem?_eq_getElem lt⟩

/-- A parent that is there takes its child. -/
theorem addChild?_eq (lt : id < doc.size) (node : Node) :
    doc.addChild? id node = some (doc.addChild id node) := by
  obtain ⟨parent, found⟩ := exists_node? lt
  rw [addChild?, found]
  rfl

/-- A node that is there stays there. -/
theorem lt_size_addChild (lt : id < doc.size) (parent : Nat) (node : Node) :
    id < (doc.addChild parent node).size := by
  rw [addChild]
  split
  · simp only [size, List.length_modify, List.length_append] at lt ⊢
    omega
  · exact lt

/-- A node that is there can be changed. -/
theorem mapItem?_eq (lt : id < doc.size) (f : ItemInfo → ItemInfo) :
    doc.mapItem? id f = some (doc.mapItem id f) := by
  obtain ⟨node, found⟩ := exists_node? lt
  rw [mapItem?, found]
  rfl

theorem mapFile?_eq (lt : id < doc.size) (f : FileInfo → FileInfo) :
    doc.mapFile? id f = some (doc.mapFile id f) := by
  obtain ⟨node, found⟩ := exists_node? lt
  rw [mapFile?, found]
  rfl

end Document

/-- Steps that never fail where something holds, and that keep it, never fail one after the
    other. -/
theorem foldlM_eq_some {α β : Type} {f : β → α → Option β} {g : β → α → β} (safe : β → Prop)
    (step : ∀ b, safe b → ∀ a, f b a = some (g b a) ∧ safe (g b a)) (steps : List α) {b : β}
    (start : safe b) : steps.foldlM f b = some (steps.foldl g b) := by
  induction steps generalizing b with
  | nil => rfl
  | cons a rest ih =>
    obtain ⟨done, kept⟩ := step b start a
    rw [List.foldlM_cons, done]
    exact ih kept

/-! ## Safe walks -/

namespace Walk

/-- All numbers that the walk has stored are those of nodes: the scope fits the document, and the
    names belong to the nodes that carry them. -/
structure Safe (base : Nat) (w : Walk) : Prop where
  sound : w.Sound base
  built : w.registry.active.HooksBuiltIn
  named : Named w.document w.index

variable {base : Nat} {w after : Walk} {block : Block}

/-- **Every step keeps a walk safe.** -/
theorem Leads.safe (leads : w.Leads after) (safe : w.Safe base) : after.Safe base where
  sound := Moves.sound leads safe.sound
  built := (Moves.rules leads).2 safe.built
  named := Moves.named leads safe.sound safe.built safe.named

namespace Safe

variable {id : Nat}

/-- The unit's File is there, whether it was open before or is opened now. -/
theorem ensured_lt (safe : w.Safe base) (origin : Origin) :
    (w.ensureFile origin).2 < (w.ensureFile origin).1.document.size := by
  obtain ⟨leads, opened⟩ := ensureFile_leads safe.sound origin
  exact Scope.Sound.file_lt (Moves.sound leads safe.sound) opened

/-- The owner of a name carries it, so it is there. -/
theorem owner_lt (safe : w.Safe base) {name : String} (taken : w.index.lookup? name = some id) :
    id < w.document.size := by
  obtain ⟨node, info, found, -⟩ :=
    Document.mem_namesOf.mp ((safe.named.lookup_iff name id).mp taken)
  exact Document.lt_of_node? found

end Safe

end Walk

namespace Checked

open Walk

/-! ## Containers -/

/-- Close the open item; its parent is looked up. -/
def closeItem (w : Walk) : Option Walk :=
  match w.scope.item with
  | none => some w
  | some item => do
    let node ← w.document.node? item
    some { w with scope := { w.scope with item := none, parent := node.parent } }

/-- A `Section` block; the file is looked up. -/
def openSect (w : Walk) (block : Block) : Option (Walk × Verdict) := do
  let (w, file) := w.ensureFile block.origin
  let document ← w.document.addChild? file (block.node .sect)
  some ({ w with
    document
    scope := { w.scope with
      sect := some w.document.size
      subsect := none
      item := none
      parent := some w.document.size } }, .accepted)

/-- A `Subsection` block; the section is looked up. -/
def openSubsect (w : Walk) (block : Block) : Option (Walk × Verdict) :=
  match w.scope.sect with
  | none => some (w, .rejected .sectionRequired)
  | some sect =>
    if block.subtitle = "" then some (w, .rejected .missingSubtitle)
    else do
      let document ← w.document.addChild? sect (block.node .subsect)
      some ({ w with
        document
        scope := { w.scope with
          subsect := some w.document.size
          item := none
          parent := some w.document.size } }, .accepted)

/-- The unit's section; the file of an anonymous one is looked up. -/
def ensureSect (w : Walk) (origin : Origin) : Option (Walk × Nat) :=
  let (w, file) := w.ensureFile origin
  match w.scope.sect with
  | some sect => some (w, sect)
  | none => do
    let document ← w.document.addChild? file { kind := .sect, title := "Section", origin }
    some ({ w with document, scope := { w.scope with sect := some w.document.size } },
      w.document.size)

/-- The containers that an item needs. -/
def prepareItem (w : Walk) (origin : Origin) : Option (Walk × Nat) := do
  let (w, sect) ← ensureSect w origin
  let container := w.scope.subsect.getD sect
  some ({ w with scope := { w.scope with item := none, parent := some container } }, container)

/-- The place of a node that is looked up. -/
def originOf (w : Walk) (id : Nat) : Option Origin := (w.document.node? id).map (·.origin)

/-- Why an item block with this name is refused, if it is; the owner of a name that is taken is
    looked up. -/
def itemCause (w : Walk) (name : String) : Option (Option Cause) :=
  if name = "" then some (some .missingSubtitle)
  else
    match w.index.lookup? name with
    | some owner => (originOf w owner).map fun origin => some (.redeclared name origin)
    | none => some (if hasParenthesized name.toList then some .parenthesizedText else none)

/-- Add an item; its container is looked up. -/
def addItem (w : Walk) (container : Nat) (block : Block) : Option Walk :=
  (w.document.addChild? container (block.node (.item {}))).map fun document =>
    { w.addItem container block with document }

/-- A block that describes the file; the file is looked up. -/
def describeFile (w : Walk) (field : FileField) (block : Block) : Option (Walk × Verdict) :=
  if needsSubtitle field && block.subtitle = "" then some (w, .rejected .missingSubtitle)
  else do
    let w := if field = .footnotes then w.warnFootnotes block else w
    let (w, file) := w.ensureFile block.origin
    let document ← w.document.mapFile? file (setField field block)
    some ({ w with document }, .accepted)

variable {base : Nat} {w : Walk} {block : Block}

/-- The parent of an open item is found. -/
theorem closeItem_eq (safe : w.Safe base) : closeItem w = some w.closeItem := by
  unfold closeItem Walk.closeItem
  cases opened : w.scope.item with
  | none => rfl
  | some item =>
    obtain ⟨node, found⟩ := Document.exists_node? (Scope.Sound.item_lt safe.sound opened)
    simp only [found, Document.parent?, Option.bind_eq_bind, Option.bind_some]

/-- An item that is not in the document cannot be closed. -/
example : closeItem { scope := { item := some 0, parent := some 0 } } = none := rfl

/-- The File of a section is found. -/
theorem openSect_eq (safe : w.Safe base) : openSect w block = some (w.openSect block) := by
  have lt := safe.ensured_lt block.origin
  simp only [openSect, Document.addChild?_eq lt, Option.bind_eq_bind, Option.bind_some]
  rfl

/-- The section of a subsection is found. -/
theorem openSubsect_eq (safe : w.Safe base) :
    openSubsect w block = some (w.openSubsect block) := by
  unfold openSubsect Walk.openSubsect
  cases opened : w.scope.sect with
  | none => rfl
  | some sect =>
    have lt := Scope.Sound.sect_lt safe.sound opened
    simp only [Document.addChild?_eq lt, Option.bind_eq_bind, Option.bind_some]
    split <;> rfl

theorem ensureSect_eq (safe : w.Safe base) (origin : Origin) :
    ensureSect w origin = some (w.ensureSect origin) := by
  have lt := safe.ensured_lt origin
  simp only [ensureSect, Walk.ensureSect, Document.addChild?_eq lt, Option.bind_eq_bind,
    Option.bind_some]
  cases (w.ensureFile origin).1.scope.sect <;> rfl

/-- The containers of an item are found. -/
theorem prepareItem_eq (safe : w.Safe base) (origin : Origin) :
    prepareItem w origin = some (w.prepareItem origin) := by
  rw [prepareItem, ensureSect_eq safe]
  rfl

theorem originOf_eq {id : Nat} (lt : id < w.document.size) :
    originOf w id = some (w.originOf id) := by
  obtain ⟨node, found⟩ := Document.exists_node? lt
  rw [originOf, Walk.originOf, found]
  rfl

/-- The owner of a name that is taken is found. -/
theorem itemCause_eq (safe : w.Safe base) (name : String) :
    itemCause w name = some (w.itemCause? name) := by
  unfold itemCause itemCause?
  split
  · rfl
  · cases taken : w.index.lookup? name with
    | none => rfl
    | some owner =>
      simp only [originOf_eq (safe.owner_lt taken), Option.map_some]

/-- What takes an item is found. -/
theorem addItem_eq {container : Nat} (lt : container < w.document.size) :
    addItem w container block = some (w.addItem container block) := by
  rw [addItem, Document.addChild?_eq lt]
  rfl

/-- The File that is described is found. -/
theorem describeFile_eq (safe : w.Safe base) (field : FileField) :
    describeFile w field block = some (w.describeFile field block) := by
  unfold describeFile Walk.describeFile
  split
  · rfl
  · -- the warnings about footnotes come before the file is opened
    have warned : w.Leads (if field = .footnotes then w.warnFootnotes block else w) := by
      split
      · exact warnFootnotes_moves fun _ _ => trivial
      · exact .refl
    have lt := (Leads.safe warned safe).ensured_lt block.origin
    simp only [Document.mapFile?_eq lt, Option.bind_eq_bind, Option.bind_some]

/-! ## Images and word lists -/

/-- One image under the open item, which is looked up. -/
def addImage (w : Walk) (kind : LeafKind) (block : Block) : Option (Walk × Verdict) :=
  match w.scope.item with
  | none => some (w, .dropped)
  | some item => do
    let document ← w.document.addChild? item (block.node (.leaf kind))
    some ({ w with document }, .accepted)

/-- The images of a plural block; the open item is looked up for each. -/
def addImages (w : Walk) (title : String) (kind : LeafKind) (block : Block) :
    Option (Walk × Verdict) :=
  match w.scope.item with
  | none => some (w, .dropped)
  | some item => do
    let document ← (imageNodes title kind block).foldlM (·.addChild? item ·) w.document
    some ({ w with document }, .accepted)

/-- A word list; the open item is looked up for the node and again for the words. -/
def addWordList (w : Walk) (list : WordList) (block : Block) : Option (Walk × Verdict) :=
  match w.scope.item with
  | none => some (w, .dropped)
  | some item => do
    let document ← w.document.addChild? item (block.node (WordList.kind list))
    let document ← document.mapItem? item (addWords list (wordsOf block))
    some ({ w with document }, .accepted)

theorem addImage_eq (safe : w.Safe base) (kind : LeafKind) :
    addImage w kind block = some (w.addImage kind block) := by
  unfold addImage Walk.addImage
  cases opened : w.scope.item with
  | none => rfl
  | some item =>
    have lt := Scope.Sound.item_lt safe.sound opened
    simp only [Document.addChild?_eq lt, Option.bind_eq_bind, Option.bind_some]

theorem addImages_eq (safe : w.Safe base) (title : String) (kind : LeafKind) :
    addImages w title kind block = some (w.addImages title kind block) := by
  unfold addImages Walk.addImages
  cases opened : w.scope.item with
  | none => rfl
  | some item =>
    have all := foldlM_eq_some (f := fun doc node => Document.addChild? doc item node)
      (g := fun doc node => doc.addChild item node) (fun doc => item < doc.size)
      (fun doc lt node => ⟨Document.addChild?_eq lt node, Document.lt_size_addChild lt item node⟩)
      (imageNodes title kind block) (Scope.Sound.item_lt safe.sound opened)
    simp only [all, Option.bind_eq_bind, Option.bind_some]

theorem addWordList_eq (safe : w.Safe base) (list : WordList) :
    addWordList w list block = some (w.addWordList list block) := by
  unfold addWordList Walk.addWordList
  cases opened : w.scope.item with
  | none => rfl
  | some item =>
    have lt := Scope.Sound.item_lt safe.sound opened
    simp only [Document.addChild?_eq lt, Document.mapItem?_eq (Document.lt_size_addChild lt item _),
      Option.bind_eq_bind, Option.bind_some]

/-! ## Registered blocks -/

/-- The node that takes a block under a rule; it is looked up where the rule asks for a kind. -/
def placeFor (w : Walk) (rule : Rule) (origin : Origin) : Option (Walk × Option Nat) :=
  match w.scope.parent, rule.parent with
  | some parent, none => some (w, some parent)
  | some parent, some kind => do
    let node ← w.document.node? parent
    some (w, if node.tag = kind then some parent else none)
  | none, none =>
    let (w, file) := w.ensureFile origin
    some (w, some file)
  | none, some _ => some (w, none)

/-- The further names of a list; the owner of the first that is taken is looked up. -/
def freeNames (w : Walk) (names : List String) : Option (Except Cause (List String)) :=
  match names.find? w.index.contains with
  | some name => do
    let owner ← w.index.lookup? name
    let origin ← originOf w owner
    some (.error (.redeclared name origin))
  | none => some (.ok names.eraseDups)

/-- The further names that a block gives to its item. -/
def aliasesOf (w : Walk) (hook : Option Hook) (block : Block) :
    Option (Except Cause (List String)) :=
  match hook with
  | some .aliases => freeNames w (Text.entriesOf block.subtitle)
  | _ => some (.ok [])

/-- Give an item one more name; the item is looked up. -/
def addAlias (item : Nat) (w : Walk) (name : String) : Option Walk :=
  match w.index.register name item with
  | .error _ => some w
  | .ok index => do
    let document ← w.document.mapItem? item fun info =>
      { info with aliases := info.aliases ++ [name] }
    some { w with index, document }

/-- What a block does to the node it stands under, which is looked up. -/
def runHook (w : Walk) (hook : Option Hook) (parent : Nat) (block : Block)
    (aliases : List String) : Option Walk :=
  match hook with
  | none => some w
  | some .status => do
    let document ← w.document.mapItem? parent fun info =>
      { info with deprecated := Text.contains block.subtitle "DEPRECATED" }
    some { w with document }
  | some .aliases => aliases.foldlM (addAlias parent) w

/-- A block whose title is registered; its place is looked up. -/
def addRegistered (w : Walk) (rule : Rule) (block : Block) : Option (Walk × Verdict) := do
  match ← placeFor w rule block.origin with
  | (w, none) => some (w, .dropped)
  | (w, some parent) =>
    match shaped rule.kind block with
    | .error cause => some (w, .rejected cause)
    | .ok block =>
      match ← aliasesOf w rule.hook block with
      | .error cause => some (w, .rejected cause)
      | .ok aliases =>
        let document ← w.document.addChild? parent (block.node (.leaf rule.kind))
        let w ← runHook { w with document } rule.hook parent block aliases
        some (w, .accepted)

/-- The parent whose kind a rule asks for is found. -/
theorem placeFor_eq (safe : w.Safe base) (rule : Rule) (origin : Origin) :
    placeFor w rule origin = some (w.placeFor rule origin) := by
  unfold placeFor Walk.placeFor
  cases opened : w.scope.parent with
  | none => cases rule.parent <;> rfl
  | some parent =>
    cases rule.parent with
    | none => rfl
    | some kind =>
      obtain ⟨node, found⟩ := Document.exists_node? (Scope.Sound.parent_lt safe.sound opened)
      simp only [found, Option.bind_eq_bind, Option.bind_some, Option.any_some, decide_eq_true_eq]

theorem freeNames_eq (safe : w.Safe base) (names : List String) :
    freeNames w names = some (w.freeNames names) := by
  unfold freeNames Walk.freeNames
  cases search : names.find? w.index.contains with
  | none => rfl
  | some name =>
    have contained : w.index.contains name = true := List.find?_some search
    obtain ⟨owner, taken⟩ := Option.isSome_iff_exists.mp contained
    simp only [taken, originOf_eq (safe.owner_lt taken), Option.bind_eq_bind, Option.bind_some,
      Option.getD_some]

theorem aliasesOf_eq (safe : w.Safe base) (hook : Option Hook) :
    aliasesOf w hook block = some (w.aliasesOf hook block) := by
  match hook with
  | none => rfl
  | some .status => rfl
  | some .aliases => exact freeNames_eq safe _

/-- An alias finds its item, and leaves it in the document. -/
theorem addAlias_eq {item : Nat} (lt : item < w.document.size) (name : String) :
    addAlias item w name = some (w.addAlias item name)
      ∧ item < (w.addAlias item name).document.size := by
  unfold addAlias Walk.addAlias
  cases w.index.register name item with
  | error owner => exact ⟨rfl, lt⟩
  | ok index =>
    rw [Document.mapItem?_eq lt]
    exact ⟨rfl, by rwa [Document.mapItem, Document.size_mapKind]⟩

/-- **A hook** finds the node that it runs on. -/
theorem runHook_eq {parent : Nat} (lt : parent < w.document.size) (hook : Option Hook)
    (aliases : List String) :
    runHook w hook parent block aliases = some (w.runHook hook parent block aliases) := by
  match hook with
  | none => rfl
  | some .status =>
    rw [runHook, Document.mapItem?_eq lt]
    rfl
  | some .aliases =>
    exact foldlM_eq_some (fun w => parent < w.document.size)
      (fun w lt name => addAlias_eq lt name) aliases lt

/-- **A registered block**, its place and the names that it lists. -/
theorem addRegistered_eq (safe : w.Safe base) (rule : Rule) :
    addRegistered w rule block = some (w.addRegistered rule block) := by
  obtain ⟨leads, placed⟩ := placeFor_leads safe.sound rule block.origin
  rw [addRegistered, placeFor_eq safe, Walk.addRegistered, Option.bind_eq_bind, Option.bind_some]
  generalize w.placeFor rule block.origin = place at leads placed
  obtain ⟨w', parent⟩ := place
  have safe := Leads.safe leads safe
  cases parent with
  | none => rfl
  | some parent =>
    have lt := Scope.Sound.parent_lt safe.sound (placed parent rfl)
    simp only
    cases shaped rule.kind block with
    | error cause => rfl
    | ok block' =>
      simp only [aliasesOf_eq safe, Option.bind_eq_bind, Option.bind_some]
      cases w'.aliasesOf rule.hook block' with
      | error cause => rfl
      | ok aliases =>
        -- the parent has one child more when the hook runs
        have still : parent < (w'.document.addChild parent (block'.node (.leaf rule.kind))).size :=
          Document.lt_size_addChild lt parent _
        simp only [Document.addChild?_eq lt, Option.bind_some]
        rw [runHook_eq (by exact still)]
        rfl

/-! ## All leaves -/

/-- A block that adds content to what is open. -/
def addLeaf (w : Walk) (block : Block) : Option (Walk × Verdict) :=
  match LeafRole.ofTitle block.title with
  | .image kind => addImage w kind block
  | .images title kind => addImages w title kind block
  | role =>
    match w.registry.lookup? block.title with
    | some rule => addRegistered w rule block
    | none =>
      match role with
      | .words list => addWordList w list block
      | _ => some (w, .rejected .unrecognized)

/-- **A leaf** is handled without a failed look-up. -/
theorem addLeaf_eq (safe : w.Safe base) (block : Block) :
    addLeaf w block = some (w.addLeaf block) := by
  unfold addLeaf Walk.addLeaf
  cases LeafRole.ofTitle block.title with
  | image kind => exact addImage_eq safe kind
  | images title kind => exact addImages_eq safe title kind
  | words list =>
    cases w.registry.lookup? block.title with
    | some rule => exact addRegistered_eq safe rule
    | none => exact addWordList_eq safe list
  | plain =>
    cases w.registry.lookup? block.title with
    | some rule => exact addRegistered_eq safe rule
    | none => rfl

/-! ## Items -/

/-- An item block.  Its container is looked up, and the owner of its name if that is taken, the
    lines of its body, and whatever the headings of its body ask for. -/
def openItem (w : Walk) (block : Block) : Option (Walk × Verdict) := do
  let (w, container) ← prepareItem w block.origin
  match ← itemCause w block.subtitle with
  | some cause => some (w, .rejected cause)
  | none =>
    let (own, inner) ← split block.origin block.body 0
    let w ← addItem w container { block with body := own }
    let w ← inner.foldlM (fun w leaf => (addLeaf w leaf).map (settle leaf)) w
    some (w, .accepted)

theorem settled_leaf_eq (safe : w.Safe base) (leaf : Block) :
    (addLeaf w leaf).map (settle leaf) = some (settle leaf (w.addLeaf leaf))
      ∧ (settle leaf (w.addLeaf leaf)).Safe base := by
  have leads : w.Leads (settle leaf (w.addLeaf leaf)) :=
    settle_moves (fun _ _ => trivial) (addLeaf_leads safe.sound leaf)
  rw [addLeaf_eq safe leaf]
  exact ⟨rfl, Leads.safe leads safe⟩

/-- **An item block**, with the headings of its body. -/
theorem openItem_eq (safe : w.Safe base) (block : Block) :
    openItem w block = some (w.openItem block) := by
  obtain ⟨leads, opened⟩ := prepareItem_leads safe.sound block.origin
  have prepared := Leads.safe leads safe
  rw [openItem, prepareItem_eq safe, Option.bind_eq_bind, Option.bind_some]
  cases passed : (w.prepareItem block.origin).1.itemCause? block.subtitle with
  | some cause =>
    simp only [itemCause_eq prepared, passed, openItem_of_cause passed, Option.bind_eq_bind,
      Option.bind_some]
  | none =>
    have added : (w.startItem block).Safe base :=
      Leads.safe (startItem_leads safe.sound block passed) safe
    have inner := foldlM_eq_some (fun w : Walk => w.Safe base)
      (fun w safe leaf => settled_leaf_eq safe leaf)
      (splitAtHeadings block.origin 0 block.body).2 added
    have lt := Scope.Sound.container_lt prepared.sound opened
    simp only [itemCause_eq prepared, passed, openItem_of_passed passed, split_eq, List.drop_zero,
      addItem_eq lt, Option.bind_eq_bind, Option.bind_some]
    rw [startItem] at inner ⊢
    rw [inner]
    rfl

/-! ## Any block -/

/-- A block outside strict mode, or under an open File. -/
def placeBlock (w : Walk) (block : Block) : Option (Walk × Verdict) :=
  match TitleRole.ofTitle block.title with
  | .sect => openSect w block
  | .subsect => openSubsect w block
  | .fileField field => describeFile w field block
  | .item => if w.registry.contains block.title then addLeaf w block else openItem w block
  | _ => addLeaf w block

/-- Any block.  Definitions, directives and File blocks use no number. -/
def dispatch (w : Walk) (block : Block) : Option (Walk × Verdict) :=
  match TitleRole.ofTitle block.title with
  | .define => some (w.define block)
  | .directive directive => some (w.configure directive block)
  | .file => some (w.openFile block)
  | _ =>
    if w.mode.strict && w.scope.file.isNone then some (w, .rejected .fileRequired)
    else placeBlock w block

/-- **A block that is placed** is handled without a failed look-up. -/
theorem placeBlock_eq (safe : w.Safe base) (block : Block) :
    placeBlock w block = some (w.placeBlock block) := by
  unfold placeBlock Walk.placeBlock
  cases TitleRole.ofTitle block.title with
  | sect => exact openSect_eq safe
  | subsect => exact openSubsect_eq safe
  | fileField field => exact describeFile_eq safe field
  | item =>
    by_cases registered : w.registry.contains block.title
    · simp only [registered, if_true]
      exact addLeaf_eq safe block
    · simp only [registered, if_false, Bool.false_eq_true]
      exact openItem_eq safe block
  | _ => exact addLeaf_eq safe block

/-- **No number that a block uses fails**, whatever the block is. -/
theorem dispatch_eq (safe : w.Safe base) (block : Block) :
    dispatch w block = some (w.dispatch block) := by
  have placed := placeBlock_eq safe block
  have guarded : (if w.mode.strict && w.scope.file.isNone then some (w, .rejected .fileRequired)
      else placeBlock w block)
        = some (if w.mode.strict && w.scope.file.isNone then (w, .rejected .fileRequired)
          else w.placeBlock block) := by
    rw [placed]
    split <;> rfl
  unfold dispatch Walk.dispatch
  cases TitleRole.ofTitle block.title with
  | define => rfl
  | directive directive => rfl
  | file => rfl
  | _ => exact guarded

end Checked

end DocComments
