/-
  What a block does to the open item.

  A leaf leaves the open item as it is, and adds no item (`addLeaf_keepsItems`).  An item block
  closes the item before it even when it is refused; one that is accepted adds one item and leaves
  it open (`openItem_opens`), and the blocks under the headings of its body are handled under that
  item (`of_mem_headingsOf`).

  For a header that a unit comes to, `item_settled_iff` sums this up: an item is open afterwards when
  the header opened it, or when it was open and the header is not one of those that close it.
-/
import DocComments.Proofs.Visits

namespace DocComments

/-! ## Which nodes are items -/

/-- The two documents have the same items. -/
def Document.SameItems (doc after : Document) : Prop :=
  ∀ id, after.tag? id = some .item ↔ doc.tag? id = some .item

/-- No leaf is an item. -/
theorem LeafKind.tag_ne_item (kind : LeafKind) : kind.tag ≠ .item := by
  cases kind <;> simp [LeafKind.tag]

namespace Document

theorem SameItems.refl (doc : Document) : doc.SameItems doc := fun _ => Iff.rfl

theorem SameItems.trans {doc mid after : Document} (first : doc.SameItems mid)
    (second : mid.SameItems after) : doc.SameItems after :=
  fun id => (second id).trans (first id)

/-- The number after the last node has no kind yet. -/
theorem tag?_size (doc : Document) : doc.tag? doc.size = none := by
  rw [tag?, node?_eq_none (Nat.le_refl _)]
  rfl

/-- A new root that is no item leaves the items. -/
theorem sameItems_addRoot (doc : Document) {node : Node} (plain : node.tag ≠ .item) :
    doc.SameItems (doc.addRoot node) := by
  intro id
  rw [tag?_addRoot]
  split
  · rename_i last
    simp [last, tag?_size, plain]
  · rfl

/-- A new child that is no item leaves the items. -/
theorem sameItems_addChild (doc : Document) (parent : Nat) {node : Node}
    (plain : node.tag ≠ .item) : doc.SameItems (doc.addChild parent node) := by
  intro id
  by_cases lt : parent < doc.size
  · rw [tag?_addChild doc lt]
    split
    · rename_i last
      simp [last, tag?_size, plain]
    · rfl
  · rw [addChild, dif_neg lt]

/-- News of an item make no other node one. -/
theorem sameItems_mapItem (doc : Document) (item : Nat) (f : ItemInfo → ItemInfo) :
    doc.SameItems (doc.mapItem item f) := fun id => by rw [tag?_mapItem]

theorem sameItems_mapFile (doc : Document) (file : Nat) (f : FileInfo → FileInfo) :
    doc.SameItems (doc.mapFile file f) := fun id => by rw [tag?_mapFile]

end Document

namespace Walk

variable {base : Nat} {w after : Walk} {block : Block}

/-- The same item is open, and there is no further item. -/
structure KeepsItems (w after : Walk) : Prop where
  item : after.scope.item = w.scope.item
  items : w.document.SameItems after.document

theorem KeepsItems.refl (w : Walk) : w.KeepsItems w := ⟨rfl, .refl _⟩

theorem KeepsItems.trans {mid : Walk} (first : w.KeepsItems mid) (second : mid.KeepsItems after) :
    w.KeepsItems after :=
  ⟨second.item.trans first.item, first.items.trans second.items⟩

/-- Closing the item leaves none open. -/
theorem item_closeItem (w : Walk) : w.closeItem.scope.item = none := by
  unfold closeItem
  split
  · assumption
  · rfl

/-! ## Leaves -/

/-- A File that is made up is no item. -/
theorem ensureFile_keepsItems (w : Walk) (origin : Origin) :
    w.KeepsItems (w.ensureFile origin).1 := by
  unfold ensureFile
  split
  · exact .refl w
  · have plain : (placeholder origin).tag ≠ .item := nofun
    exact ⟨rfl, w.document.sameItems_addRoot plain⟩

/-- An image goes to the open item and leaves it open. -/
theorem addImage_keepsItems (w : Walk) (kind : LeafKind) (block : Block) :
    w.KeepsItems (w.addImage kind block).1 := by
  unfold addImage
  split
  · exact .refl w
  · exact ⟨rfl, w.document.sameItems_addChild _ kind.tag_ne_item⟩

theorem addImages_keepsItems (w : Walk) (title : String) (kind : LeafKind) (block : Block) :
    w.KeepsItems (w.addImages title kind block).1 := by
  unfold addImages
  split
  · exact .refl w
  · rename_i item opened
    refine ⟨rfl, ?_⟩
    have plain : ∀ node ∈ imageNodes title kind block, node.tag ≠ .item := by
      intro node mem
      obtain ⟨line, -, rfl⟩ := List.mem_map.mp mem
      exact kind.tag_ne_item
    simp only
    generalize imageNodes title kind block = nodes at plain
    generalize w.document = doc
    induction nodes generalizing doc with
    | nil => exact .refl doc
    | cons node rest ih =>
      exact (doc.sameItems_addChild item (plain node (List.mem_cons_self ..))).trans
        (ih (fun other mem => plain other (List.mem_cons_of_mem _ mem)) _)

/-- A list of words goes to the open item and leaves it open. -/
theorem addWordList_keepsItems (w : Walk) (list : WordList) (block : Block) :
    w.KeepsItems (w.addWordList list block).1 := by
  unfold addWordList
  split
  · exact .refl w
  · have plain : (block.node (WordList.kind list)).tag ≠ .item := by cases list <;> nofun
    exact ⟨rfl, (w.document.sameItems_addChild _ plain).trans
      (Document.sameItems_mapItem _ _ _)⟩

/-- Finding a place may make up a File, and no item. -/
theorem placeFor_keepsItems (w : Walk) (rule : Rule) (origin : Origin) :
    w.KeepsItems (w.placeFor rule origin).1 := by
  unfold placeFor
  split
  · exact .refl w
  · exact .refl w
  · exact ensureFile_keepsItems w origin
  · exact .refl w

/-- A hook changes what is known of an item, at most. -/
theorem runHook_keepsItems (w : Walk) (hook : Option Hook) (parent : Nat) (block : Block)
    (aliases : List String) : w.KeepsItems (w.runHook hook parent block aliases) := by
  unfold runHook
  split
  · exact .refl w
  · exact ⟨rfl, Document.sameItems_mapItem _ _ _⟩
  · induction aliases generalizing w with
    | nil => exact .refl w
    | cons name rest ih =>
      refine KeepsItems.trans ?_ (ih _)
      unfold addAlias
      split
      · exact .refl w
      · exact ⟨rfl, Document.sameItems_mapItem _ _ _⟩

/-- **A block with a rule** adds a leaf, and no item. -/
theorem addRegistered_keepsItems (w : Walk) (rule : Rule) (block : Block) :
    w.KeepsItems (w.addRegistered rule block).1 := by
  have placed := placeFor_keepsItems w rule block.origin
  unfold addRegistered
  generalize w.placeFor rule block.origin = place at placed
  obtain ⟨w', parent⟩ := place
  cases parent with
  | none => exact placed
  | some parent =>
    simp only
    split
    · exact placed
    · rename_i block' shape
      have plain : (block'.node (.leaf rule.kind)).tag ≠ .item := rule.kind.tag_ne_item
      split
      · exact placed
      · -- the node is a leaf, and no hook touches the scope or makes an item
        refine placed.trans (KeepsItems.trans ?_ (runHook_keepsItems _ _ _ _ _))
        exact ⟨rfl, w'.document.sameItems_addChild parent plain⟩

/-- **A leaf neither opens nor closes nor adds an item.** -/
theorem addLeaf_keepsItems (w : Walk) (block : Block) : w.KeepsItems (w.addLeaf block).1 := by
  unfold addLeaf
  split
  · exact addImage_keepsItems w _ block
  · exact addImages_keepsItems w _ _ block
  · split
    · exact addRegistered_keepsItems w _ block
    · split
      · exact addWordList_keepsItems w _ block
      · exact .refl w

/-- Acting on a verdict leaves the document alone. -/
theorem document_settle (block : Block) (handled : Walk × Verdict) :
    (settle block handled).document = handled.1.document := by
  obtain ⟨w, verdict⟩ := handled
  cases verdict <;> rfl

theorem settle_keepsItems {handled : Walk × Verdict} (keeps : w.KeepsItems handled.1) :
    w.KeepsItems (settle block handled) := by
  obtain ⟨w', verdict⟩ := handled
  cases verdict with
  | accepted => exact keeps
  | dropped => exact keeps
  | rejected cause => exact ⟨keeps.item, keeps.items⟩

/-- Any number of leaves add no item. -/
theorem foldl_addLeaf_keepsItems (leaves : List Block) (w : Walk) :
    w.KeepsItems (leaves.foldl (fun w leaf => settle leaf (w.addLeaf leaf)) w) := by
  induction leaves generalizing w with
  | nil => exact .refl w
  | cons leaf rest ih => exact (settle_keepsItems (addLeaf_keepsItems w leaf)).trans (ih _)

/-! ## Items -/

/-- A section that is made up is no item. -/
theorem ensureSect_sameItems (w : Walk) (origin : Origin) :
    w.document.SameItems (w.ensureSect origin).1.document := by
  have filed := (ensureFile_keepsItems w origin).items
  unfold ensureSect
  generalize w.ensureFile origin = ensured at filed
  obtain ⟨w', file⟩ := ensured
  simp only
  split
  · exact filed
  · exact filed.trans (Document.sameItems_addChild _ _ nofun)

/-- The containers that an item needs are no items, and preparing for an item closes the one that
    is open. -/
theorem prepareItem_item (w : Walk) (origin : Origin) :
    w.document.SameItems (w.prepareItem origin).1.document
      ∧ (w.prepareItem origin).1.scope.item = none :=
  ⟨ensureSect_sameItems w origin, rfl⟩

/-- An item that is added under an open container is the one new item. -/
theorem addItem_items {container : Nat} (opened : w.scope.subsect.or w.scope.sect = some container)
    (sound : w.Sound base) (block : Block) (id : Nat) :
    (w.addItem container block).document.tag? id = some .item
      ↔ id = w.document.size ∨ w.document.tag? id = some .item := by
  show (w.document.addChild container (block.node (.item {}))).tag? id = some .item ↔ _
  rw [Document.tag?_addChild _ (Scope.Sound.container_lt sound opened)]
  by_cases last : id = w.document.size
  · simp only [last, if_true, true_or, iff_true]
    rfl
  · simp only [last, if_false, false_or]

/-- The walk when an item block has been found good: the item is open, and the headings of its body
    are still to come. -/
def startItem (w : Walk) (block : Block) : Walk :=
  (w.prepareItem block.origin).1.addItem (w.prepareItem block.origin).2
    { block with body := (splitAtHeadings block.origin 0 block.body).1 }

/-- An item that is turned down leaves the containers made up for it. -/
theorem openItem_of_cause {cause : Cause}
    (refused : (w.prepareItem block.origin).1.itemCause? block.subtitle = some cause) :
    w.openItem block = ((w.prepareItem block.origin).1, .rejected cause) := by
  simp only [openItem, refused]

/-- An item that is let in is started, and then the blocks under its headings are handled. -/
theorem openItem_of_passed
    (passed : (w.prepareItem block.origin).1.itemCause? block.subtitle = none) :
    w.openItem block
      = ((splitAtHeadings block.origin 0 block.body).2.foldl
          (fun w leaf => settle leaf (w.addLeaf leaf)) (w.startItem block), .accepted) := by
  simp only [openItem, passed, startItem]

/-- Starting an item is a sequence of moves, if its name is free. -/
theorem startItem_leads (sound : w.Sound base) (block : Block)
    (passed : (w.prepareItem block.origin).1.itemCause? block.subtitle = none) :
    w.Leads (w.startItem block) := by
  obtain ⟨leads, opened⟩ := prepareItem_leads sound block.origin
  obtain ⟨named, free⟩ := of_itemCause?_eq_none passed
  exact leads.tail (.item _ { block with body := _ } opened trivial trivial named free)

theorem startItem_sound (sound : w.Sound base) (block : Block)
    (passed : (w.prepareItem block.origin).1.itemCause? block.subtitle = none) :
    (w.startItem block).Sound base :=
  (startItem_leads sound block passed).sound sound

/-- **An item block that is accepted** adds one item, and leaves it open. -/
theorem openItem_opens (sound : w.Sound base) (block : Block)
    (passed : (w.prepareItem block.origin).1.itemCause? block.subtitle = none) :
    ∃ id, w.document.size ≤ id ∧ (w.startItem block).scope.item = some id
      ∧ (w.openItem block).1.scope.item = some id
      ∧ ∀ i, (w.openItem block).1.document.tag? i = some .item
          ↔ i = id ∨ w.document.tag? i = some .item := by
  obtain ⟨leads, opened⟩ := prepareItem_leads sound block.origin
  have kept := foldl_addLeaf_keepsItems (splitAtHeadings block.origin 0 block.body).2
    (w.startItem block)
  rw [openItem_of_passed passed]
  refine ⟨(w.prepareItem block.origin).1.document.size, (leads.grows sound).size_le, rfl,
    kept.item, fun i => ?_⟩
  rw [kept.items i, startItem, addItem_items opened (Moves.sound leads sound),
    (prepareItem_item w block.origin).1 i]

/-- The open item after an item block is the one that the block added. -/
theorem openItem_item_iff (sound : w.Sound base) (block : Block) (id : Nat) :
    (w.openItem block).1.scope.item = some id
      ↔ (w.openItem block).2 = .accepted ∧ w.document.size ≤ id
        ∧ (w.openItem block).1.document.tag? id = some .item := by
  cases passed : (w.prepareItem block.origin).1.itemCause? block.subtitle with
  | some cause =>
    rw [openItem_of_cause passed]
    simp [(prepareItem_item w block.origin).2]
  | none =>
    obtain ⟨opened, new, -, item, items⟩ := openItem_opens sound block passed
    have accepted : (w.openItem block).2 = .accepted := by rw [openItem_of_passed passed]
    rw [item, items, accepted]
    constructor
    · rintro ⟨⟩
      exact ⟨rfl, new, .inl rfl⟩
    · rintro ⟨-, later, rfl | old⟩
      · rfl
      · have := Document.lt_of_tag? old
        omega

/-- The headings of a body are handled one after the other, none of them changes what item is
    open. -/
theorem of_mem_headingsFrom {leaves : List Block} {h : Heading} (sound : w.Sound base)
    (mem : h ∈ w.headingsFrom leaves) : h.walk.Sound base ∧ w.KeepsItems h.walk := by
  induction leaves generalizing w with
  | nil => simp [headingsFrom] at mem
  | cons leaf rest ih =>
    rcases List.mem_cons.mp mem with rfl | later
    · exact ⟨sound, .refl w⟩
    · have moves : w.Leads (settle leaf (w.addLeaf leaf)) :=
        settle_moves (fun _ _ => trivial) (addLeaf_leads sound leaf)
      obtain ⟨sound, kept⟩ := ih (moves.sound sound) later
      exact ⟨sound, (settle_keepsItems (addLeaf_keepsItems w leaf)).trans kept⟩

/-- The headings are the blocks in order, and the last of them leads to where the blocks lead. -/
theorem headingsFrom_eq (w : Walk) (leaves : List Block) :
    (w.headingsFrom leaves).map (·.block) = leaves
      ∧ leaves.foldl (fun w leaf => settle leaf (w.addLeaf leaf)) w
          = ((w.headingsFrom leaves).getLast?.map (·.settled)).getD w := by
  induction leaves generalizing w with
  | nil => exact ⟨rfl, rfl⟩
  | cons leaf rest ih =>
    obtain ⟨blocks, last⟩ := ih (settle leaf (w.addLeaf leaf))
    rw [headingsFrom, List.map_cons, blocks, List.foldl_cons, last, List.getLast?_cons]
    refine ⟨rfl, ?_⟩
    cases (headingsFrom (settle leaf (w.addLeaf leaf)) rest).getLast? <;> rfl

/-- The headings of an item that is let in come after its start. -/
theorem headingsOf_of_passed
    (passed : (w.prepareItem block.origin).1.itemCause? block.subtitle = none) :
    w.headingsOf block
      = (w.startItem block).headingsFrom (splitAtHeadings block.origin 0 block.body).2 := by
  simp only [headingsOf, passed]
  rfl

/-- **The headings of an item block** are the blocks that its body holds, and the last of them leads
    to where the item block leads. -/
theorem openItem_headings
    (passed : (w.prepareItem block.origin).1.itemCause? block.subtitle = none) :
    (w.headingsOf block).map (·.block) = (splitAtHeadings block.origin 0 block.body).2
      ∧ (w.openItem block).1
          = ((w.headingsOf block).getLast?.map (·.settled)).getD (w.startItem block) := by
  rw [headingsOf_of_passed passed, openItem_of_passed passed]
  exact headingsFrom_eq _ _

/-- **A block under a heading** is handled while the item of its body is open. -/
theorem of_mem_headingsOf {h : Heading} (sound : w.Sound base) (mem : h ∈ w.headingsOf block) :
    (w.prepareItem block.origin).1.itemCause? block.subtitle = none ∧ h.walk.Sound base
      ∧ h.walk.scope.item = (w.startItem block).scope.item := by
  cases passed : (w.prepareItem block.origin).1.itemCause? block.subtitle with
  | some cause => simp [headingsOf, passed] at mem
  | none =>
    rw [headingsOf_of_passed passed] at mem
    obtain ⟨sound, kept⟩ := of_mem_headingsFrom (startItem_sound sound block passed) mem
    exact ⟨rfl, sound, kept.item⟩

/-! ## Any block -/

/-- Information on a File goes to no item. -/
theorem describeFile_keepsItems (w : Walk) (field : FileField) (block : Block) :
    w.KeepsItems (w.describeFile field block).1 := by
  unfold describeFile
  split
  · exact .refl w
  · have warned : w.KeepsItems (if field = .footnotes then w.warnFootnotes block else w) := by
      split
      · exact ⟨rfl, .refl _⟩
      · exact .refl w
    have filed := warned.trans (ensureFile_keepsItems _ block.origin)
    exact ⟨filed.item, filed.items.trans (Document.sameItems_mapFile _ _ _)⟩

/-- A block that is no item, and no section that is accepted, leaves the open item as it is. -/
theorem dispatch_keepsItems (sound : w.Sound base) (noItem : ¬ w.takesItem block.title)
    (noSect : ¬ ((TitleRole.ofTitle block.title = .sect ∨ TitleRole.ofTitle block.title = .subsect)
      ∧ (w.dispatch block).2 = .accepted)) : w.KeepsItems (w.dispatch block).1 := by
  have handler := w.dispatch_handler block
  generalize w.dispatch block = result at handler noSect
  cases handler with
  | define role =>
    unfold define
    split
    · exact .refl w
    · split
      · exact .refl w
      · exact ⟨rfl, .refl _⟩
  | configure directive role =>
    unfold configure
    split
    · exact .refl w
    · split
      · exact .refl w
      · exact ⟨rfl, .refl _⟩
  | file role =>
    unfold openFile
    split
    · exact .refl w
    · -- where no file is open there is no item either
      rename_i shut
      refine ⟨?_, w.document.sameItems_addRoot nofun⟩
      rw [Scope.Sound.eq_closed sound shut]
  | early awaits => exact .refl w
  | sect role => exact absurd ⟨.inl role, rfl⟩ noSect
  | subsect role =>
    unfold openSubsect at noSect ⊢
    split
    · exact .refl w
    · rename_i sect opened
      split
      · exact .refl w
      · rename_i named
        exact absurd ⟨.inr role, by simp [opened, named]⟩ noSect
  | describe field role => exact describeFile_keepsItems w field block
  | item takes => exact absurd takes noItem
  | leaf takes => exact addLeaf_keepsItems w block

/-- A section that is accepted leaves no item open. -/
theorem dispatch_sect_item
    (role : TitleRole.ofTitle block.title = .sect ∨ TitleRole.ofTitle block.title = .subsect)
    (accepted : (w.dispatch block).2 = .accepted) : (w.dispatch block).1.scope.item = none := by
  have handler := w.dispatch_handler block
  generalize w.dispatch block = result at handler accepted
  cases handler with
  | sect _ => rfl
  | subsect _ =>
    unfold openSubsect at accepted ⊢
    split
    · simp_all
    · split
      · simp_all
      · rfl
  | early awaits => simp at accepted
  | item takes => rcases role with role | role <;> simp [takesItem, role] at takes
  | leaf takes => rcases role with role | role <;> simp [takesLeaf, role] at takes
  | _ => simp_all

/-- A section that is accepted is no item, and the File that it asks for is none either. -/
theorem dispatch_sect_sameItems
    (role : TitleRole.ofTitle block.title = .sect ∨ TitleRole.ofTitle block.title = .subsect) :
    w.document.SameItems (w.dispatch block).1.document := by
  have handler := w.dispatch_handler block
  generalize w.dispatch block = result at handler
  cases handler with
  | early awaits => exact .refl _
  | sect _ =>
    exact (ensureFile_keepsItems w block.origin).items.trans (Document.sameItems_addChild _ _ nofun)
  | subsect _ =>
    unfold openSubsect
    split
    · exact .refl _
    · split
      · exact .refl _
      · exact Document.sameItems_addChild _ _ nofun
  | item takes => rcases role with role | role <;> simp [takesItem, role] at takes
  | leaf takes => rcases role with role | role <;> simp [takesLeaf, role] at takes
  | _ => simp_all

/-- **An item that a block adds** is that of an item block, which is accepted. -/
theorem dispatch_item_added (sound : w.Sound base) {id : Nat}
    (new : w.document.tag? id ≠ some .item)
    (found : (w.dispatch block).1.document.tag? id = some .item) :
    w.takesItem block.title ∧ (w.dispatch block).2 = .accepted ∧ w.document.size ≤ id := by
  by_cases takes : w.takesItem block.title
  · refine ⟨takes, ?_⟩
    rw [dispatch_of_takesItem takes] at found ⊢
    cases passed : (w.prepareItem block.origin).1.itemCause? block.subtitle with
    | some cause =>
      rw [openItem_of_cause passed] at found
      exact absurd (((prepareItem_item w block.origin).1 id).mp found) new
    | none =>
      obtain ⟨opened, le, -, -, items⟩ := openItem_opens sound block passed
      obtain rfl := ((items id).mp found).resolve_right new
      exact ⟨by rw [openItem_of_passed passed], le⟩
  · exfalso
    by_cases sect : (TitleRole.ofTitle block.title = .sect
        ∨ TitleRole.ofTitle block.title = .subsect) ∧ (w.dispatch block).2 = .accepted
    · exact new ((dispatch_sect_sameItems sect.1 id).mp found)
    · exact new (((dispatch_keepsItems sound takes sect).items id).mp found)

end Walk

/-! ## Headers that open and close -/

namespace Visit

variable {base : Nat} {v : Visit}

/-- The header is one of an item, and its body is well indented. -/
def ReachesItem (v : Visit) : Prop :=
  (∃ body, Body.ofLines v.rest = .ok body) ∧ v.walk.takesItem v.header.title

/-- The node is the item that the header adds. -/
def OpensItem (v : Visit) (id : Nat) : Prop :=
  v.ReachesItem ∧ v.verdict = .accepted ∧ v.walk.document.size ≤ id
    ∧ v.settled.document.tag? id = some .item

/-- The header is one of a section or a subsection, and is accepted. -/
def OpensSect (v : Visit) : Prop :=
  (TitleRole.ofTitle v.header.title = .sect ∨ TitleRole.ofTitle v.header.title = .subsect)
    ∧ v.verdict = .accepted

/-- The header ends the scope of every item before it. -/
def EndsScope (v : Visit) : Prop := v.ReachesItem ∨ v.OpensSect

/-- A header with a body ends as its block does. -/
theorem verdict_ok {body : List String} (h : Body.ofLines v.rest = .ok body) :
    v.verdict = (v.walk.dispatch (v.header.block body v.origin)).2 := by
  rw [verdict, handled, h]

/-- A refusal that is logged changes neither the scope nor the document. -/
theorem settled_of_dispatch {body : List String} (h : Body.ofLines v.rest = .ok body) :
    v.settled.scope = (v.walk.dispatch (v.header.block body v.origin)).1.scope
      ∧ v.settled.document = (v.walk.dispatch (v.header.block body v.origin)).1.document := by
  rw [Walk.settled_ok h]
  generalize v.walk.dispatch (v.header.block body v.origin) = handled
  obtain ⟨w, verdict⟩ := handled
  cases verdict <;> exact ⟨rfl, rfl⟩

/-- What an item header does to the open item. -/
theorem item_of_reachesItem (sound : v.walk.Sound base) (reaches : v.ReachesItem) (id : Nat) :
    v.settled.scope.item = some id ↔ v.OpensItem id := by
  obtain ⟨body, extracted⟩ := reaches.1
  have dispatched : v.walk.dispatch (v.header.block body v.origin)
      = v.walk.openItem (v.header.block body v.origin) := Walk.dispatch_of_takesItem reaches.2
  obtain ⟨scope, document⟩ := settled_of_dispatch extracted
  rw [OpensItem, verdict_ok extracted, scope, document, dispatched,
    Walk.openItem_item_iff sound]
  simp only [reaches, true_and]

/-- An item header that is accepted has been found good. -/
theorem OpensItem.passed {id : Nat} (opens : v.OpensItem id) :
    (v.walk.prepareItem v.origin).1.itemCause? v.header.subtitle = none := by
  obtain ⟨⟨⟨body, extracted⟩, takes⟩, accepted, -⟩ := opens
  let block := v.header.block body v.origin
  rw [verdict_ok extracted, Walk.dispatch_of_takesItem takes] at accepted
  cases cause : (v.walk.prepareItem block.origin).1.itemCause? block.subtitle with
  | none => exact cause
  | some refusal =>
    rw [Walk.openItem_of_cause cause] at accepted
    exact absurd accepted nofun

/-- **An item header that has been found good** adds the item, and then the headings of its body. -/
theorem settled_of_passed {body : List String} (extracted : Body.ofLines v.rest = .ok body)
    (takes : v.walk.takesItem v.header.title)
    (passed : (v.walk.prepareItem v.origin).1.itemCause? v.header.subtitle = none) :
    v.settled = (splitAtHeadings v.origin 0 body).2.foldl
      (fun w leaf => Walk.settle leaf (w.addLeaf leaf))
      (v.walk.startItem (v.header.block body v.origin)) := by
  let block := v.header.block body v.origin
  rw [Walk.settled_ok extracted, Walk.dispatch_of_takesItem takes,
    @Walk.openItem_of_passed v.walk block passed]
  rfl

/-- **The open item after a header** is the one that the header opened, or the one before, if the
    header does not end its scope. -/
theorem item_settled_iff (sound : v.walk.Sound base) (id : Nat) :
    v.settled.scope.item = some id
      ↔ v.OpensItem id ∨ ¬ v.EndsScope ∧ v.walk.scope.item = some id := by
  by_cases reaches : v.ReachesItem
  · simp only [item_of_reachesItem sound reaches, EndsScope, reaches, true_or, not_true, false_and,
      or_false]
  have closed : ¬ v.OpensItem id := fun opens => reaches opens.1
  simp only [closed, EndsScope, reaches, false_or]
  cases extracted : Body.ofLines v.rest with
  | error n =>
    have noSect : ¬ v.OpensSect := by simp [OpensSect, verdict, handled, extracted]
    have settled : v.settled = v.walk.fail v.header.title v.origin .underIndented := by
      rw [settled, handled, extracted]
    simp only [noSect, not_false_eq_true, true_and, settled]
    rfl
  | ok body =>
    have plain : ¬ v.walk.takesItem v.header.title :=
      fun takes => reaches ⟨⟨body, extracted⟩, takes⟩
    rw [(settled_of_dispatch extracted).1]
    by_cases sect : v.OpensSect
    · obtain ⟨role, accepted⟩ := sect
      have item : (v.walk.dispatch (v.header.block body v.origin)).1.scope.item = none :=
        Walk.dispatch_sect_item role (verdict_ok extracted ▸ accepted)
      simp [item, OpensSect, role, accepted]
    · have kept : v.walk.KeepsItems (v.walk.dispatch (v.header.block body v.origin)).1 :=
        Walk.dispatch_keepsItems sound plain (verdict_ok extracted ▸ sect)
      simp only [kept.item, sect, not_false_eq_true, true_and]

/-- **After a body** the item stays open if the next line is a comment. -/
theorem item_left (v : Visit) (id : Nat) :
    v.left.scope.item = some id
      ↔ v.settled.scope.item = some id ∧ (v.rest.drop v.taken).head?.any Body.isComment := by
  unfold left taken
  split
  · rename_i n under
    exact ⟨fun opened => ⟨opened, Body.isComment_of_ofLines_error under⟩, And.left⟩
  · split
    · rename_i comment
      exact ⟨fun opened => ⟨opened, comment⟩, And.left⟩
    · rename_i code
      rw [Walk.item_closeItem]
      exact ⟨nofun, fun both => absurd both.2 code⟩

/-- An item that has been added at a header is the one that the header opened. -/
theorem opensItem_of_added (sound : v.walk.Sound base) {id : Nat}
    (new : v.walk.document.tag? id ≠ some .item)
    (found : v.settled.document.tag? id = some .item) : v.OpensItem id := by
  cases extracted : Body.ofLines v.rest with
  | error n =>
    rw [settled, handled, extracted] at found
    exact absurd found new
  | ok body =>
    have added := found
    rw [(settled_of_dispatch extracted).2] at added
    obtain ⟨takes, accepted, le⟩ := Walk.dispatch_item_added sound new added
    exact ⟨⟨⟨body, extracted⟩, takes⟩, (verdict_ok extracted).trans accepted, le, found⟩

/-- **The blocks under the headings** of a header's body are handled while the header's item is
    open. -/
theorem of_mem_headings (sound : v.walk.Sound base) {h : Heading} (mem : h ∈ v.headings) :
    h.walk.Sound base ∧ ∃ item, v.OpensItem item ∧ h.walk.scope.item = some item := by
  unfold headings at mem
  split at mem
  · simp at mem
  · rename_i body extracted
    split at mem
    · rename_i takes
      obtain ⟨passed, inner, same⟩ := Walk.of_mem_headingsOf sound mem
      obtain ⟨item, -, started, opened, -⟩ := Walk.openItem_opens sound _ passed
      refine ⟨inner, item, ?_, same.trans started⟩
      have dispatched : v.walk.dispatch (v.header.block body v.origin)
          = v.walk.openItem (v.header.block body v.origin) := Walk.dispatch_of_takesItem takes
      rw [← item_of_reachesItem sound ⟨⟨body, extracted⟩, takes⟩,
        (settled_of_dispatch extracted).1, dispatched, opened]
    · simp at mem

end Visit

end DocComments
