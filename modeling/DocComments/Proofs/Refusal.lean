/-
  What is left of a block that is refused.

  Some blocks have containers opened for them before they are examined: an item asks for a section,
  and a leaf without a place of its own asks for a File.  `readyFor` is the walk with these open, and
  it is exactly what a refusal leaves (`dispatch_rejected_eq`, `addLeaf_rejected_eq`).  So a refusal
  adds nothing to the tree but such containers (`readyFor_document_iff`), and touches nothing else at
  all (`readyFor_undisturbed`): not the names, not the rules, not the settings, and of the nodes that
  were there at most the list of children.
-/
import DocComments.Proofs.OpenItem

namespace DocComments

/-! ## Nodes that stay -/

/-- The nodes are still there, at most with other children. -/
def Document.Retains (doc after : Document) : Prop :=
  ∀ id node, doc.node? id = some node → ∃ children, after.node? id = some { node with children }

namespace Document

theorem Retains.refl (doc : Document) : doc.Retains doc :=
  fun _ node found => ⟨node.children, found⟩

theorem Retains.trans {doc mid after : Document} (first : doc.Retains mid)
    (second : mid.Retains after) : doc.Retains after := by
  intro id node found
  obtain ⟨others, kept⟩ := first id node found
  obtain ⟨children, kept⟩ := second id _ kept
  exact ⟨children, kept⟩

/-- A new root leaves every node as it was. -/
theorem retains_addRoot (doc : Document) (node : Node) : doc.Retains (doc.addRoot node) := by
  intro id old found
  refine ⟨old.children, ?_⟩
  rw [node?_addRoot, if_neg (Nat.ne_of_lt (lt_of_node? found)), found]

/-- A new child adds itself to the children of its parent, and changes no other node. -/
theorem retains_addChild (doc : Document) (parent : Nat) (node : Node) :
    doc.Retains (doc.addChild parent node) := by
  intro id old found
  by_cases lt : parent < doc.size
  · rw [node?_addChild doc lt, if_neg (Nat.ne_of_lt (lt_of_node? found)), found, Option.map_some]
    split
    · exact ⟨old.children ++ [doc.size], rfl⟩
    · exact ⟨old.children, rfl⟩
  · rw [addChild, dif_neg lt]
    exact ⟨old.children, found⟩

end Document

/-! ## The containers that are opened ahead -/

namespace Walk

variable {base : Nat} {w after : Walk} {block : Block} {cause : Cause}

/-- The walk when a leaf is examined. -/
def readyForLeaf (w : Walk) (title : String) (origin : Origin) : Walk :=
  match w.registry.lookup? title with
  | none => w
  | some rule => (w.placeFor rule origin).1

/-- The walk when a block is examined. -/
def readyFor (w : Walk) (title : String) (origin : Origin) : Walk :=
  if w.takesItem title then (w.prepareItem origin).1
  else if w.takesLeaf title then w.readyForLeaf title origin
  else w

/-- A leaf with this title has a placeholder File opened for it. -/
def leafOpensAhead (w : Walk) (title : String) : Bool :=
  w.scope.parent.isNone && (w.registry.lookup? title).any (·.parent.isNone)

/-- A block with this title has a container opened for it before it is examined. -/
def opensAhead (w : Walk) (title : String) : Bool :=
  w.takesItem title && w.scope.sect.isNone || w.takesLeaf title && w.leafOpensAhead title

/-! ## What a refusal leaves -/

/-- A refused block with a rule has been placed, and nothing else has been done with it. -/
theorem addRegistered_rejected_eq {rule : Rule}
    (h : w.addRegistered rule block = (after, .rejected cause)) :
    after = (w.placeFor rule block.origin).1 := by
  unfold addRegistered at h
  generalize w.placeFor rule block.origin = place at h
  obtain ⟨w', parent⟩ := place
  cases parent with
  | none => simp at h
  | some parent =>
    simp only at h
    split at h
    · cases h
      rfl
    · split at h
      · cases h
        rfl
      · simp at h

/-- **A refused leaf** leaves the walk as it was when the leaf was examined. -/
theorem addLeaf_rejected_eq (h : w.addLeaf block = (after, .rejected cause)) :
    after = w.readyForLeaf block.title block.origin := by
  unfold addLeaf at h
  split at h
  · unfold addImage at h
    split at h <;> simp at h
  · unfold addImages at h
    split at h <;> simp at h
  · split at h
    · rename_i rule found
      rw [addRegistered_rejected_eq h, readyForLeaf, found]
    · rename_i unknown
      rw [readyForLeaf, unknown]
      split at h
      · unfold addWordList at h
        split at h <;> simp at h
      · cases h
        rfl

/-- Nothing is opened ahead for blocks that are neither items nor leaves. -/
theorem readyFor_of_role (noItem : TitleRole.ofTitle block.title ≠ .item)
    (noLeaf : TitleRole.ofTitle block.title ≠ .leaf) :
    w.readyFor block.title block.origin = w := by
  simp [readyFor, takesItem, takesLeaf, noItem, noLeaf]

/-- **A refused block** leaves the walk as it was when the block was examined. -/
theorem dispatch_rejected_eq (h : w.dispatch block = (after, .rejected cause)) :
    after = w.readyFor block.title block.origin := by
  -- only items and leaves have anything opened for them; the other handlers examine first
  have handler := w.dispatch_handler block
  generalize w.dispatch block = result at handler h
  cases handler with
  | define role =>
    rw [readyFor_of_role (by simp [role]) (by simp [role])]
    unfold define at h
    split at h
    · exact (congrArg Prod.fst h).symm
    · split at h
      · exact (congrArg Prod.fst h).symm
      · simp at h
  | configure directive role =>
    rw [readyFor_of_role (by simp [role]) (by simp [role])]
    unfold configure at h
    split at h
    · exact (congrArg Prod.fst h).symm
    · split at h
      · exact (congrArg Prod.fst h).symm
      · simp at h
  | file role =>
    rw [readyFor_of_role (by simp [role]) (by simp [role])]
    unfold openFile at h
    split at h
    · exact (congrArg Prod.fst h).symm
    · simp at h
  | early awaits =>
    simp only [readyFor, takesItem, takesLeaf, awaits, Bool.not_true, Bool.and_false]
    exact (congrArg Prod.fst h).symm
  | sect role => simp [openSect] at h
  | subsect role =>
    rw [readyFor_of_role (by simp [role]) (by simp [role])]
    unfold openSubsect at h
    split at h
    · exact (congrArg Prod.fst h).symm
    · split at h
      · exact (congrArg Prod.fst h).symm
      · simp at h
  | describe field role =>
    rw [readyFor_of_role (by simp [role]) (by simp [role])]
    unfold describeFile at h
    split at h
    · exact (congrArg Prod.fst h).symm
    · simp at h
  | item takes =>
    rw [readyFor, if_pos takes]
    cases passed : (w.prepareItem block.origin).1.itemCause? block.subtitle with
    | some cause' =>
      rw [openItem_of_cause passed] at h
      exact (congrArg Prod.fst h).symm
    | none =>
      rw [openItem_of_passed passed] at h
      simp at h
  | leaf takes =>
    rw [readyFor, if_neg (not_takesItem_of_takesLeaf takes), if_pos takes]
    exact addLeaf_rejected_eq h

/-! ## Nothing else is touched -/

/-- The walks are the same but for what is open and for nodes that were added; only the children of
    a node that was there may be others. -/
structure Undisturbed (w after : Walk) : Prop where
  mode : after.mode = w.mode
  project : after.project = w.project
  registry : after.registry = w.registry
  index : after.index = w.index
  nodes : w.document.Retains after.document

theorem Undisturbed.refl (w : Walk) : w.Undisturbed w := ⟨rfl, rfl, rfl, rfl, .refl _⟩

/-- A File that is made up disturbs nothing and is not logged. -/
theorem ensureFile_undisturbed (w : Walk) (origin : Origin) :
    w.Undisturbed (w.ensureFile origin).1 ∧ (w.ensureFile origin).1.log = w.log := by
  unfold ensureFile
  split
  · exact ⟨.refl w, rfl⟩
  · exact ⟨⟨rfl, rfl, rfl, rfl, w.document.retains_addRoot _⟩, rfl⟩

/-- The containers that are made up for an item disturb nothing and are not logged. -/
theorem prepareItem_undisturbed (w : Walk) (origin : Origin) :
    w.Undisturbed (w.prepareItem origin).1 ∧ (w.prepareItem origin).1.log = w.log := by
  obtain ⟨filed, log⟩ := ensureFile_undisturbed w origin
  simp only [prepareItem, ensureSect]
  generalize w.ensureFile origin = ensured at filed log
  obtain ⟨w', file⟩ := ensured
  simp only
  split
  · exact ⟨⟨filed.mode, filed.project, filed.registry, filed.index, filed.nodes⟩, log⟩
  · exact ⟨⟨filed.mode, filed.project, filed.registry, filed.index,
      filed.nodes.trans (w'.document.retains_addChild file _)⟩, log⟩

/-- **What is opened ahead of a leaf** disturbs nothing and is not logged. -/
theorem readyForLeaf_undisturbed (w : Walk) (title : String) (origin : Origin) :
    w.Undisturbed (w.readyForLeaf title origin) ∧ (w.readyForLeaf title origin).log = w.log := by
  unfold readyForLeaf
  split
  · exact ⟨.refl w, rfl⟩
  · unfold placeFor
    split
    · exact ⟨.refl w, rfl⟩
    · exact ⟨.refl w, rfl⟩
    · exact ensureFile_undisturbed w origin
    · exact ⟨.refl w, rfl⟩

/-- **What is opened ahead of a block** disturbs nothing and is not logged. -/
theorem readyFor_undisturbed (w : Walk) (title : String) (origin : Origin) :
    w.Undisturbed (w.readyFor title origin) ∧ (w.readyFor title origin).log = w.log := by
  unfold readyFor
  split
  · exact prepareItem_undisturbed w origin
  · split
    · exact readyForLeaf_undisturbed w title origin
    · exact ⟨.refl w, rfl⟩

/-! ## Whether anything is added -/

/-- A File is made up exactly where none is open. -/
theorem ensureFile_document_iff (w : Walk) (origin : Origin) :
    (w.ensureFile origin).1.document = w.document ↔ w.scope.file ≠ none := by
  unfold ensureFile
  split
  · rename_i opened
    simp [opened]
  · rename_i shut
    simp only [shut, ne_eq, not_true, iff_false]
    intro same
    have := congrArg Document.size same
    simp at this

/-- Preparing for an item adds nothing where a section is open, and a section where none is. -/
theorem prepareItem_document_iff (sound : w.Sound base) (origin : Origin) :
    (w.prepareItem origin).1.document = w.document ↔ w.scope.sect ≠ none := by
  cases opened : w.scope.sect with
  | some sect =>
    obtain ⟨file, filed⟩ := Scope.Sound.file_of_sect sound opened
    simp [prepareItem, ensureSect, ensureFile, filed, opened]
  | none =>
    obtain ⟨leads, filed⟩ := ensureFile_leads sound origin
    have grown := (leads.grows sound).size_le
    have lt := Scope.Sound.file_lt (leads.sound sound) filed
    have sect : (w.ensureFile origin).1.scope.sect = none := by
      unfold ensureFile
      split <;> exact opened
    simp only [ne_eq, not_true, iff_false]
    intro same
    have size := congrArg Document.size same
    simp only [prepareItem, ensureSect, sect, Document.size_addChild _ lt] at size
    omega

/-- A leaf that has a place, or a rule that asks for one, has no File made up. -/
theorem placeFor_of_place {rule : Rule} (h : w.scope.parent = none → rule.parent ≠ none)
    (origin : Origin) : (w.placeFor rule origin).1 = w := by
  unfold placeFor
  split
  · rfl
  · rfl
  · rename_i shut free
    exact absurd free (h shut)
  · rfl

/-- A leaf has nothing opened for it where anything is open. -/
theorem readyForLeaf_document_iff (sound : w.Sound base) (title : String) (origin : Origin) :
    (w.readyForLeaf title origin).document = w.document ↔ w.leafOpensAhead title = false := by
  unfold readyForLeaf leafOpensAhead
  cases w.registry.lookup? title with
  | none => simp
  | some rule =>
    by_cases free : w.scope.parent = none ∧ rule.parent = none
    · obtain ⟨shut, free⟩ := free
      have noFile := Scope.Sound.file_eq_none sound shut
      simpa [placeFor, shut, free, noFile] using ensureFile_document_iff w origin
    · simp only
      rw [placeFor_of_place (fun shut free' => free ⟨shut, free'⟩)]
      cases shut : w.scope.parent <;> cases free' : rule.parent <;> simp_all

/-- **What a block has opened for it** before it is examined. -/
theorem readyFor_document_iff (sound : w.Sound base) (title : String) (origin : Origin) :
    (w.readyFor title origin).document = w.document ↔ w.opensAhead title = false := by
  unfold readyFor opensAhead
  split
  · rename_i takes
    have noLeaf : w.takesLeaf title = false := by
      cases leaf : w.takesLeaf title with
      | false => rfl
      | true => exact absurd takes (not_takesItem_of_takesLeaf leaf)
    rw [prepareItem_document_iff sound]
    cases w.scope.sect <;> simp [takes, noLeaf]
  · rename_i noItem
    split
    · rename_i takes
      rw [readyForLeaf_document_iff sound]
      simp [noItem, takes]
    · rename_i noLeaf
      simp [noItem, noLeaf]

/-- What is opened ahead is a File or a section. -/
theorem ensureFile_added (w : Walk) (origin : Origin) {id : Nat} {tag : KindTag}
    (new : w.document.size ≤ id) (found : (w.ensureFile origin).1.document.tag? id = some tag) :
    tag = .file := by
  unfold ensureFile at found
  split at found
  · exact absurd (Document.lt_of_tag? found) (Nat.not_lt.mpr new)
  · rw [Document.tag?_addRoot] at found
    split at found
    · exact (Option.some.inj found).symm
    · exact absurd (Document.lt_of_tag? found) (Nat.not_lt.mpr new)

/-- The containers that are made up for an item are Files and sections. -/
theorem prepareItem_added (sound : w.Sound base) (origin : Origin) {id : Nat} {tag : KindTag}
    (new : w.document.size ≤ id) (found : (w.prepareItem origin).1.document.tag? id = some tag) :
    tag = .file ∨ tag = .sect := by
  obtain ⟨leads, filed⟩ := ensureFile_leads sound origin
  have lt := Scope.Sound.file_lt (leads.sound sound) filed
  simp only [prepareItem, ensureSect] at found
  split at found
  · exact .inl (ensureFile_added w origin new found)
  · rw [Document.tag?_addChild _ lt] at found
    split at found
    · exact .inr (Option.some.inj found).symm
    · exact .inl (ensureFile_added w origin new found)

/-- **What is opened ahead** are Files and sections. -/
theorem readyFor_added (sound : w.Sound base) {title : String} {origin : Origin} {id : Nat}
    {tag : KindTag} (new : w.document.size ≤ id)
    (found : (w.readyFor title origin).document.tag? id = some tag) :
    tag = .file ∨ tag = .sect := by
  have unchanged : w.document.tag? id ≠ some tag := fun old =>
    absurd (Document.lt_of_tag? old) (Nat.not_lt.mpr new)
  unfold readyFor at found
  split at found
  · exact prepareItem_added sound origin new found
  · split at found
    · unfold readyForLeaf placeFor at found
      split at found
      · exact absurd found unchanged
      · split at found
        · exact absurd found unchanged
        · exact absurd found unchanged
        · exact .inl (ensureFile_added w origin new found)
        · exact absurd found unchanged
    · exact absurd found unchanged

/-- A block is refused: the log has one more entry, a failure at the place of the block, and
    nothing else is disturbed. -/
structure Refused (w after : Walk) (title : String) (origin : Origin) (cause : Cause) : Prop where
  entries : after.log.entries
    = w.log.entries ++ [⟨origin, .failure, (Rejection.mk title cause).message⟩]
  undisturbed : w.Undisturbed after

/-- A failure that is logged after containers were made up is a refusal. -/
theorem refused_fail {ready : Walk} (h : w.Undisturbed ready ∧ ready.log = w.log) (title : String)
    (origin : Origin) (cause : Cause) :
    w.Refused (ready.fail title origin cause) title origin cause where
  entries := by rw [fail, Log.entries_fail, h.2]
  undisturbed := ⟨h.1.mode, h.1.project, h.1.registry, h.1.index, h.1.nodes⟩

end Walk

/-! ## At every header of a unit -/

namespace Visit

variable {v : Visit} {cause : Cause}

/-- The walk when the header's block is examined. -/
def ready (v : Visit) : Walk :=
  match Body.ofLines v.rest with
  | .error _ => v.walk
  | .ok _ => v.walk.readyFor v.header.title v.origin

/-- A header that is refused leaves what was opened ahead, and one FAIL. -/
theorem settled_of_rejected (refused : v.verdict = .rejected cause) :
    v.settled = v.ready.fail v.header.title v.origin cause := by
  rw [verdict, handled] at refused
  rw [settled, handled, ready]
  cases extracted : Body.ofLines v.rest with
  | error n =>
    simp only [extracted] at refused ⊢
    cases refused
    rfl
  | ok body =>
    simp only [extracted] at refused ⊢
    cases dispatched : v.walk.dispatch (v.header.block body v.origin) with
    | mk after verdict =>
      rw [dispatched] at refused
      cases refused
      rw [Walk.dispatch_rejected_eq dispatched]
      rfl

theorem ready_undisturbed (v : Visit) :
    v.walk.Undisturbed v.ready ∧ v.ready.log = v.walk.log := by
  unfold ready
  split
  · exact ⟨.refl _, rfl⟩
  · exact Walk.readyFor_undisturbed _ _ _

end Visit

/-- A heading that is refused leaves what was opened ahead of its block, and one FAIL. -/
theorem Heading.settled_of_rejected {h : Heading} {cause : Cause}
    (refused : h.verdict = .rejected cause) :
    h.settled = (h.walk.readyForLeaf h.block.title h.block.origin).fail h.block.title h.block.origin
      cause := by
  rw [verdict, handled] at refused
  rw [settled, handled]
  cases dispatched : h.walk.addLeaf h.block with
  | mk after verdict =>
    rw [dispatched] at refused
    cases refused
    rw [Walk.addLeaf_rejected_eq dispatched]
    rfl

/-! ## Lists that are taken as a whole -/

namespace Walk

variable {w : Walk} {block : Block}

/-- Finding a place takes no name. -/
theorem placeFor_index (w : Walk) (rule : Rule) (origin : Origin) :
    (w.placeFor rule origin).1.index = w.index := by
  unfold placeFor
  split
  · rfl
  · rfl
  · exact (ensureFile_undisturbed w origin).1.index
  · rfl

/-- A block that lists a taken name registers none. -/
theorem addRegistered_index_of_taken (rule : Rule) {name : String}
    (listed : name ∈ Text.entriesOf block.subtitle) (taken : w.index.contains name) :
    (w.addRegistered rule block).1.index = w.index := by
  have kept := placeFor_index w rule block.origin
  unfold addRegistered
  generalize w.placeFor rule block.origin = place at kept
  obtain ⟨w', parent⟩ := place
  cases parent with
  | none => exact kept
  | some parent =>
    simp only at kept ⊢
    split
    · exact kept
    · rename_i block' shape
      split
      · exact kept
      · rename_i names examined
        cases hook : rule.hook with
        | none => exact kept
        | some hook' =>
          cases hook' with
          | status => exact kept
          | aliases =>
            simp only [aliasesOf, hook] at examined
            obtain ⟨given, free⟩ := freeNames_eq_ok examined
            rcases shaped_eq_ok shape with rfl | rfl
            · -- the block would not have passed the examination
              have open_ := free name (given ▸ List.mem_eraseDups.mpr listed)
              rw [kept] at open_
              simp [NameIndex.contains, open_] at taken
            · -- a text has no subtitle left to list anything
              obtain rfl : names = [] := by simpa [entriesOf_nil] using given
              exact kept

/-- **Aliases are taken together or not at all:** one that is taken already keeps the others out. -/
theorem dispatch_index_of_taken (title : block.title = "Alias" ∨ block.title = "Aliases")
    {name : String} (listed : name ∈ Text.entriesOf block.subtitle)
    (taken : w.index.contains name) : (w.dispatch block).1.index = w.index := by
  have role : TitleRole.ofTitle block.title = .leaf := by
    rcases title with same | same <;> rw [same] <;> rfl
  have leaf : LeafRole.ofTitle block.title = .plain := by
    rcases title with same | same <;> rw [same] <;> rfl
  simp only [dispatch, placeBlock, role]
  split
  · rfl
  · simp only [addLeaf, leaf]
    split
    · exact addRegistered_index_of_taken _ listed taken
    · rfl

/-- One pattern that cannot be read spoils the list. -/
theorem readPatterns_error {texts : List String} {text : String} (mem : text ∈ texts)
    (bad : FilePattern.ofText? text = none) : ∃ cause, readPatterns texts = .error cause := by
  induction texts with
  | nil => simp at mem
  | cons first rest ih =>
    rw [readPatterns]
    split
    · exact ⟨_, rfl⟩
    · rename_i pattern read
      rcases List.mem_cons.mp mem with rfl | later
      · simp [bad] at read
      · obtain ⟨cause, failed⟩ := ih later
        exact ⟨cause, by rw [failed]⟩

/-- One name that is unknown spoils the list. -/
theorem readDocKinds_error {names : List String} {name : String} (mem : name ∈ names)
    (unknown : DocKind.ofName? name = none) : ∃ cause, readDocKinds names = .error cause := by
  induction names with
  | nil => simp at mem
  | cons first rest ih =>
    rw [readDocKinds]
    split
    · exact ⟨_, rfl⟩
    · rename_i kind read
      rcases List.mem_cons.mp mem with rfl | later
      · simp [unknown] at read
      · obtain ⟨cause, failed⟩ := ih later
        exact ⟨cause, by rw [failed]⟩

/-- Settings that cannot be applied change nothing. -/
theorem configure_project_of_error {directive : Directive} {cause : Cause}
    (failed : w.project.apply directive block.subtitle block.body = .error cause) :
    (w.configure directive block).1.project = w.project := by
  unfold configure
  split
  · rfl
  · rw [failed]

/-- **Patterns are set together or not at all.** -/
theorem dispatch_project_of_badPattern (title : block.title = "IgnoreFiles") {text : String}
    (listed : text ∈ listedIn block.subtitle block.body)
    (bad : FilePattern.ofText? text = none) : (w.dispatch block).1.project = w.project := by
  have role : TitleRole.ofTitle block.title = .directive .ignoreFiles := by rw [title]; rfl
  obtain ⟨cause, failed⟩ := readPatterns_error listed bad
  simp only [dispatch, role]
  have refused : w.project.apply .ignoreFiles block.subtitle block.body = .error cause := by
    simp [Project.apply, failed, Except.map]
  exact configure_project_of_error refused

/-- **Kinds of documentation are set together or not at all.** -/
theorem dispatch_project_of_unknownKind (title : block.title = "GenerateDocs") {name : String}
    (listed : name ∈ Text.entriesOf block.subtitle) (unknown : DocKind.ofName? name = none) :
    (w.dispatch block).1.project = w.project := by
  have role : TitleRole.ofTitle block.title = .directive .generateDocs := by rw [title]; rfl
  obtain ⟨cause, failed⟩ := readDocKinds_error listed unknown
  simp only [dispatch, role]
  cases single : Project.singleValue block.subtitle block.body with
  | error other =>
    have refused : w.project.apply .generateDocs block.subtitle block.body = .error other := by
      simp [Project.apply, single, bind, Except.bind]
    exact configure_project_of_error refused
  | ok value =>
    have same : value = block.subtitle := by
      unfold Project.singleValue at single
      split at single
      · simp at single
      · split at single
        · simp at single
        · exact (Except.ok.inj single).symm
    have refused : w.project.apply .generateDocs block.subtitle block.body = .error cause := by
      simp [Project.apply, single, same, failed, bind, Except.bind]
    exact configure_project_of_error refused

end Walk

/-! ## Every unit -/

namespace Session

variable {s : Session} {file : String} {lines : List String} {v : Visit}

/-- **What a refusal adds to the tree.**  A header that is refused adds no node unless a container
    was opened for it before it was examined, and then nothing but a File or a section; a block
    under a heading that is refused adds none at all. -/
theorem refused_document_iff (met : v ∈ s.visits file lines) :
    (∀ cause, v.verdict = .rejected cause →
        (v.settled.document = v.walk.document
            ↔ (∃ n, Body.ofLines v.rest = .error n) ∨ v.walk.opensAhead v.header.title = false)
          ∧ ∀ id tag, v.walk.document.size ≤ id → v.settled.document.tag? id = some tag →
              tag = .file ∨ tag = .sect)
      ∧ ∀ h ∈ v.headings, ∀ cause, h.verdict = .rejected cause →
          h.settled.document = h.walk.document := by
  have sound := visit_sound met
  constructor
  · intro cause refused
    have settled : v.settled.document = v.ready.document := by
      rw [v.settled_of_rejected refused]
      rfl
    rw [settled, Visit.ready]
    cases extracted : Body.ofLines v.rest with
    | error n =>
      refine ⟨by simp, fun id tag new found => ?_⟩
      exact absurd (Document.lt_of_tag? found) (Nat.not_lt.mpr new)
    | ok body =>
      simp only [reduceCtorEq, exists_false, false_or]
      exact ⟨Walk.readyFor_document_iff sound _ _, fun id tag => Walk.readyFor_added sound⟩
  · intro h mem cause refused
    obtain ⟨inner, item, -, opened⟩ := Visit.of_mem_headings sound mem
    have settled : h.settled.document
        = (h.walk.readyForLeaf h.block.title h.block.origin).document := by
      rw [h.settled_of_rejected refused]
      rfl
    -- an item is open, so there is a place for the leaf
    rw [settled, Walk.readyForLeaf_document_iff inner, Walk.leafOpensAhead,
      Scope.Sound.parent_of_item inner opened]
    rfl

/-- A second item of the same name is refused, and no node is left of it: the section of the first
    is open. -/
theorem refused_document_iff_redeclared :
    ∃ v, (({} : Session).visits "a" ["// Function: f()", "// Function: f()"])[1]? = some v
      ∧ v.verdict = .rejected (.redeclared "f()" ⟨"a", 1⟩)
      ∧ v.settled.document = v.walk.document := by
  have facts : (({} : Session).visits "a" ["// Function: f()", "// Function: f()"])[1]?.map
      (fun v => (v.verdict, v.walk.opensAhead v.header.title))
      = some (.rejected (.redeclared "f()" ⟨"a", 1⟩), false) := by decide +kernel
  obtain ⟨v, found, facts⟩ := Option.map_eq_some_iff.mp facts
  simp only [Prod.mk.injEq] at facts
  obtain ⟨refused, ahead⟩ := facts
  have added := (refused_document_iff (List.mem_of_getElem? found)).1 _ refused
  exact ⟨v, found, refused, added.1.mpr (.inr ahead)⟩

/-- An item without a name is refused, and leaves a File and a section behind. -/
theorem refused_item_leaves_containers :
    (({} : Session).visits "a" ["// Function:"]).map
        (fun v => (v.verdict, v.walk.document.nodes, v.settled.document.nodes.map (·.title)))
      = [(.rejected .missingSubtitle, [], ["LibFile", "Section"])] := by
  decide +kernel

/-- **A refusal is atomic.**  Whatever the block and whatever the reason, one entry is added to the
    log, a failure at the block's place; settings, rules and names are as before, and so is every
    node but for its children.  A block that lists names, patterns or kinds is taken as a whole or
    not at all. -/
theorem refused_atomic (s : Session) (file : String) (lines : List String) :
    (∀ v ∈ s.visits file lines,
        (∀ cause, v.verdict = .rejected cause →
            v.walk.Refused v.settled v.header.title v.origin cause)
          ∧ ∀ h ∈ v.headings, ∀ cause, h.verdict = .rejected cause →
              h.walk.Refused h.settled h.block.title h.block.origin cause)
      ∧ ∀ (w : Walk) (block : Block),
          (block.title = "Alias" ∨ block.title = "Aliases" →
              (∃ name ∈ Text.entriesOf block.subtitle, w.index.contains name) →
              (w.dispatch block).1.index = w.index)
            ∧ (block.title = "IgnoreFiles" →
                (∃ text ∈ listedIn block.subtitle block.body, FilePattern.ofText? text = none) →
                (w.dispatch block).1.project = w.project)
            ∧ (block.title = "GenerateDocs" →
                (∃ name ∈ Text.entriesOf block.subtitle, DocKind.ofName? name = none) →
                (w.dispatch block).1.project = w.project) := by
  refine ⟨fun v met => ⟨fun cause refused => ?_, fun h mem cause refused => ?_⟩,
    fun w block => ⟨?_, ?_, ?_⟩⟩
  · rw [v.settled_of_rejected refused]
    exact Walk.refused_fail v.ready_undisturbed _ _ _
  · rw [h.settled_of_rejected refused]
    exact Walk.refused_fail (Walk.readyForLeaf_undisturbed _ _ _) _ _ _
  · rintro title ⟨name, listed, taken⟩
    exact Walk.dispatch_index_of_taken title listed taken
  · rintro title ⟨text, listed, bad⟩
    exact Walk.dispatch_project_of_badPattern title listed bad
  · rintro title ⟨name, listed, unknown⟩
    exact Walk.dispatch_project_of_unknownKind title listed unknown

/-- A list of aliases with one name that is taken is refused, at its own place. -/
theorem refused_atomic_taken_alias :
    ∃ v, (({} : Session).visits "a" ["// Function: f()", "// Alias: b, f()"])[1]? = some v
      ∧ v.walk.Refused v.settled "Alias" ⟨"a", 2⟩ (.redeclared "f()" ⟨"a", 1⟩) := by
  have facts : (({} : Session).visits "a" ["// Function: f()", "// Alias: b, f()"])[1]?.map
      (fun v => (v.verdict, v.header.title, v.origin))
      = some (.rejected (.redeclared "f()" ⟨"a", 1⟩), "Alias", ⟨"a", 2⟩) := by decide +kernel
  obtain ⟨v, found, facts⟩ := Option.map_eq_some_iff.mp facts
  simp only [Prod.mk.injEq] at facts
  obtain ⟨rejected, title, origin⟩ := facts
  have refused := ((refused_atomic {} "a" _).1 v (List.mem_of_getElem? found)).1 _ rejected
  rw [title, origin] at refused
  exact ⟨v, found, refused⟩

end Session

end DocComments
