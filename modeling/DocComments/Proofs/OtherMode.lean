/-
  Handlers under another mode.

  Only two places look at the mode: a directive asks for the name of the configuration, and
  `dispatch` asks for strict mode.  Every other handler does the same thing under any mode, so it
  does not matter whether the mode is changed before it or after it (`addLeaf_inMode`,
  `openItem_inMode` and the others, in the order in which the handlers call each other).

  `dispatch` itself does the same in two modes that agree on the configuration, unless the one is
  strict and the block comes too early for it (`dispatch_inMode`).
-/
import DocComments.Proofs.Visits

namespace DocComments

/-- The session under another mode. -/
def Session.inMode (mode : Mode) (s : Session) : Session := { s with mode }

namespace Walk

/-- The walk under another mode. -/
def inMode (mode : Mode) (w : Walk) : Walk := { w with mode }

variable (mode : Mode) (w : Walk) (block : Block)

/-- Changing the mode leaves the scope, the rules and the names as they are. -/
theorem scope_inMode : (w.inMode mode).scope = w.scope := rfl

theorem registry_inMode : (w.inMode mode).registry = w.registry := rfl

theorem index_inMode : (w.inMode mode).index = w.index := rfl

/-- A change of the mode goes past what a handler returns besides the walk. -/
abbrev carry {α : Type} (h : Walk × α) : Walk × α := (h.1.inMode mode, h.2)

/-- A rejection is logged with its block, and the mode is not asked. -/
theorem settle_inMode (h : Walk × Verdict) :
    settle block (carry mode h) = (settle block h).inMode mode := by
  obtain ⟨w, verdict⟩ := h
  cases verdict <;> rfl

/-- An item ends in the same way under any mode. -/
theorem closeItem_inMode : (w.inMode mode).closeItem = w.closeItem.inMode mode := by
  unfold closeItem
  rw [scope_inMode]
  cases w.scope.item <;> rfl

/-! ## Containers -/

/-- A File is made up where none is open.  That strict mode forbids it is asked before, by
    `dispatch`. -/
theorem ensureFile_inMode (origin : Origin) :
    (w.inMode mode).ensureFile origin = carry mode (w.ensureFile origin) := by
  unfold ensureFile
  rw [scope_inMode]
  cases w.scope.file <;> rfl

/-- A File block opens its File under any mode, strict ones included. -/
theorem openFile_inMode : (w.inMode mode).openFile block = carry mode (w.openFile block) := by
  unfold openFile
  rw [scope_inMode]
  cases w.scope.file <;> rfl

/-- A section asks for its File only. -/
theorem openSect_inMode : (w.inMode mode).openSect block = carry mode (w.openSect block) := by
  simp only [openSect, ensureFile_inMode]
  rfl

/-- A subsection asks for the section that is open. -/
theorem openSubsect_inMode :
    (w.inMode mode).openSubsect block = carry mode (w.openSubsect block) := by
  unfold openSubsect
  rw [scope_inMode]
  cases w.scope.sect with
  | none => rfl
  | some sect =>
    simp only
    split <;> rfl

/-- A section is made up where none is open, and a File for it. -/
theorem ensureSect_inMode (origin : Origin) :
    (w.inMode mode).ensureSect origin = carry mode (w.ensureSect origin) := by
  simp only [ensureSect, ensureFile_inMode]
  generalize w.ensureFile origin = ensured
  obtain ⟨w', file⟩ := ensured
  simp only [carry, scope_inMode]
  cases w'.scope.sect <;> rfl

/-- Before an item, its section is made up and the last item ends. -/
theorem prepareItem_inMode (origin : Origin) :
    (w.inMode mode).prepareItem origin = carry mode (w.prepareItem origin) := by
  simp only [prepareItem, ensureSect_inMode]
  rfl

/-- Information on a File goes to the File alone; the warning on footnotes is logged under any mode.
    -/
theorem describeFile_inMode (field : FileField) :
    (w.inMode mode).describeFile field block = carry mode (w.describeFile field block) := by
  have warned : (if field = .footnotes then (w.inMode mode).warnFootnotes block
      else w.inMode mode)
        = (if field = .footnotes then w.warnFootnotes block else w).inMode mode := by
    split <;> rfl
  unfold describeFile
  split
  · rfl
  · simp only [warned, ensureFile_inMode]
    rfl

/-! ## Leaves -/

/-- An image asks for the open item only. -/
theorem addImage_inMode (kind : LeafKind) :
    (w.inMode mode).addImage kind block = carry mode (w.addImage kind block) := by
  unfold addImage
  rw [scope_inMode]
  cases w.scope.item <;> rfl

theorem addImages_inMode (title : String) (kind : LeafKind) :
    (w.inMode mode).addImages title kind block = carry mode (w.addImages title kind block) := by
  unfold addImages
  rw [scope_inMode]
  cases w.scope.item <;> rfl

theorem addWordList_inMode (list : WordList) :
    (w.inMode mode).addWordList list block = carry mode (w.addWordList list block) := by
  unfold addWordList
  rw [scope_inMode]
  cases w.scope.item <;> rfl

/-- A rule is looked at for the parent of its nodes, and the scope for where that is. -/
theorem placeFor_inMode (rule : Rule) (origin : Origin) :
    (w.inMode mode).placeFor rule origin = carry mode (w.placeFor rule origin) := by
  unfold placeFor
  rw [scope_inMode, ensureFile_inMode]
  cases w.scope.parent <;> cases rule.parent <;> rfl

theorem aliasesOf_inMode (hook : Option Hook) :
    (w.inMode mode).aliasesOf hook block = w.aliasesOf hook block := rfl

/-- An alias asks for the names that are taken. -/
theorem addAlias_inMode (item : Nat) (name : String) :
    addAlias item (w.inMode mode) name = (addAlias item w name).inMode mode := by
  unfold addAlias
  rw [index_inMode]
  cases w.index.register name item <;> rfl

/-- A hook takes the aliases one by one, so by induction on them. -/
theorem runHook_inMode (hook : Option Hook) (parent : Nat) (aliases : List String) :
    (w.inMode mode).runHook hook parent block aliases
      = (w.runHook hook parent block aliases).inMode mode := by
  unfold runHook
  split
  · rfl
  · rfl
  · induction aliases generalizing w with
    | nil => rfl
    | cons name rest ih =>
      rw [List.foldl_cons, addAlias_inMode, ih]
      rfl

/-- **A block with a rule** is placed, shaped and entered by its rule, which has no mode. -/
theorem addRegistered_inMode (rule : Rule) :
    (w.inMode mode).addRegistered rule block = carry mode (w.addRegistered rule block) := by
  simp only [addRegistered, placeFor_inMode]
  generalize w.placeFor rule block.origin = place
  obtain ⟨w', parent⟩ := place
  cases parent with
  | none => rfl
  | some parent =>
    simp only
    cases shaped rule.kind block with
    | error cause => rfl
    | ok shapedBlock =>
      simp only [aliasesOf_inMode]
      cases w'.aliasesOf rule.hook shapedBlock with
      | error cause => rfl
      | ok aliases =>
        simp only [carry]
        rw [← runHook_inMode]
        rfl

/-- **A block in an item** is handled by its title and its rule. -/
theorem addLeaf_inMode : (w.inMode mode).addLeaf block = carry mode (w.addLeaf block) := by
  unfold addLeaf
  rw [registry_inMode]
  cases LeafRole.ofTitle block.title with
  | image kind => exact addImage_inMode mode w block kind
  | images title kind => exact addImages_inMode mode w block title kind
  | words list =>
    cases w.registry.lookup? block.title with
    | some rule => exact addRegistered_inMode mode w block rule
    | none => exact addWordList_inMode mode w block list
  | plain =>
    cases w.registry.lookup? block.title with
    | some rule => exact addRegistered_inMode mode w block rule
    | none => rfl

/-! ## Items -/

/-- What is wrong with the name of an item is told from the names. -/
theorem itemCause?_inMode (name : String) :
    (w.inMode mode).itemCause? name = w.itemCause? name := rfl

/-- An item that is added has the name, the file and the number of the walk, and none of them from
    the mode. -/
theorem addItem_inMode (container : Nat) :
    (w.inMode mode).addItem container block = (w.addItem container block).inMode mode := rfl

/-- The blocks under the headings of an item, one after the other. -/
theorem foldl_addLeaf_inMode (leaves : List Block) :
    leaves.foldl (fun w leaf => settle leaf (w.addLeaf leaf)) (w.inMode mode)
      = (leaves.foldl (fun w leaf => settle leaf (w.addLeaf leaf)) w).inMode mode := by
  induction leaves generalizing w with
  | nil => rfl
  | cons leaf rest ih =>
    rw [List.foldl_cons, addLeaf_inMode, settle_inMode, ih]
    rfl

/-- **An item block** opens its item or is rejected by its name, under any mode alike. -/
theorem openItem_inMode : (w.inMode mode).openItem block = carry mode (w.openItem block) := by
  simp only [openItem, prepareItem_inMode]
  generalize w.prepareItem block.origin = prepared
  obtain ⟨w', container⟩ := prepared
  simp only [itemCause?_inMode]
  cases w'.itemCause? block.subtitle with
  | some cause => rfl
  | none => simp only [addItem_inMode, foldl_addLeaf_inMode]

/-! ## Any block -/

/-- **A definition** asks for the rules that are there. -/
theorem define_inMode : (w.inMode mode).define block = carry mode (w.define block) := by
  unfold define
  split
  · rfl
  · rw [registry_inMode]
    cases w.registry.define block.subtitle block.options <;> rfl

variable {mode} {w} {block}

/-- A directive asks for the name of the configuration. -/
theorem configure_inMode (same : mode.configSource = w.mode.configSource) (directive : Directive) :
    (w.inMode mode).configure directive block = carry mode (w.configure directive block) := by
  have source : (w.inMode mode).mode.configSource = w.mode.configSource := same
  have project : (w.inMode mode).project = w.project := rfl
  unfold configure
  rw [source, project]
  split
  · rfl
  · cases w.project.apply directive block.subtitle block.body <;> rfl

/-- **Whatever its title**, a block that strict mode lets in is placed in the same way. -/
theorem placeBlock_inMode (mode : Mode) (w : Walk) (block : Block) :
    (w.inMode mode).placeBlock block = carry mode (w.placeBlock block) := by
  unfold placeBlock
  rw [registry_inMode]
  split
  · exact openSect_inMode mode w block
  · exact openSubsect_inMode mode w block
  · exact describeFile_inMode mode w block _
  · split
    · exact addLeaf_inMode mode w block
    · exact openItem_inMode mode w block
  · exact addLeaf_inMode mode w block

/-- In strict mode, nothing but definitions, directives and the File block comes before it. -/
theorem dispatch_early (awaits : w.awaitsFile) (noDefine : TitleRole.ofTitle block.title ≠ .define)
    (noDirective : ∀ directive, TitleRole.ofTitle block.title ≠ .directive directive)
    (noFile : TitleRole.ofTitle block.title ≠ .file) :
    w.dispatch block = (w, .rejected .fileRequired) := by
  unfold dispatch
  split
  · rename_i role
    exact absurd role noDefine
  · rename_i directive role
    exact absurd role (noDirective directive)
  · rename_i role
    exact absurd role noFile
  · exact if_pos awaits

/-- **A block that does not come too early** is handled in the same way where nothing comes too
    early. -/
theorem dispatch_inMode (same : mode.configSource = w.mode.configSource)
    (lax : mode.strict = false) (inTime : (w.dispatch block).2 ≠ .rejected .fileRequired) :
    (w.inMode mode).dispatch block = carry mode (w.dispatch block) := by
  have admitted : ((w.inMode mode).mode.strict && (w.inMode mode).scope.file.isNone) = false := by
    show (mode.strict && w.scope.file.isNone) = false
    rw [lax, Bool.false_and]
  unfold dispatch
  rw [admitted]
  split
  · exact define_inMode mode w block
  · exact configure_inMode same _
  · exact openFile_inMode mode w block
  · rename_i noDefine noDirective noFile
    rw [if_neg Bool.false_ne_true]
    split
    · rename_i awaits
      have early := dispatch_early awaits noDefine noDirective noFile
      exact absurd (by rw [early]) inTime
    · exact placeBlock_inMode mode w block

end Walk

end DocComments
