/-
  The handlers, with a block further down.

  The same block in the same unit, `k` lines further down if it stands at `start` or after it, does
  the same: each handler keeps the relation between the two walks and ends with the same verdict, as
  told of the second unit (`Retells`).  The lemmas stand in the order in which the handlers call each
  other, up to `dispatch_lowered`.

  Most nodes stand at the line of their block.  The images of a plural block and the headings in the
  body of an item stand in the lines after it, and for them no block may have `start` inside
  (`Block.Beside`).
-/
import DocComments.Proofs.Handlers
import DocComments.Proofs.Lowered

namespace DocComments

/-! ## Causes that quote no place -/

/-- A pattern that cannot be read is quoted itself, and no place with it. -/
theorem readPatterns_plain {texts : List String} {cause : Cause}
    (failed : readPatterns texts = .error cause) : cause.plain := by
  induction texts with
  | nil => simp [readPatterns] at failed
  | cons text rest ih =>
    rw [readPatterns] at failed
    split at failed
    · cases failed
      rfl
    · split at failed
      · cases failed
      · rename_i other later
        cases failed
        exact ih later

/-- A name that is no kind of documentation is quoted without a place. -/
theorem readDocKinds_plain {names : List String} {cause : Cause}
    (failed : readDocKinds names = .error cause) : cause.plain := by
  induction names with
  | nil => simp [readDocKinds] at failed
  | cons name rest ih =>
    rw [readDocKinds] at failed
    split at failed
    · cases failed
      rfl
    · split at failed
      · cases failed
      · rename_i other later
        cases failed
        exact ih later

namespace Project

/-- What is wrong with a single value is told without a place. -/
theorem singleValue_plain {subtitle : String} {body : List String} {cause : Cause}
    (failed : singleValue subtitle body = .error cause) : cause.plain := by
  unfold singleValue at failed
  split at failed
  · cases failed
    rfl
  · split at failed
    · cases failed
      rfl
    · cases failed

/-- **No directive fails with a place** in its cause. -/
theorem apply_plain {project : Project} {directive : Directive} {subtitle : String}
    {body : List String} {cause : Cause}
    (failed : project.apply directive subtitle body = .error cause) : cause.plain := by
  cases directive with
  | ignoreFiles =>
    cases read : readPatterns (listedIn subtitle body) with
    | error other =>
      simp only [apply, read, Except.map, Except.error.injEq] at failed
      exact failed ▸ readPatterns_plain read
    | ok patterns => simp [apply, read, Except.map] at failed
  | prioritizeFiles => simp [apply] at failed
  | generateDocs =>
    cases single : singleValue subtitle body with
    | error other =>
      simp only [apply, single, bind, Except.bind, Except.error.injEq] at failed
      exact failed ▸ singleValue_plain single
    | ok value =>
      cases read : readDocKinds (Text.entriesOf value) with
      | error other =>
        simp only [apply, single, read, bind, Except.bind, Except.error.injEq] at failed
        exact failed ▸ readDocKinds_plain read
      | ok kinds => simp [apply, single, read, bind, Except.bind, pure, Except.pure] at failed
  | _ =>
    cases single : singleValue subtitle body with
    | error other =>
      simp only [apply, single, Except.map, Except.error.injEq] at failed
      exact failed ▸ singleValue_plain single
    | ok value => simp [apply, single, Except.map] at failed

end Project

/-- Options that name no kind of node, or make no rule, are told of without a place. -/
theorem LeafKind.ofOptions_plain {opts : OptionList} {cause : Cause}
    (failed : LeafKind.ofOptions opts = .error cause) : cause.plain := by
  unfold LeafKind.ofOptions at failed
  grind [Cause.plain]

theorem Rule.ofOptions_plain {opts : OptionList} {cause : Cause}
    (failed : Rule.ofOptions opts = .error cause) : cause.plain := by
  unfold Rule.ofOptions at failed
  split at failed
  · rename_i other unread
    cases failed
    exact LeafKind.ofOptions_plain unread
  · cases failed

namespace Walk

/-- A block of the wrong shape is told of without a place. -/
theorem shaped_plain {kind : LeafKind} {block : Block} {cause : Cause}
    (failed : shaped kind block = .error cause) : cause.plain := by
  unfold shaped at failed
  split at failed
  · split at failed
    · cases failed
    · cases failed
      rfl
  · split at failed
    · cases failed
    · cases failed
  · cases failed

/-- The walks are related, and the verdict is the same as told of the second unit. -/
def Retells (s : Session) (start k : Nat) (h g : Walk × Verdict) : Prop :=
  Lowered s start k h.1 g.1 ∧ h.2.Retold s.document.size start k h.1.index g.2

/-- The walks are related and have found the same node. -/
def Meet (s : Session) (start k : Nat) (h g : Walk × Nat) : Prop :=
  ∃ w v id, h = (w, id) ∧ g = (v, id) ∧ Lowered s start k w v

variable {s : Session} {start k : Nat} {w v : Walk} {block : Block}

/-- A refusal that quotes no place is the same refusal further down. -/
theorem Retells.refused (lowered : Lowered s start k w v) {cause : Cause} (plain : cause.plain) :
    Retells s start k (w, .rejected cause) (v, .rejected cause) :=
  ⟨lowered, .rejected (.same plain)⟩

/-- What is logged of a block is logged further down, where the block stands. -/
theorem settle_lowered {h g : Walk × Verdict} (retells : Retells s start k h g) (block : Block) :
    Lowered s start k (settle block h) (settle (block.lowered start k) g) := by
  obtain ⟨w, verdict⟩ := h
  obtain ⟨v, verdict'⟩ := g
  obtain ⟨lowered, told⟩ := retells
  cases told with
  | accepted => exact lowered
  | dropped => exact lowered
  | rejected told => exact lowered.note (.failure block.origin block.title told)

/-! ## Containers -/

/-- A File that is made up stands at the block that needs it, so it is lowered with the block. -/
theorem ensureFile_lowered (lowered : Lowered s start k w v) (origin : Origin) :
    Meet s start k (w.ensureFile origin) (v.ensureFile (origin.lowered start k)) := by
  have node : placeholder (origin.lowered start k) = (placeholder origin).lowered start k := by
    simp only [placeholder, Node.lowered, Origin.file_lowered]
  unfold ensureFile
  rw [lowered.scope, lowered.document.size, node]
  cases w.scope.file with
  | some file => exact ⟨w, v, file, rfl, rfl, lowered⟩
  | none =>
    refine ⟨_, _, _, rfl, rfl, ?_⟩
    exact { lowered with document := lowered.document.addRoot _, scope := rfl }

/-- A File stands at its header, and so do a section, a subsection and an image. -/
theorem openFile_lowered (lowered : Lowered s start k w v) :
    Retells s start k (w.openFile block) (v.openFile (block.lowered start k)) := by
  unfold openFile
  rw [lowered.scope, lowered.document.size]
  cases w.scope.file with
  | some file => exact .refused lowered rfl
  | none => exact ⟨{ lowered with document := lowered.document.addRoot _, scope := rfl }, .accepted⟩

/-- A section stands at its header, behind the File that it may need. -/
theorem openSect_lowered (lowered : Lowered s start k w v) :
    Retells s start k (w.openSect block) (v.openSect (block.lowered start k)) := by
  obtain ⟨w, v, file, left, right, lowered⟩ := ensureFile_lowered lowered block.origin
  unfold openSect
  rw [Block.origin_lowered, left, right]
  simp only [lowered.scope, lowered.document.size]
  exact ⟨{ lowered with document := lowered.document.addChild _ _, scope := rfl }, .accepted⟩

theorem openSubsect_lowered (lowered : Lowered s start k w v) :
    Retells s start k (w.openSubsect block) (v.openSubsect (block.lowered start k)) := by
  unfold openSubsect
  rw [lowered.scope, lowered.document.size, Block.subtitle_lowered]
  cases w.scope.sect with
  | none => exact .refused lowered rfl
  | some sect =>
    simp only
    split
    · exact .refused lowered rfl
    · exact ⟨{ lowered with document := lowered.document.addChild _ _, scope := rfl }, .accepted⟩

/-- A section that is made up stands at the block that needs it. -/
theorem ensureSect_lowered (lowered : Lowered s start k w v) (origin : Origin) :
    Meet s start k (w.ensureSect origin) (v.ensureSect (origin.lowered start k)) := by
  obtain ⟨w, v, file, left, right, lowered⟩ := ensureFile_lowered lowered origin
  unfold ensureSect
  rw [left, right]
  simp only [lowered.scope, lowered.document.size]
  cases w.scope.sect with
  | some sect => exact ⟨w, v, sect, rfl, rfl, lowered⟩
  | none =>
    refine ⟨_, _, _, rfl, rfl, ?_⟩
    exact { lowered with document := lowered.document.addChild _ _, scope := rfl }

theorem prepareItem_lowered (lowered : Lowered s start k w v) (origin : Origin) :
    Meet s start k (w.prepareItem origin) (v.prepareItem (origin.lowered start k)) := by
  obtain ⟨w, v, sect, left, right, lowered⟩ := ensureSect_lowered lowered origin
  unfold prepareItem
  rw [left, right]
  simp only [lowered.scope]
  exact ⟨_, _, _, rfl, rfl, { lowered with scope := rfl }⟩

/-! ## Properties of the file -/

/-- Warnings of footnotes are logged where the block stands. -/
theorem warnFootnotes_lowered (lowered : Lowered s start k w v) :
    Lowered s start k (w.warnFootnotes block) (v.warnFootnotes (block.lowered start k)) := by
  unfold warnFootnotes
  rw [Block.subtitle_lowered, Block.title_lowered, Block.origin_lowered]
  generalize bareFootnotes (footnoteParts block.subtitle) = bare
  induction bare generalizing w v with
  | nil => exact lowered
  | cons part rest ih => exact ih (lowered.note (.warning block.origin _))

/-- Information on a File has no place but that of a File it needs. -/
theorem describeFile_lowered (lowered : Lowered s start k w v) (field : FileField) :
    Retells s start k (w.describeFile field block)
      (v.describeFile field (block.lowered start k)) := by
  unfold describeFile
  rw [Block.subtitle_lowered]
  split
  · exact .refused lowered rfl
  · have warned : Lowered s start k (if field = .footnotes then w.warnFootnotes block else w)
        (if field = .footnotes then v.warnFootnotes (block.lowered start k) else v) := by
      split
      · exact warnFootnotes_lowered lowered
      · exact lowered
    obtain ⟨w, v, file, left, right, lowered⟩ := ensureFile_lowered warned block.origin
    simp only [Block.origin_lowered, left, right]
    exact ⟨{ lowered with document := lowered.document.mapKind file _ }, .accepted⟩

/-! ## Images and word lists -/

theorem addImage_lowered (lowered : Lowered s start k w v) (kind : LeafKind) :
    Retells s start k (w.addImage kind block) (v.addImage kind (block.lowered start k)) := by
  unfold addImage
  rw [lowered.item]
  cases w.scope.item with
  | none => exact ⟨lowered, .dropped⟩
  | some item => exact ⟨lowered.addChild item _, .accepted⟩

/-- The images stand in the lines of the block, all on one side of `start`. -/
theorem imageNodes_lowered (title : String) (kind : LeafKind) (beside : block.Beside start) :
    imageNodes title kind (block.lowered start k)
      = (imageNodes title kind block).map (Node.lowered start k) := by
  unfold imageNodes
  rw [List.map_map]
  refine List.map_congr_left fun entry mem => ?_
  obtain ⟨line, n⟩ := entry
  have within : n < block.body.length := by
    have := List.snd_lt_of_mem_zipIdx mem
    simpa using this
  have place := Origin.lowered_add (k := k) beside (show n + 1 ≤ block.body.length from within)
  simp only [Function.comp_apply, Node.lowered, Block.lowered, Origin.file_lowered, Nat.add_assoc,
    place]

/-- The images of a plural title stand at the lines of the body, so these may not be on both sides
    of `start`. -/
theorem addImages_lowered (lowered : Lowered s start k w v) (title : String) (kind : LeafKind)
    (beside : block.Beside start) :
    Retells s start k (w.addImages title kind block)
      (v.addImages title kind (block.lowered start k)) := by
  unfold addImages
  rw [lowered.item, imageNodes_lowered title kind beside]
  cases w.scope.item with
  | none => exact ⟨lowered, .dropped⟩
  | some item =>
    exact ⟨{ lowered with document := lowered.document.foldl_addChild item _ }, .accepted⟩

/-- A list of words stands at its header, and what it lists has no place. -/
theorem addWordList_lowered (lowered : Lowered s start k w v) (list : WordList) :
    Retells s start k (w.addWordList list block)
      (v.addWordList list (block.lowered start k)) := by
  unfold addWordList
  rw [lowered.item]
  cases w.scope.item with
  | none => exact ⟨lowered, .dropped⟩
  | some item => exact ⟨(lowered.addChild item _).mapItem item _, .accepted⟩

/-! ## Registered blocks -/

/-- A block goes under the same node; one that is made up for it is lowered with it. -/
theorem placeFor_lowered (lowered : Lowered s start k w v) (rule : Rule) (origin : Origin) :
    Lowered s start k (w.placeFor rule origin).1 (v.placeFor rule (origin.lowered start k)).1
      ∧ (v.placeFor rule (origin.lowered start k)).2 = (w.placeFor rule origin).2 := by
  have parent : v.scope.parent = w.scope.parent := by rw [lowered.scope]
  unfold placeFor
  rw [parent]
  cases w.scope.parent with
  | some parent =>
    cases rule.parent with
    | none => exact ⟨lowered, rfl⟩
    | some kind =>
      simp only [lowered.document.tagged, and_true]
      exact lowered
  | none =>
    cases rule.parent with
    | some kind => exact ⟨lowered, rfl⟩
    | none =>
      obtain ⟨w, v, file, left, right, lowered⟩ := ensureFile_lowered lowered origin
      simp only [left, right, and_true]
      exact lowered

/-- The shape of a block is no matter of its place. -/
theorem shaped_lowered (kind : LeafKind) (block : Block) :
    shaped kind (block.lowered start k)
      = (shaped kind block).map (Block.lowered start k) := by
  cases kind with
  | label => by_cases bare : block.body = [] <;> simp [shaped, Block.lowered, bare, Except.map]
  | text =>
    by_cases untitled : block.subtitle = "" <;>
      simp [shaped, Block.lowered, untitled, Except.map]
  | _ => rfl

/-- The same names on both sides, or the same refusal. -/
inductive SameNames (s : Session) (start k : Nat) (index : NameIndex) :
    Except Cause (List String) → Except Cause (List String) → Prop
  | free (names : List String) : SameNames s start k index (.ok names) (.ok names)
  | taken {cause other : Cause} (told : cause.Retold s.document.size start k index other) :
    SameNames s start k index (.error cause) (.error other)

/-- Names are taken or free alike.  The owner of a taken one is told with its place, which may be
    lowered. -/
theorem freeNames_lowered (lowered : Lowered s start k w v) (names : List String) :
    SameNames s start k w.index (w.freeNames names) (v.freeNames names) := by
  unfold freeNames
  rw [lowered.index]
  cases first : names.find? w.index.contains with
  | none => exact .free _
  | some name =>
    have owned := List.find?_some first
    rw [NameIndex.contains] at owned
    obtain ⟨id, owner⟩ := Option.isSome_iff_exists.mp owned
    simp only [owner, Option.getD_some]
    exact .taken (lowered.redeclared owner)

theorem aliasesOf_lowered (lowered : Lowered s start k w v) (hook : Option Hook) (block : Block) :
    SameNames s start k w.index (w.aliasesOf hook block)
      (v.aliasesOf hook (block.lowered start k)) := by
  unfold aliasesOf
  split
  · exact freeNames_lowered lowered _
  · exact .free []

/-- An alias is entered for the same item. -/
theorem addAlias_lowered (lowered : Lowered s start k w v) (item : Nat) (name : String) :
    Lowered s start k (addAlias item w name) (addAlias item v name) := by
  unfold addAlias
  rw [lowered.index]
  cases registered : w.index.register name item with
  | error owner => exact lowered
  | ok index => exact (lowered.reindex (NameIndex.keeps_register registered)).mapItem item _

/-- A hook does the same to the same item. -/
theorem runHook_lowered (lowered : Lowered s start k w v) (hook : Option Hook) (parent : Nat)
    (block : Block) (names : List String) :
    Lowered s start k (w.runHook hook parent block names)
      (v.runHook hook parent (block.lowered start k) names) := by
  unfold runHook
  split
  · exact lowered
  · exact lowered.mapItem parent _
  · induction names generalizing w v with
    | nil => exact lowered
    | cons name rest ih => exact ih (addAlias_lowered lowered parent name)

/-- **A block with a rule** does the same further down. -/
theorem addRegistered_lowered (lowered : Lowered s start k w v) (rule : Rule) :
    Retells s start k (w.addRegistered rule block)
      (v.addRegistered rule (block.lowered start k)) := by
  obtain ⟨lowered, same⟩ := placeFor_lowered lowered rule block.origin
  unfold addRegistered
  rw [Block.origin_lowered, shaped_lowered]
  generalize w.placeFor rule block.origin = left at lowered same
  generalize v.placeFor rule (block.origin.lowered start k) = right at lowered same
  obtain ⟨w, taker⟩ := left
  obtain ⟨v, taker'⟩ := right
  cases same
  cases taker with
  | none => exact ⟨lowered, .dropped⟩
  | some parent =>
    cases shape : shaped rule.kind block with
    | error cause => exact .refused lowered (shaped_plain shape)
    | ok made =>
      have names := aliasesOf_lowered lowered rule.hook made
      simp only [Except.map]
      generalize w.aliasesOf rule.hook made = mine at names
      generalize v.aliasesOf rule.hook (made.lowered start k) = other at names
      cases names with
      | taken told => exact ⟨lowered, .rejected told⟩
      | free names =>
        have added := lowered.addChild parent (made.node (.leaf rule.kind))
        exact ⟨runHook_lowered added rule.hook parent made names, .accepted⟩

/-- **A leaf** does the same further down. -/
theorem addLeaf_lowered (lowered : Lowered s start k w v) (beside : block.Beside start) :
    Retells s start k (w.addLeaf block) (v.addLeaf (block.lowered start k)) := by
  unfold addLeaf
  rw [lowered.registry, Block.title_lowered]
  split
  · exact addImage_lowered lowered _
  · exact addImages_lowered lowered _ _ beside
  · split
    · exact addRegistered_lowered lowered _
    · split
      · exact addWordList_lowered lowered _
      · exact .refused lowered rfl

/-! ## Items -/

/-- An item is turned down on both sides or on none.  Only that its name is taken is told with a
    place. -/
theorem itemCause?_lowered (lowered : Lowered s start k w v) (name : String) :
    w.itemCause? name = none ∧ v.itemCause? name = none
      ∨ ∃ cause other, w.itemCause? name = some cause ∧ v.itemCause? name = some other
          ∧ cause.Retold s.document.size start k w.index other := by
  unfold itemCause?
  rw [lowered.index]
  split
  · exact .inr ⟨_, _, rfl, rfl, .same rfl⟩
  · cases owner : w.index.lookup? name with
    | some id => exact .inr ⟨_, _, rfl, rfl, lowered.redeclared owner⟩
    | none =>
      simp only
      split
      · exact .inr ⟨_, _, rfl, rfl, .same rfl⟩
      · exact .inl ⟨rfl, rfl⟩

/-- An item stands at its header and has the same number. -/
theorem addItem_lowered (lowered : Lowered s start k w v) (container : Nat) (block : Block) :
    Lowered s start k (w.addItem container block)
      (v.addItem container (block.lowered start k)) := by
  have keeps : w.index.Keeps (w.addItem container block).index := by
    cases registered : w.index.register block.subtitle w.document.size with
    | ok index =>
      simp only [addItem, registered]
      exact NameIndex.keeps_register registered
    | error _ =>
      simp only [addItem, registered]
      exact .refl _
  have indexed := lowered.reindex keeps
  unfold addItem
  rw [lowered.document.size, lowered.index, lowered.scope, Block.subtitle_lowered]
  exact { indexed with document := lowered.document.addChild container _, scope := rfl }

/-- The headings in a body stand in its lines, all on one side of `start`. -/
theorem splitAtHeadings_lowered (origin : Origin) (n : Nat) (body : List String)
    (beside : origin.line + n + body.length < start ∨ start ≤ origin.line) :
    splitAtHeadings (origin.lowered start k) n body
      = ((splitAtHeadings origin n body).1,
          (splitAtHeadings origin n body).2.map (Block.lowered start k)) := by
  fun_induction splitAtHeadings origin n body with
  | case1 => rfl
  | case2 => rfl
  | case3 n line next rest heading body blocks split place ih =>
    have later : origin.line + (n + 2) + rest.length < start ∨ start ≤ origin.line := by
      simp only [List.length_cons] at beside
      omega
    have within : origin.line + (n + 1) < start ∨ start ≤ origin.line := by omega
    have here : Origin.lowered start k place
        = ⟨origin.file, (origin.lowered start k).line + n + 1⟩ :=
      Origin.lowered_add within (Nat.le_refl _)
    rw [splitAtHeadings, if_pos heading, ih later, split]
    simp only [List.map_cons, Block.lowered, here, Origin.file_lowered]
  | case4 n line next rest plain own blocks split ih =>
    have later : origin.line + (n + 1) + (next :: rest).length < start ∨ start ≤ origin.line := by
      simp only [List.length_cons] at beside ⊢
      omega
    rw [splitAtHeadings, if_neg plain, ih later, split]

/-- A heading stands on the same side of `start` as its item. -/
theorem beside_of_mem_split (beside : block.Beside start) {leaf : Block}
    (mem : leaf ∈ (splitAtHeadings block.origin 0 block.body).2) : leaf.Beside start := by
  obtain ⟨-, -, above, below⟩ := splitAtHeadings_inside mem
  unfold Block.Beside at beside ⊢
  omega

/-- The blocks under the headings of an item do the same, one after the other. -/
theorem foldl_addLeaf_lowered (lowered : Lowered s start k w v) (leaves : List Block)
    (beside : ∀ leaf ∈ leaves, leaf.Beside start) :
    Lowered s start k (leaves.foldl (fun w leaf => settle leaf (w.addLeaf leaf)) w)
      ((leaves.map (Block.lowered start k)).foldl
        (fun w leaf => settle leaf (w.addLeaf leaf)) v) := by
  induction leaves generalizing w v with
  | nil => exact lowered
  | cons leaf rest ih =>
    have first := addLeaf_lowered lowered (beside leaf (List.mem_cons_self ..))
    exact ih (settle_lowered first leaf) fun other mem => beside other (List.mem_cons_of_mem _ mem)

/-- **An item** does the same further down, and so do the headings in its body. -/
theorem openItem_lowered (lowered : Lowered s start k w v) (beside : block.Beside start) :
    Retells s start k (w.openItem block) (v.openItem (block.lowered start k)) := by
  obtain ⟨w, v, container, left, right, lowered⟩ := prepareItem_lowered lowered block.origin
  have split := splitAtHeadings_lowered (k := k) block.origin 0 block.body beside
  unfold openItem
  simp only [Block.origin_lowered, Block.subtitle_lowered, Block.body_lowered, left, right, split]
  rcases itemCause?_lowered lowered block.subtitle with
    ⟨passed, passed'⟩ | ⟨cause, other, failed, failed', told⟩
  · simp only [passed, passed']
    have added := addItem_lowered lowered container
      { block with body := (splitAtHeadings block.origin 0 block.body).1 }
    exact ⟨foldl_addLeaf_lowered added _ fun leaf mem => beside_of_mem_split beside mem, .accepted⟩
  · simp only [failed, failed']
    exact ⟨lowered, .rejected told⟩

/-! ## Any block -/

/-- A definition has no place. -/
theorem define_lowered (lowered : Lowered s start k w v) :
    Retells s start k (w.define block) (v.define (block.lowered start k)) := by
  have options : (block.lowered start k).options = block.options := rfl
  unfold define Registry.define
  rw [Block.subtitle_lowered, options, lowered.registry]
  split
  · exact .refused lowered rfl
  · cases made : Rule.ofOptions block.options with
    | error cause => exact .refused lowered (Rule.ofOptions_plain made)
    | ok rule => exact ⟨{ lowered with registry := rfl }, .accepted⟩

/-- A directive has no place; it asks for the file of its block, which stays. -/
theorem configure_lowered (lowered : Lowered s start k w v) (directive : Directive) :
    Retells s start k (w.configure directive block)
      (v.configure directive (block.lowered start k)) := by
  unfold configure
  rw [Block.origin_lowered, Origin.file_lowered, Block.subtitle_lowered, Block.body_lowered,
    lowered.mode, lowered.project]
  split
  · exact .refused lowered rfl
  · cases applied : w.project.apply directive block.subtitle block.body with
    | error cause => exact .refused lowered (Project.apply_plain applied)
    | ok project => exact ⟨{ lowered with mode := rfl, project := rfl }, .accepted⟩

/-- **Any block** does the same further down. -/
theorem dispatch_lowered (lowered : Lowered s start k w v) (beside : block.Beside start) :
    Retells s start k (w.dispatch block) (v.dispatch (block.lowered start k)) := by
  have strict : (v.mode.strict && v.scope.file.isNone)
      = (w.mode.strict && w.scope.file.isNone) := by rw [lowered.mode, lowered.scope]
  unfold dispatch
  rw [Block.title_lowered, strict]
  split
  · exact define_lowered lowered
  · exact configure_lowered lowered _
  · exact openFile_lowered lowered
  · split
    · exact .refused lowered rfl
    · unfold placeBlock
      rw [Block.title_lowered, lowered.registry]
      split
      · exact openSect_lowered lowered
      · exact openSubsect_lowered lowered
      · exact describeFile_lowered lowered _
      · split
        · exact addLeaf_lowered lowered beside
        · exact openItem_lowered lowered beside
      · exact addLeaf_lowered lowered beside

end Walk

end DocComments
