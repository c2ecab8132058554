/-
  Twins in lockstep.

  Twins stay twins, handler by handler, and every handler ends with the same verdict on both
  (`Agree`).  The lemmas stand in the order in which the handlers call each other, up to
  `dispatch_twin`.

  Only two handlers look at the index, the one for items and the one for further names, and both
  ask for names that the unit may register; that is where the names of the two units have to be
  apart.
-/
import Mathlib.Data.List.Find
import DocComments.Proofs.Handlers
import DocComments.Proofs.Twin

namespace DocComments.Walk

/-- Twins with the same verdict. -/
def Agree (mine : String → Prop) (s t : Session) (d : Nat) (h k : Walk × Verdict) : Prop :=
  Twin mine s t d h.1 k.1 ∧ k.2 = h.2

variable {mine : String → Prop} {s t : Session} {d : Nat} {w v : Walk} {block : Block}

/-- The same verdict is logged at the same place on both sides. -/
theorem settle_twin {h k : Walk × Verdict} (agree : Agree mine s t d h k) (block : Block) :
    Twin mine s t d (settle block h) (settle block k) := by
  obtain ⟨w, verdict⟩ := h
  obtain ⟨v, verdict'⟩ := k
  obtain ⟨twin, same⟩ := agree
  cases same
  cases verdict with
  | accepted => exact twin
  | dropped => exact twin
  | rejected cause => exact twin.note _

/-! ## Containers -/

/-- Twins that have found a node of the unit, the one `d` numbers further up than the other. -/
def Found (mine : String → Prop) (s t : Session) (d : Nat) (h k : Walk × Nat) : Prop :=
  ∃ w v id, h = (w, id) ∧ k = (v, id + d) ∧ Twin mine s t d w v ∧ s.document.size ≤ id

theorem Found.intro {id id' : Nat} (twin : Twin mine s t d w v) (same : id' = id + d)
    (le : s.document.size ≤ id) : Found mine s t d (w, id) (v, id') :=
  ⟨w, v, id, rfl, by rw [same], twin, le⟩

/-- The File of a block is there on both sides, or is made up on both. -/
theorem ensureFile_twin (twin : Twin mine s t d w v) (origin : Origin) :
    Found mine s t d (w.ensureFile origin) (v.ensureFile origin) := by
  unfold ensureFile
  rw [twin.file]
  cases file : w.scope.file with
  | some id => exact .intro twin rfl (twin.opened.file id file)
  | none =>
    have start := twin.document.base_le
    have new := Scope.From.just start
    refine .intro { twin with
      document := twin.document.addRoot _
      scope := ?_
      opened := { twin.opened with file := new, parent := new } } twin.document.size start
    simp only [twin.scope, twin.document.size]
    rfl

/-- A File block opens a root on both sides, or meets an open File on both. -/
theorem openFile_twin (twin : Twin mine s t d w v) :
    Agree mine s t d (w.openFile block) (v.openFile block) := by
  unfold openFile
  rw [twin.file]
  cases file : w.scope.file with
  | some id => exact ⟨twin, rfl⟩
  | none =>
    have new := Scope.From.just twin.document.base_le
    refine ⟨{ twin with
      document := twin.document.addRoot _
      scope := ?_
      opened := { Scope.From.closed _ with file := new, parent := new } }, rfl⟩
    simp only [twin.document.size]
    rfl

/-- A section block opens a section of the same File. -/
theorem openSect_twin (twin : Twin mine s t d w v) :
    Agree mine s t d (w.openSect block) (v.openSect block) := by
  obtain ⟨w, v, file, left, right, twin, le⟩ := ensureFile_twin twin block.origin
  unfold openSect
  rw [left, right]
  have new := Scope.From.just twin.document.base_le
  refine ⟨{ twin with
    document := twin.document.addChild le _
    scope := ?_
    opened := { twin.opened with sect := new, subsect := nofun, item := nofun, parent := new } },
    rfl⟩
  simp only [twin.scope, twin.document.size]
  rfl

theorem openSubsect_twin (twin : Twin mine s t d w v) :
    Agree mine s t d (w.openSubsect block) (v.openSubsect block) := by
  unfold openSubsect
  rw [twin.sect]
  cases sect : w.scope.sect with
  | none => exact ⟨twin, rfl⟩
  | some id =>
    simp only [Option.map_some]
    split
    · exact ⟨twin, rfl⟩
    · have new := Scope.From.just twin.document.base_le
      refine ⟨{ twin with
        document := twin.document.addChild (twin.opened.sect id sect) _
        scope := ?_
        opened := { twin.opened with subsect := new, item := nofun, parent := new } }, rfl⟩
      simp only [twin.scope, twin.document.size]
      rfl

/-- The section of a block is there on both sides, or is made up on both. -/
theorem ensureSect_twin (twin : Twin mine s t d w v) (origin : Origin) :
    Found mine s t d (w.ensureSect origin) (v.ensureSect origin) := by
  obtain ⟨w, v, file, left, right, twin, le⟩ := ensureFile_twin twin origin
  unfold ensureSect
  rw [left, right]
  simp only [twin.sect]
  cases sect : w.scope.sect with
  | some id => exact .intro twin rfl (twin.opened.sect id sect)
  | none =>
    have start := twin.document.base_le
    refine .intro { twin with
      document := twin.document.addChild le _
      scope := ?_
      opened := { twin.opened with sect := Scope.From.just start } } twin.document.size start
    simp only [twin.scope, twin.document.size]
    rfl

/-- The node that an item goes under is the same one on both sides. -/
theorem prepareItem_twin (twin : Twin mine s t d w v) (origin : Origin) :
    Found mine s t d (w.prepareItem origin) (v.prepareItem origin) := by
  obtain ⟨w, v, sect, left, right, twin, le⟩ := ensureSect_twin twin origin
  -- the subsection takes the item where there is one, on both sides
  have container : v.scope.subsect.getD (sect + d) = w.scope.subsect.getD sect + d := by
    rw [twin.subsect]
    cases w.scope.subsect <;> rfl
  have above : s.document.size ≤ w.scope.subsect.getD sect := by
    cases sub : w.scope.subsect with
    | none => exact le
    | some id => exact twin.opened.subsect id sub
  unfold prepareItem
  rw [left, right]
  simp only [container]
  refine .intro { twin with
    scope := ?_
    opened := { twin.opened with item := nofun, parent := Scope.From.just above } } rfl above
  simp only [twin.scope]
  rfl

/-! ## Properties of the file -/

/-- The footnotes to warn of are told from the block, so each warning is logged on both sides. -/
theorem warnFootnotes_twin (twin : Twin mine s t d w v) :
    Twin mine s t d (w.warnFootnotes block) (v.warnFootnotes block) := by
  unfold warnFootnotes
  generalize bareFootnotes (footnoteParts block.subtitle) = bare
  induction bare generalizing w v with
  | nil => exact twin
  | cons part rest ih =>
    exact ih (twin.note ⟨block.origin, .warning, footnoteWarning part block.title⟩)

/-- Information on a File goes to the same File. -/
theorem describeFile_twin (twin : Twin mine s t d w v) (field : FileField) :
    Agree mine s t d (w.describeFile field block) (v.describeFile field block) := by
  unfold describeFile
  split
  · exact ⟨twin, rfl⟩
  · have warned : Twin mine s t d (if field = .footnotes then w.warnFootnotes block else w)
        (if field = .footnotes then v.warnFootnotes block else v) := by
      split
      · exact warnFootnotes_twin twin
      · exact twin
    obtain ⟨w, v, file, left, right, twin, le⟩ := ensureFile_twin warned block.origin
    simp only [left, right]
    exact ⟨{ twin with document := twin.document.mapKind le _ }, rfl⟩

/-! ## Images and word lists -/

/-- An image goes to the same item, or finds none on both sides. -/
theorem addImage_twin (twin : Twin mine s t d w v) (kind : LeafKind) :
    Agree mine s t d (w.addImage kind block) (v.addImage kind block) := by
  unfold addImage
  rw [twin.item]
  cases item : w.scope.item with
  | none => exact ⟨twin, rfl⟩
  | some id => exact ⟨twin.addChild (twin.opened.item id item) _, rfl⟩

theorem addImages_twin (twin : Twin mine s t d w v) (title : String) (kind : LeafKind) :
    Agree mine s t d (w.addImages title kind block) (v.addImages title kind block) := by
  unfold addImages
  rw [twin.item]
  cases item : w.scope.item with
  | none => exact ⟨twin, rfl⟩
  | some id =>
    have document := twin.document.foldl_addChild (twin.opened.item id item)
      (imageNodes title kind block)
    exact ⟨{ twin with document }, rfl⟩

/-- A list of words goes to the same item, as a node and as news. -/
theorem addWordList_twin (twin : Twin mine s t d w v) (list : WordList) :
    Agree mine s t d (w.addWordList list block) (v.addWordList list block) := by
  unfold addWordList
  rw [twin.item]
  cases item : w.scope.item with
  | none => exact ⟨twin, rfl⟩
  | some id =>
    have le := twin.opened.item id item
    exact ⟨(twin.addChild le _).mapItem le _, rfl⟩

/-! ## Registered blocks -/

/-- A rule finds the same place on both sides, or none, for twins have the same rules and nodes of
    the same kinds. -/
theorem placeFor_twin (twin : Twin mine s t d w v) (rule : Rule) (origin : Origin) :
    Twin mine s t d (w.placeFor rule origin).1 (v.placeFor rule origin).1
      ∧ (v.placeFor rule origin).2 = (w.placeFor rule origin).2.map (· + d)
      ∧ ∀ parent, (w.placeFor rule origin).2 = some parent → s.document.size ≤ parent := by
  unfold placeFor
  rw [twin.parent]
  cases parent : w.scope.parent with
  | some id =>
    have le := twin.opened.parent id parent
    cases rule.parent with
    | none => exact ⟨twin, rfl, Scope.From.just le⟩
    | some kind =>
      simp only [Option.map_some, twin.document.tagged le]
      split
      · exact ⟨twin, rfl, Scope.From.just le⟩
      · exact ⟨twin, rfl, nofun⟩
  | none =>
    cases rule.parent with
    | none =>
      obtain ⟨w, v, file, left, right, twin, le⟩ := ensureFile_twin twin origin
      simp only [Option.map_none, left, right]
      exact ⟨twin, rfl, Scope.From.just le⟩
    | some kind => exact ⟨twin, rfl, nofun⟩

/-- Names of the unit are taken on both sides or on none, and by nodes at the same place. -/
theorem freeNames_twin (twin : Twin mine s t d w v) {names : List String}
    (own : ∀ name ∈ names, mine name) : v.freeNames names = w.freeNames names := by
  have taken : ∀ name ∈ names, v.index.contains name = w.index.contains name := by
    intro name mem
    rw [NameIndex.contains, NameIndex.contains, twin.lookup name (own name mem),
      Option.isSome_map]
  have found : names.find? v.index.contains = names.find? w.index.contains :=
    List.find?_congr taken
  unfold freeNames
  rw [found]
  cases first : names.find? w.index.contains with
  | none => rfl
  | some name =>
    have owned := List.find?_some first
    rw [NameIndex.contains] at owned
    obtain ⟨id, owner⟩ := Option.isSome_iff_exists.mp owned
    simp only [twin.lookup name (own name (List.mem_of_find?_eq_some first)), owner,
      Option.map_some, Option.getD_some, twin.originOf]

/-- The aliases in a block are read alike where the unit may register them. -/
theorem aliasesOf_twin (twin : Twin mine s t d w v) {hook : Option Hook}
    (own : hook = some .aliases → ∀ name ∈ Text.entriesOf block.subtitle, mine name) :
    v.aliasesOf hook block = w.aliasesOf hook block := by
  unfold aliasesOf
  split
  · exact freeNames_twin twin (own rfl)
  · rfl

/-- A hook does the same to the same item; the aliases are free on both sides. -/
theorem runHook_twin (twin : Twin mine s t d w v) {parent : Nat} (le : s.document.size ≤ parent)
    (hook : Option Hook) {names : List String}
    (own : hook = some .aliases → names.Nodup
      ∧ ∀ name ∈ names, mine name ∧ w.index.lookup? name = none) :
    Twin mine s t d (w.runHook hook parent block names)
      (v.runHook hook (parent + d) block names) := by
  cases hook with
  | none => exact twin
  | some hook =>
    cases hook with
    | status => exact twin.mapItem le _
    | aliases =>
      obtain ⟨nodup, given⟩ := own rfl
      have free : ∀ name ∈ names, v.index.lookup? name = none := by
        intro name mem
        rw [twin.lookup name (given name mem).1, (given name mem).2]
        rfl
      simp only [runHook]
      rw [foldl_addAlias parent names w (fun name mem => (given name mem).2) nodup,
        foldl_addAlias (parent + d) names v free nodup]
      exact (twin.enroll names le).mapItem le _

/-- **A block with a rule** ends alike on both sides, if a rule that registers aliases finds only
    names of the unit in it. -/
theorem addRegistered_twin (twin : Twin mine s t d w v) {rule : Rule}
    (own : rule.hook = some .aliases → ∀ name ∈ Text.entriesOf block.subtitle, mine name) :
    Agree mine s t d (w.addRegistered rule block) (v.addRegistered rule block) := by
  obtain ⟨twin, same, le⟩ := placeFor_twin twin rule block.origin
  unfold addRegistered
  generalize w.placeFor rule block.origin = left at twin same le
  generalize v.placeFor rule block.origin = right at twin same
  obtain ⟨w, parent⟩ := left
  obtain ⟨v, parent'⟩ := right
  simp only at twin same le
  subst same
  cases parent with
  | none => exact ⟨twin, rfl⟩
  | some parent =>
    have le := le parent rfl
    cases shape : shaped rule.kind block with
    | error cause => exact ⟨twin, rfl⟩
    | ok after =>
      -- shaping a block moves its subtitle at most, so it lists no other names
      have own : rule.hook = some .aliases → ∀ name ∈ Text.entriesOf after.subtitle, mine name := by
        intro hook name mem
        rcases shaped_eq_ok shape with rfl | rfl
        · exact own hook name mem
        · simp [entriesOf_nil] at mem
      simp only [Option.map_some, aliasesOf_twin twin own]
      cases examined : w.aliasesOf rule.hook after with
      | error cause => exact ⟨twin, rfl⟩
      | ok names =>
        have added := twin.addChild le (after.node (.leaf rule.kind))
        refine ⟨runHook_twin added le rule.hook fun hook => ?_, rfl⟩
        simp only [aliasesOf, hook] at examined
        obtain ⟨given, free⟩ := freeNames_eq_ok examined
        refine ⟨given ▸ nodup_eraseDups _, fun name mem => ⟨own hook name ?_, free name mem⟩⟩
        rw [given] at mem
        exact List.mem_eraseDups.mp mem

/-- **A leaf** ends alike on both sides. -/
theorem addLeaf_twin (twin : Twin mine s t d w v) (lists : block.Lists mine w.registry) :
    Agree mine s t d (w.addLeaf block) (v.addLeaf block) := by
  unfold addLeaf
  rw [twin.lookup_rule]
  split
  · exact addImage_twin twin _
  · exact addImages_twin twin _ _
  · split
    · rename_i rule found
      exact addRegistered_twin twin (lists rule found)
    · split
      · exact addWordList_twin twin _
      · exact ⟨twin, rfl⟩

/-! ## Items -/

/-- An item is turned down on both sides or on none, if its name is one of the unit. -/
theorem itemCause?_twin (twin : Twin mine s t d w v) {name : String}
    (own : name ≠ "" → mine name) : v.itemCause? name = w.itemCause? name := by
  unfold itemCause?
  split
  · rfl
  · rename_i named
    rw [twin.lookup name (own named)]
    cases w.index.lookup? name with
    | none => rfl
    | some id => simp only [Option.map_some, twin.originOf]

variable (block) in
/-- An item whose name is free is added on both sides, and owns the name there. -/
theorem addItem_twin (twin : Twin mine s t d w v) (own : mine block.subtitle)
    (free : w.index.lookup? block.subtitle = none) {container : Nat}
    (le : s.document.size ≤ container) :
    Twin mine s t d (w.addItem container block) (v.addItem (container + d) block) := by
  have free' : v.index.lookup? block.subtitle = none := by rw [twin.lookup _ own, free]; rfl
  have start := twin.document.base_le
  have new := Scope.From.just start
  have entered := twin.enroll [block.subtitle] start
  rw [addItem_eq free, addItem_eq free', twin.document.size]
  refine { entered with
    document := twin.document.addChild le _
    scope := ?_
    opened := { twin.opened with item := new, parent := new } }
  simp only [twin.scope]
  rfl

theorem foldl_addLeaf_twin (leaves : List Block) (twin : Twin mine s t d w v)
    (lists : ∀ leaf ∈ leaves, ∀ registry, leaf.Lists mine registry) :
    Twin mine s t d (leaves.foldl (fun w leaf => settle leaf (w.addLeaf leaf)) w)
      (leaves.foldl (fun w leaf => settle leaf (w.addLeaf leaf)) v) := by
  induction leaves generalizing w v with
  | nil => exact twin
  | cons leaf rest ih =>
    have first := addLeaf_twin twin (lists leaf (List.mem_cons_self ..) _)
    exact ih (settle_twin first leaf) fun other mem => lists other (List.mem_cons_of_mem _ mem)

/-- **An item** ends alike on both sides. -/
theorem openItem_twin (twin : Twin mine s t d w v)
    (own : block.subtitle ≠ "" → mine block.subtitle) :
    Agree mine s t d (w.openItem block) (v.openItem block) := by
  obtain ⟨w, v, container, left, right, twin, le⟩ := prepareItem_twin twin block.origin
  unfold openItem
  simp only [left, right, itemCause?_twin twin own]
  cases passed : w.itemCause? block.subtitle with
  | some cause => exact ⟨twin, rfl⟩
  | none =>
    obtain ⟨named, free⟩ := of_itemCause?_eq_none passed
    have added := addItem_twin { block with body := (splitAtHeadings block.origin 0 block.body).1 }
      twin (own named) free le
    exact ⟨foldl_addLeaf_twin _ added fun leaf mem registry => lists_of_mem_split mem, rfl⟩

/-! ## Any block -/

/-- **A definition** gives both sides the same rule. -/
theorem define_twin (twin : Twin mine s t d w v) :
    Agree mine s t d (w.define block) (v.define block) := by
  unfold define Registry.define
  split
  · exact ⟨twin, rfl⟩
  · cases made : Rule.ofOptions block.options with
    | error cause => exact ⟨twin, rfl⟩
    | ok rule =>
      have rules : v.registry.active.insert (Text.strip block.subtitle) rule
          = w.registry.active.insert (Text.strip block.subtitle) rule := by rw [twin.rules]
      exact ⟨{ twin with
        rules := rules
        hooks := twin.hooks.insert _ (Rule.hook_ofOptions made) }, rfl⟩

/-- Whether a directive is carried out does not depend on the settings so far. -/
theorem apply_error (p q : Project) (directive : Directive) (subtitle : String)
    (body : List String) :
    (p.apply directive subtitle body).map (fun _ => ())
      = (q.apply directive subtitle body).map fun _ => () := by
  cases directive with
  | ignoreFiles =>
    simp only [Project.apply]
    cases readPatterns (listedIn subtitle body) <;> rfl
  | prioritizeFiles => rfl
  | generateDocs =>
    simp only [Project.apply, bind, Except.bind]
    cases Project.singleValue subtitle body with
    | error cause => rfl
    | ok value =>
      simp only
      cases readDocKinds (Text.entriesOf value) <;> rfl
  | _ =>
    simp only [Project.apply]
    cases Project.singleValue subtitle body <;> rfl

/-- **A directive** is carried out on both sides or on none.  The settings may differ, and twins
    need not agree on them. -/
theorem configure_twin (twin : Twin mine s t d w v) (directive : Directive) :
    Agree mine s t d (w.configure directive block) (v.configure directive block) := by
  have same := apply_error w.project v.project directive block.subtitle block.body
  unfold configure
  rw [twin.mode]
  split
  · exact ⟨twin, rfl⟩
  · cases left : w.project.apply directive block.subtitle block.body with
    | error cause =>
      cases right : v.project.apply directive block.subtitle block.body with
      | error cause' =>
        simp only [left, right, Except.map, Except.error.injEq] at same
        exact ⟨twin, by simp [same]⟩
      | ok project => simp [left, right, Except.map] at same
    | ok project =>
      cases right : v.project.apply directive block.subtitle block.body with
      | error cause => simp [left, right, Except.map] at same
      | ok project' => exact ⟨{ twin with mode := rfl }, rfl⟩

/-- **Any block ends alike on both sides**, and leaves twins. -/
theorem dispatch_twin (twin : Twin mine s t d w v)
    (name : TitleRole.ofTitle block.title = .item → block.subtitle ≠ "" → mine block.subtitle)
    (lists : block.Lists mine w.registry) :
    Agree mine s t d (w.dispatch block) (v.dispatch block) := by
  have strict : (v.mode.strict && v.scope.file.isNone)
      = (w.mode.strict && w.scope.file.isNone) := by
    rw [twin.mode, twin.file, Option.isNone_map]
  unfold dispatch
  rw [strict]
  split
  · exact define_twin twin
  · exact configure_twin twin _
  · exact openFile_twin twin
  · split
    · exact ⟨twin, rfl⟩
    · unfold placeBlock
      rw [twin.contains_rule]
      split
      · exact openSect_twin twin
      · exact openSubsect_twin twin
      · exact describeFile_twin twin _
      · rename_i role
        split
        · exact addLeaf_twin twin lists
        · exact openItem_twin twin (name role)
      · exact addLeaf_twin twin lists

end DocComments.Walk
