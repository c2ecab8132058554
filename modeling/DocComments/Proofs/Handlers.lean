/-
  Every handler is a sequence of moves.

  One lemma for each handler, in the order in which the handlers call each other, up to `dispatch`.
  A handler may open a placeholder File or an anonymous section before it refuses its block; both
  are moves like any other, so a refusal needs no lemma of its own.

  The places a block may name are those of its header and of its body lines (`Block.Within`): a
  plural image block gives each line a node, and an item gives each underlined heading a block.
-/
import DocComments.Proofs.Headings
import DocComments.Proofs.Move
import DocComments.Session.Dispatch

namespace DocComments

/-- The header of the block and its body lines are places that may be named. -/
def Block.Within (here : Origin → Prop) (block : Block) : Prop :=
  ∀ n, n ≤ block.body.length → here ⟨block.origin.file, block.origin.line + n⟩

/-- The header is one of those places. -/
theorem Block.Within.origin {here : Origin → Prop} {block : Block} (within : block.Within here) :
    here block.origin :=
  within 0 (Nat.zero_le _)

/-- Under the rules of the registry, the further names that the block lists may be registered. -/
def Block.Lists (mine : String → Prop) (registry : Registry) (block : Block) : Prop :=
  ∀ rule, registry.lookup? block.title = some rule → rule.hook = some .aliases →
    ∀ name ∈ Text.entriesOf block.subtitle, mine name

namespace Walk

open Relation (ReflTransGen)

variable {here : Origin → Prop} {mine : String → Prop} {base : Nat} {w : Walk} {block : Block}

/-! ## Containers -/

variable (mine) in
/-- A File is open or is made up, and then it is the one that is open. -/
theorem ensureFile_moves {origin : Origin} (sound : w.Sound base) (place : here origin) :
    Moves here mine w (w.ensureFile origin).1
      ∧ (w.ensureFile origin).1.scope.file = some (w.ensureFile origin).2 := by
  unfold ensureFile
  split
  · rename_i file opened
    exact ⟨.refl, opened⟩
  · rename_i shut
    refine ⟨.single ?_, rfl⟩
    have move := @Move.file here mine w (placeholder origin) shut place rfl
    rwa [Scope.Sound.eq_closed sound shut]

/-- No rule comes with a File. -/
theorem ensureFile_registry (w : Walk) (origin : Origin) :
    (w.ensureFile origin).1.registry = w.registry := by
  unfold ensureFile
  split <;> rfl

/-- A File block opens a File or finds one open. -/
theorem openFile_moves (within : block.Within here) : Moves here mine w (w.openFile block).1 := by
  unfold openFile
  split
  · exact .refl
  · rename_i shut
    exact .single (.file _ shut within.origin rfl)

/-- A section is one move, after that of a File it needs. -/
theorem openSect_moves (sound : w.Sound base) (within : block.Within here) :
    Moves here mine w (w.openSect block).1 := by
  obtain ⟨moves, opened⟩ := ensureFile_moves mine sound within.origin
  exact moves.tail (.sect _ _ opened within.origin rfl)

/-- A subsection is one move, under a section and with a name. -/
theorem openSubsect_moves (within : block.Within here) :
    Moves here mine w (w.openSubsect block).1 := by
  unfold openSubsect
  split
  · exact .refl
  · rename_i sect opened
    split
    · exact .refl
    · rename_i named
      exact .single (.subsect _ _ opened within.origin rfl named)

variable (mine) in
/-- What an item needs is opened, and the item before it is closed.  An anonymous section becomes
    the parent, as a declared one would. -/
theorem prepareItem_moves {origin : Origin} (sound : w.Sound base) (place : here origin) :
    Moves here mine w (w.prepareItem origin).1
      ∧ (w.prepareItem origin).1.scope.subsect.or (w.prepareItem origin).1.scope.sect
          = some (w.prepareItem origin).2 := by
  obtain ⟨moves, opened⟩ := ensureFile_moves mine sound place
  have sound := moves.sound sound
  simp only [prepareItem, ensureSect]
  generalize w.ensureFile origin = ensured at moves opened sound
  obtain ⟨w', file⟩ := ensured
  simp only at moves opened sound ⊢
  cases sect : w'.scope.sect with
  | none =>
    -- without a section nothing inner is open, so the handler leaves the scope of a new section
    obtain ⟨noSub, noItem⟩ := Scope.Sound.inner_eq_none sound sect
    refine ⟨moves.tail ?_, by simp [noSub]⟩
    have move := @Move.sect here mine w' file
      { kind := .sect, title := "Section", origin } opened place rfl
    simpa [noSub, noItem] using move
  | some sect' =>
    -- otherwise it does what closing the item does
    have container : { w'.scope with item := none }.innermost
        = some (w'.scope.subsect.getD sect') := by
      rw [Scope.innermost, sect]
      cases w'.scope.subsect <;> rfl
    refine ⟨moves.tail ?_, ?_⟩
    · have move := @Move.close here mine w'
      rwa [closeItem_eq sound, Scope.shutItem, container] at move
    · simp only [sect]
      cases w'.scope.subsect <;> rfl

/-- Each warning of a footnote is a move. -/
theorem warnFootnotes_moves (within : block.Within here) :
    Moves here mine w (w.warnFootnotes block) := by
  unfold warnFootnotes
  generalize bareFootnotes (footnoteParts block.subtitle) = bare
  induction bare generalizing w with
  | nil => exact .refl
  | cons part rest ih =>
    exact .head (.note ⟨block.origin, .warning, footnoteWarning part block.title⟩ within.origin) ih

/-- Information on a File is one move, after the warnings and the File. -/
theorem describeFile_moves {field : FileField} (sound : w.Sound base)
    (within : block.Within here) : Moves here mine w (w.describeFile field block).1 := by
  unfold describeFile
  split
  · exact .refl
  · have warned : Moves here mine w
        (if field = .footnotes then w.warnFootnotes block else w) := by
      split
      · exact warnFootnotes_moves within
      · exact .refl
    have sound := warned.sound sound
    obtain ⟨moves, opened⟩ := ensureFile_moves mine sound within.origin
    exact warned.trans (moves.tail (.describe _ _ opened))

/-! ## Images and word lists -/

/-- An image has one of two titles, however its block was titled. -/
theorem title_of_image {title : String} {kind : LeafKind}
    (role : LeafRole.ofTitle title = .image kind) : title = "Example" ∨ title = "Figure" := by
  unfold LeafRole.ofTitle at role
  split at role
  all_goals first
    | exact .inl rfl
    | exact .inr rfl
    | cases role

theorem title_of_images {title image : String} {kind : LeafKind}
    (role : LeafRole.ofTitle title = .images image kind) : image = "Example" ∨ image = "Figure" := by
  unfold LeafRole.ofTitle at role
  split at role
  all_goals first
    | cases role; exact .inl rfl
    | cases role; exact .inr rfl
    | cases role

/-- Each image of several is a move, and the item stays open. -/
theorem foldl_addChild_moves {item : Nat} {kind : LeafKind} (nodes : List Node)
    (opened : w.scope.item = some item)
    (good : ∀ node ∈ nodes, here node.origin ∧ node.kind = .leaf kind
      ∧ (node.title = "Example" ∨ node.title = "Figure")) :
    Moves here mine w { w with document := nodes.foldl (·.addChild item ·) w.document } := by
  induction nodes generalizing w with
  | nil => exact .refl
  | cons node rest ih =>
    obtain ⟨place, leaf, titled⟩ := good node (List.mem_cons_self ..)
    refine .head (.image item kind node opened place leaf titled) ?_
    exact ih (w := { w with document := w.document.addChild item node }) opened
      fun other mem => good other (List.mem_cons_of_mem _ mem)

/-- An image is one move, in an item. -/
theorem addImage_moves {kind : LeafKind} (role : LeafRole.ofTitle block.title = .image kind)
    (within : block.Within here) : Moves here mine w (w.addImage kind block).1 := by
  unfold addImage
  split
  · exact .refl
  · rename_i item opened
    exact .single (.image item kind _ opened within.origin rfl (title_of_image role))

/-- Each image of a plural block stands at its own body line. -/
theorem imageNodes_within {title : String} {kind : LeafKind} (within : block.Within here)
    {node : Node} (mem : node ∈ imageNodes title kind block) :
    here node.origin ∧ node.kind = .leaf kind ∧ node.title = title := by
  obtain ⟨⟨line, n⟩, at_, rfl⟩ := List.mem_map.mp mem
  have lt : n < block.body.length :=
    (List.getElem?_eq_some_iff.mp (List.mem_zipIdx_iff_getElem?.mp at_)).1
  exact ⟨within (n + 1) lt, rfl, rfl⟩

/-- The images of a plural block are a move each, in an item. -/
theorem addImages_moves {title : String} {kind : LeafKind}
    (role : LeafRole.ofTitle block.title = .images title kind) (within : block.Within here) :
    Moves here mine w (w.addImages title kind block).1 := by
  unfold addImages
  split
  · exact .refl
  · rename_i item opened
    have good : ∀ node ∈ imageNodes title kind block, here node.origin ∧ node.kind = .leaf kind
        ∧ (node.title = "Example" ∨ node.title = "Figure") := by
      intro node mem
      obtain ⟨place, leaf, same⟩ := imageNodes_within within mem
      exact ⟨place, leaf, same ▸ title_of_images role⟩
    exact foldl_addChild_moves _ opened good

/-- A list of words is one move, in an item. -/
theorem addWordList_moves {list : WordList} (role : LeafRole.ofTitle block.title = .words list)
    (within : block.Within here) : Moves here mine w (w.addWordList list block).1 := by
  unfold addWordList
  split
  · exact .refl
  · rename_i item opened
    exact .single (.words item list block opened within.origin role)

/-! ## Registered blocks -/

variable (mine) in
/-- The place for a registered block is the parent, and its rule allows it. -/
theorem placeFor_moves (rule : Rule) {origin : Origin} (sound : w.Sound base)
    (place : here origin) :
    Moves here mine w (w.placeFor rule origin).1
      ∧ (w.placeFor rule origin).1.registry = w.registry
      ∧ ∀ parent, (w.placeFor rule origin).2 = some parent →
          (w.placeFor rule origin).1.scope.parent = some parent
            ∧ Admits rule (w.placeFor rule origin).1 parent := by
  unfold placeFor
  cases opened : w.scope.parent with
  | some parent =>
    cases bound : rule.parent with
    | none =>
      refine ⟨.refl, rfl, ?_⟩
      rintro _ ⟨⟩
      exact ⟨opened, fun kind same => by simp [bound] at same⟩
    | some kind =>
      refine ⟨.refl, rfl, fun chosen h => ?_⟩
      by_cases fits : (w.document.node? parent).any (·.tag = kind)
      · simp only [fits, if_true, Option.some.injEq] at h
        subst h
        refine ⟨opened, fun other same => ?_⟩
        obtain rfl : kind = other := by simpa [bound] using same
        cases found : w.document.node? parent with
        | none => simp [found] at fits
        | some node => simpa [Document.tag?, found] using fits
      · simp [fits] at h
  | none =>
    cases bound : rule.parent with
    | some kind => exact ⟨.refl, rfl, fun chosen h => by simp at h⟩
    | none =>
      obtain ⟨moves, -⟩ := ensureFile_moves mine sound place
      refine ⟨moves, ensureFile_registry w origin, ?_⟩
      rintro _ ⟨⟩
      have shut : w.scope.file = none := Scope.Sound.file_eq_none sound opened
      exact ⟨by simp [ensureFile, shut], fun kind same => by simp [bound] at same⟩

/-- Shaping a block may move its subtitle into the body, nothing else. -/
theorem shaped_eq_ok {kind : LeafKind} {after : Block} (h : shaped kind block = .ok after) :
    after = block
      ∨ after = { block with subtitle := "", body := block.subtitle :: block.body } := by
  unfold shaped at h
  split at h
  · split at h
    · exact .inl (by simpa using h.symm)
    · simp at h
  · split at h
    · exact .inl (by simpa using h.symm)
    · exact .inr (by simpa using h.symm)
  · exact .inl (by simpa using h.symm)

theorem entriesOf_nil : Text.entriesOf "" = [] := by decide

/-- A shaped block lists no name that the block did not list. -/
theorem shaped_lists {kind : LeafKind} {registry : Registry} {after : Block}
    (h : shaped kind block = .ok after) (lists : block.Lists mine registry) :
    after.Lists mine registry := by
  rcases shaped_eq_ok h with rfl | rfl
  · exact lists
  · intro rule found hook name mem
    simp [entriesOf_nil] at mem

/-- Names that pass the examination are free, and each is given once. -/
theorem freeNames_eq_ok {names free : List String} (h : w.freeNames names = .ok free) :
    free = names.eraseDups ∧ ∀ name ∈ free, w.index.lookup? name = none := by
  unfold freeNames at h
  split at h
  · simp at h
  · rename_i untaken
    obtain rfl : names.eraseDups = free := by simpa using h
    refine ⟨rfl, fun name mem => ?_⟩
    have := List.find?_eq_none.mp untaken name (List.mem_eraseDups.mp mem)
    simpa [NameIndex.contains] using this

/-- What is left of a list without its repetitions has none. -/
theorem nodup_eraseDups {α : Type} [BEq α] [LawfulBEq α] (names : List α) :
    names.eraseDups.Nodup := by
  induction h : names.length using Nat.strongRecOn generalizing names with
  | ind n ih =>
    cases names with
    | nil => simp
    | cons name rest =>
      rw [List.eraseDups_cons, List.nodup_cons]
      refine ⟨by simp, ih _ ?_ _ rfl⟩
      have := List.length_filter_le (fun other => !other == name) rest
      simp only [List.length_cons] at h
      omega

/-- **A block with a rule** is one move, that of its hook, after that of a File it needs. -/
theorem addRegistered_moves {rule : Rule} (sound : w.Sound base) (within : block.Within here)
    (found : w.registry.lookup? block.title = some rule)
    (lists : block.Lists mine w.registry) : Moves here mine w (w.addRegistered rule block).1 := by
  obtain ⟨moves, kept, placed⟩ := placeFor_moves mine rule sound within.origin
  unfold addRegistered
  generalize w.placeFor rule block.origin = place at moves kept placed
  obtain ⟨w', parent⟩ := place
  simp only at moves kept placed
  -- a placeholder may stand there now, but the rules are the same
  rw [← kept] at found lists
  cases parent with
  | none => exact moves
  | some parent =>
    obtain ⟨opened, admits⟩ := placed parent rfl
    simp only
    split
    · exact moves
    · rename_i block' shape
      have title : block'.title = block.title := by rcases shaped_eq_ok shape with rfl | rfl <;> rfl
      have origin : block'.origin = block.origin := by
        rcases shaped_eq_ok shape with rfl | rfl <;> rfl
      have lists := shaped_lists shape lists
      rw [← title] at found
      have place : here block'.origin := origin ▸ within.origin
      split
      · exact moves
      · rename_i names examined
        refine moves.tail ?_
        cases hook : rule.hook with
        | none => exact .leaf parent rule block' opened found admits hook place
        | some hook' =>
          cases hook' with
          | status => exact .status parent rule block' opened found admits hook place
          | aliases =>
            simp only [aliasesOf, hook] at examined
            obtain ⟨given, free⟩ := freeNames_eq_ok examined
            have owned : ∀ name ∈ names, mine name := by
              intro name mem
              rw [given] at mem
              exact lists rule found hook name (List.mem_eraseDups.mp mem)
            have nodup : names.Nodup := given ▸ nodup_eraseDups _
            simp only [runHook]
            rw [foldl_addAlias parent names _ (by exact free) nodup]
            exact .aliases parent rule block' names opened found admits hook place given owned free

/-- **A leaf** is a sequence of moves, whatever is open. -/
theorem addLeaf_moves (sound : w.Sound base) (within : block.Within here)
    (lists : block.Lists mine w.registry) : Moves here mine w (w.addLeaf block).1 := by
  unfold addLeaf
  cases role : LeafRole.ofTitle block.title with
  | image kind => exact addImage_moves role within
  | images title kind => exact addImages_moves role within
  | words list =>
    simp only
    split
    · rename_i rule found
      exact addRegistered_moves sound within found lists
    · exact addWordList_moves role within
  | plain =>
    simp only
    split
    · rename_i rule found
      exact addRegistered_moves sound within found lists
    · exact .refl

/-! ## Items -/

/-- An underlined heading names places of its item's body. -/
theorem within_of_mem_split (within : block.Within here) {inner : Block}
    (mem : inner ∈ (splitAtHeadings block.origin 0 block.body).2) : inner.Within here := by
  obtain ⟨file, -, above, below⟩ := splitAtHeadings_inside mem
  intro n le
  have place := within (inner.origin.line - block.origin.line + n) (by omega)
  rw [file]
  rwa [show block.origin.line + (inner.origin.line - block.origin.line + n)
    = inner.origin.line + n by omega] at place

/-- An underlined heading lists no names. -/
theorem lists_of_mem_split {registry : Registry} {inner : Block}
    (mem : inner ∈ (splitAtHeadings block.origin 0 block.body).2) :
    inner.Lists mine registry := by
  obtain ⟨-, bare, -⟩ := splitAtHeadings_inside mem
  intro rule found hook name named
  simp [bare, entriesOf_nil] at named

/-- A refusal is logged at its header. -/
theorem settle_moves (within : block.Within here) {handled : Walk × Verdict}
    (moves : Moves here mine w handled.1) : Moves here mine w (settle block handled) := by
  obtain ⟨w', verdict⟩ := handled
  cases verdict with
  | accepted => exact moves
  | dropped => exact moves
  | rejected cause =>
    exact moves.tail (.note ⟨block.origin, .failure, _⟩ within.origin)

theorem foldl_addLeaf_moves (leaves : List Block) (sound : w.Sound base)
    (good : ∀ leaf ∈ leaves, leaf.Within here ∧ ∀ registry, leaf.Lists mine registry) :
    Moves here mine w (leaves.foldl (fun w leaf => settle leaf (w.addLeaf leaf)) w) := by
  induction leaves generalizing w with
  | nil => exact .refl
  | cons leaf rest ih =>
    obtain ⟨within, lists⟩ := good leaf (List.mem_cons_self ..)
    have first : Moves here mine w (settle leaf (w.addLeaf leaf)) :=
      settle_moves within (addLeaf_moves sound within (lists _))
    exact first.trans
      (ih (first.sound sound) fun other mem => good other (List.mem_cons_of_mem _ mem))

/-- An item that is not refused has a name, and the name is free. -/
theorem of_itemCause?_eq_none {name : String} (h : w.itemCause? name = none) :
    name ≠ "" ∧ w.index.lookup? name = none := by
  unfold itemCause? at h
  split at h
  · simp at h
  · rename_i named
    split at h
    · simp at h
    · rename_i free
      exact ⟨named, free⟩

/-- **An item** is one move, after those of the containers it needs; the blocks under its headings
    are leaves. -/
theorem openItem_moves (sound : w.Sound base) (within : block.Within here)
    (name : block.subtitle ≠ "" → mine block.subtitle) :
    Moves here mine w (w.openItem block).1 := by
  obtain ⟨moves, opened⟩ := prepareItem_moves mine sound within.origin
  unfold openItem
  generalize w.prepareItem block.origin = prepared at moves opened
  obtain ⟨w', container⟩ := prepared
  simp only at moves opened ⊢
  split
  · exact moves
  · rename_i passed
    obtain ⟨named, free⟩ := of_itemCause?_eq_none passed
    -- the headings in the body are handled under the item that has just been opened
    have added := moves.tail (.item container
      { block with body := (splitAtHeadings block.origin 0 block.body).1 }
      opened within.origin (name named) named free)
    refine added.trans (foldl_addLeaf_moves _ (Moves.sound added sound) fun leaf mem => ?_)
    exact ⟨within_of_mem_split within mem, fun registry => lists_of_mem_split mem⟩

/-! ## Any block -/

/-- A definition or a directive is one move, if it is accepted. -/
theorem define_moves : Moves here mine w (w.define block).1 := by
  unfold define
  split
  · exact .refl
  · split
    · exact .refl
    · rename_i registry defined
      unfold Registry.define at defined
      split at defined
      · simp at defined
      · rename_i rule made
        obtain rfl : w.registry.insert block.subtitle rule = registry := by simpa using defined
        exact .single (.define _ _ (Rule.hook_ofOptions made))

theorem configure_moves {directive : Directive} :
    Moves here mine w (w.configure directive block).1 := by
  unfold configure
  split
  · exact .refl
  · split
    · exact .refl
    · exact .single (.configure _)

/-- **Any block is a sequence of moves.**  Its own names have to be among those that the unit may
    register: the subtitle of an item, and the further names that it lists. -/
theorem dispatch_moves (sound : w.Sound base) (within : block.Within here)
    (name : TitleRole.ofTitle block.title = .item → block.subtitle ≠ "" → mine block.subtitle)
    (lists : block.Lists mine w.registry) : Moves here mine w (w.dispatch block).1 := by
  unfold dispatch
  split
  · exact define_moves
  · exact configure_moves
  · exact openFile_moves within
  · split
    · exact .refl
    · unfold placeBlock
      split
      · exact openSect_moves sound within
      · exact openSubsect_moves within
      · exact describeFile_moves sound within
      · rename_i role
        split
        · exact addLeaf_moves sound within lists
        · exact openItem_moves sound within (name role)
      · exact addLeaf_moves sound within lists

end Walk

end DocComments
