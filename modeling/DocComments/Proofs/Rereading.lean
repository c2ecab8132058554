/-
  Reading a unit a second time declares nothing.

  The second reading does not go the way of the first: the items are there already, so none is open
  when the blocks come that belong to them.  What carries over is which headers are handled as
  items.  That is decided by the lines (`visit_settings`) and by the rules from before the unit,
  and these have at most become more; so an item header of the second reading was one in the first
  (`reachesItem_again`).

  There it was accepted or refused, and either way the index BARS its name from then on
  (`Visit.barred`): a name that is taken stays taken, and the other reasons for a refusal lie in the
  name itself.  So the second reading refuses every item header.  With no item open and none added,
  no name can be registered at all, because further names go to an open item (`Moves.idle`).
-/
import DocComments.Proofs.ClosedItems
import DocComments.Proofs.Configuration
import DocComments.Proofs.Naming

namespace DocComments

/-! ## Names under which nothing can be declared -/

/-- No item can be declared under the name. -/
def NameIndex.Bars (index : NameIndex) (name : String) : Prop :=
  name = "" ∨ index.contains name ∨ Walk.hasParenthesized name.toList

instance (index : NameIndex) (name : String) : Decidable (index.Bars name) :=
  inferInstanceAs (Decidable (_ ∨ _ ∨ _))

/-- An index with more names bars more. -/
theorem NameIndex.Bars.mono {index after : NameIndex} {name : String} (bars : index.Bars name)
    (kept : index.contains name → after.contains name) : after.Bars name := by
  rcases bars with empty | taken | inner
  · exact .inl empty
  · exact .inr (.inl (kept taken))
  · exact .inr (.inr inner)

namespace Walk

variable {here : Origin → Prop} {mine : String → Prop} {base : Nat} {w after : Walk}

/-- An item header is refused exactly when its name is barred. -/
theorem itemCause?_eq_none_iff {name : String} :
    w.itemCause? name = none ↔ ¬ w.index.Bars name := by
  unfold itemCause? NameIndex.Bars NameIndex.contains
  by_cases empty : name = ""
  · simp [empty]
  · cases w.index.lookup? name with
    | some owner => simp [empty]
    | none => simp [empty]

/-- An item takes its name. -/
theorem startItem_index {block : Block}
    (passed : (w.prepareItem block.origin).1.itemCause? block.subtitle = none) :
    (w.startItem block).index
      = (w.prepareItem block.origin).1.index.enroll [block.subtitle]
          (w.prepareItem block.origin).1.document.size := by
  obtain ⟨-, free⟩ := of_itemCause?_eq_none passed
  simp only [startItem, addItem, NameIndex.register, free]
  rfl

/-- A name that is taken stays taken. -/
theorem Move.contains (move : Move here mine w after) {name : String}
    (taken : w.index.contains name) : after.index.contains name := by
  have enrolled : ∀ names id, (w.index.enroll names id).contains name := by
    intro names id
    rw [NameIndex.contains, NameIndex.lookup?_enroll]
    split
    · rfl
    · exact taken
  cases move with
  | close =>
    rw [closeItem_toSession]
    exact taken
  | item container block opened place name' named free =>
    rw [addItem_eq free]
    exact enrolled _ _
  | aliases => exact enrolled _ _
  | _ => exact taken

theorem Moves.contains (moves : Moves here mine w after) {name : String}
    (taken : w.index.contains name) : after.index.contains name := by
  induction moves with
  | refl => exact taken
  | tail _ move ih => exact move.contains ih

/-! ## Walks without items -/

/-- **Without an item no name is registered:** a move that adds no item, where none is open, leaves
    the index as it is and opens none. -/
theorem Move.idle (move : Move here mine w after) (sound : w.Sound base)
    (built : w.registry.active.HooksBuiltIn) (shut : w.scope.item = none)
    (same : w.document.SameItems after.document) :
    after.index = w.index ∧ after.scope.item = none := by
  cases move with
  | close =>
    rw [closeItem_toSession]
    exact ⟨rfl, item_closeItem w⟩
  | file node noFile place kind => exact ⟨rfl, rfl⟩
  | sect file node opened place kind => exact ⟨rfl, rfl⟩
  | subsect sect node opened place kind named => exact ⟨rfl, rfl⟩
  | item container block opened place name named free =>
    have added := (addItem_items opened sound block w.document.size).mpr (.inl rfl)
    have old := (same _).mp added
    simp [Document.tag?_size] at old
  | aliases parent rule block names opened found admits hook place given owned free =>
    -- the hook is a built-in one, so the parent is an item, which is a parent while it is open only
    have isItem : w.document.tag? parent = some .item := admits _ (built.aliases found hook).2
    have closed : w.Closed parent := ⟨isItem, by simp [shut]⟩
    exact absurd rfl (closed.ne_of_parent sound opened)
  | _ => exact ⟨rfl, shut⟩

theorem Moves.idle (moves : Moves here mine w after) (sound : w.Sound base)
    (built : w.registry.active.HooksBuiltIn) (shut : w.scope.item = none)
    (same : w.document.SameItems after.document) :
    after.index = w.index ∧ after.scope.item = none := by
  induction moves with
  | refl => exact ⟨rfl, shut⟩
  | @tail mid after before move ih =>
    have sound' : mid.Sound base := Moves.sound before sound
    -- items stay items, so there was none to add before the last move, and none with it
    have first : w.document.SameItems mid.document := by
      intro id
      constructor
      · intro isItem
        rw [← same id, (move.grows sound').tag?_eq id (Document.lt_of_tag? isItem)]
        exact isItem
      · intro isItem
        rw [(Moves.grows before sound).tag?_eq id (Document.lt_of_tag? isItem)]
        exact isItem
    have second : mid.document.SameItems after.document := fun id => (same id).trans (first id).symm
    obtain ⟨index, shut'⟩ := ih first
    obtain ⟨index', shut''⟩ := move.idle sound' ((Moves.rules before).2 built) shut' second
    exact ⟨index'.trans index, shut''⟩

end Walk

/-! ## Item headers -/

namespace Visit

variable {v : Visit} {base : Nat}

/-- **An item header that has been read bars its name,** whether it was accepted or not. -/
theorem barred (sound : v.walk.Sound base) (reaches : v.ReachesItem) :
    v.settled.index.Bars v.header.subtitle := by
  obtain ⟨⟨body, extracted⟩, takes⟩ := reaches
  let block := v.header.block body v.origin
  show v.settled.index.Bars block.subtitle
  cases passed : (v.walk.prepareItem block.origin).1.itemCause? block.subtitle with
  | some cause =>
    have bars : (v.walk.prepareItem block.origin).1.index.Bars block.subtitle := by
      refine Decidable.byContradiction fun free => ?_
      rw [Walk.itemCause?_eq_none_iff.mpr free] at passed
      simp at passed
    rw [Walk.settled_ok extracted, Walk.dispatch_of_takesItem takes,
      Walk.openItem_of_cause passed]
    exact bars
  | none =>
    -- the item takes the name, and the blocks under its headings leave it taken
    have started : (v.walk.startItem block).index.contains block.subtitle := by
      rw [Walk.startItem_index passed]
      simp [NameIndex.contains, NameIndex.lookup?_enroll]
    have leaves : (v.walk.startItem block).Leads v.settled := by
      rw [settled_of_passed extracted takes passed]
      exact Walk.foldl_addLeaf_moves _ (Walk.startItem_sound sound block passed)
        fun _ _ => ⟨fun _ _ => trivial, fun _ _ _ _ _ _ => trivial⟩
    exact .inr (.inl (leaves.contains started))

/-- An item header with a barred name is refused. -/
theorem refused_of_barred (reaches : v.ReachesItem)
    (bars : v.walk.index.Bars v.header.subtitle) : ∃ cause, v.verdict = .rejected cause := by
  obtain ⟨⟨body, extracted⟩, takes⟩ := reaches
  let block := v.header.block body v.origin
  cases passed : (v.walk.prepareItem block.origin).1.itemCause? block.subtitle with
  | some cause =>
    refine ⟨cause, ?_⟩
    rw [verdict_ok extracted, Walk.dispatch_of_takesItem takes, Walk.openItem_of_cause passed]
  | none =>
    have free := Walk.itemCause?_eq_none_iff.mp passed
    rw [(v.walk.prepareItem_undisturbed block.origin).1.index] at free
    exact absurd bars free

/-- A header that opens no item adds none. -/
theorem sameItems_settled (sound : v.walk.Sound base) (opensNone : ∀ id, ¬ v.OpensItem id) :
    v.walk.document.SameItems v.settled.document := by
  intro id
  constructor
  · intro isItem
    refine Decidable.byContradiction fun new => ?_
    exact opensNone id (opensItem_of_added sound new isItem)
  · intro isItem
    have grows := (settled_leads sound).grows sound
    rw [grows.tag?_eq id (Document.lt_of_tag? isItem)]
    exact isItem

end Visit

namespace Session

variable {s later : Session} {file : String} {lines rest : List String} {past future : List Visit}
  {w : Walk} {line : Nat} {v : Visit}

/-- After a unit the names of its item headers are barred. -/
theorem barred_of_visit (met : v ∈ s.visits file lines) (reaches : v.ReachesItem) :
    (s.walkUnit file lines).index.Bars v.header.subtitle := by
  have sound := visit_sound met
  obtain ⟨past, future, split⟩ := List.append_of_mem met
  have after : v.settled.Leads (s.walkUnit file lines) := by
    have left : v.left.Sound s.document.size :=
      v.left_leads.sound ((Visit.settled_leads sound).sound sound)
    rw [walkUnit_eq_of_visit split]
    exact (v.left_leads.trans (Walk.readFrom_leads left _ _ _)).tail .close
  exact (Visit.barred sound reaches).mono after.contains

/-- **A unit whose item headers are all barred declares nothing:** there is no further name, no item
    is open at any stop, and there is no further item. -/
theorem Visited.idle (stop : s.Visited file lines past w line rest)
    (built : s.registry.baseline.HooksBuiltIn)
    (barred : ∀ v ∈ past, v.ReachesItem → s.index.Bars v.header.subtitle) :
    w.index = s.index ∧ w.scope.item = none ∧ s.document.SameItems w.document := by
  induction stop with
  | start => exact ⟨rfl, rfl, .refl _⟩
  | @next past w line rest before more ih =>
    obtain ⟨index, shut, items⟩ := ih fun v mem => barred v (List.mem_append_left _ mem)
    have sound := before.stops.sound
    have entered : s.enter.Leads w :=
      before.stops.moves (fun _ _ => trivial) fun _ _ => registers_any _ _
    have rules : w.registry.active.HooksBuiltIn := (Walk.Moves.rules entered).2 built
    have leads := Walk.readBlock_leads sound file line rest
    have same : w.document.SameItems (w.readBlock file line rest).1.document := by
      cases found : w.visit? file line rest with
      | none =>
        rw [(Walk.readBlock_of_visit?_eq_none found).1, w.skipLines_toSession]
        exact .refl _
      | some v =>
        have skipped : v.walk.toSession = w.toSession := by
          rw [(Walk.of_visit? found).1, w.skipLines_toSession]
        have closed : ∀ id, ¬ v.OpensItem id := by
          rintro id ⟨reaches, accepted, -⟩
          have bars := barred v (by simp [found]) reaches
          rw [← index, ← congrArg Session.index skipped] at bars
          obtain ⟨cause, refused⟩ := Visit.refused_of_barred reaches bars
          simp [refused] at accepted
        have settled := Visit.sameItems_settled ((Walk.visit_leads found).sound sound) closed
        rw [Walk.readBlock_of_visit? found, v.left_toSession, ← congrArg Session.document skipped]
        exact settled
    obtain ⟨index', shut'⟩ := Walk.Moves.idle leads sound rules shut same
    exact ⟨index'.trans index, shut', items.trans same⟩

/-! ## The second reading -/

/-- **An item header of a later reading was one before,** where no rule has been lost in between:
    the lines decide the rest. -/
theorem reachesItem_again (mode : later.mode = s.mode)
    (kept : ∀ title, (s.registry.baseline.lookup? title).isSome →
      (later.registry.baseline.lookup? title).isSome)
    (met : v ∈ later.visits file lines) (reaches : v.ReachesItem) :
    ∃ u ∈ s.visits file lines, u.ReachesItem ∧ u.header = v.header := by
  obtain ⟨past', future', split'⟩ := List.append_of_mem met
  -- the same passages, so a visit of its own with the same blocks before it
  have same : (s.visits file lines).map Visit.passage
      = past'.map Visit.passage ++ v.passage :: future'.map Visit.passage := by
    rw [s.visits_passage, ← later.visits_passage, split', List.map_append, List.map_cons]
  obtain ⟨past, tail, split, before, rest⟩ := List.map_eq_append_iff.mp same
  obtain ⟨u, future, rfl, passage, -⟩ := List.map_eq_cons_iff.mp rest
  have header : u.header = v.header := congrArg Passage.header passage
  have body_eq : u.rest = v.rest := congrArg Passage.rest passage
  have blocks : blocksOf past = blocksOf past' := by
    have eq : ∀ visits, blocksOf visits = (visits.map Visit.passage).filterMap Passage.block? := by
      intro visits
      rw [List.filterMap_map]
      rfl
    rw [eq, eq, before]
  have settings := visit_settings split
  have settings' := visit_settings split'
  rw [Settings.foldl_after] at settings settings'
  rw [blocks] at settings
  have awaits : u.walk.awaitsFile = v.walk.awaitsFile := by
    have first := congrArg Settings.awaits settings
    have second := congrArg Settings.awaits settings'
    simp only [Walk.settings, Walk.awaitsFile, enter, mode] at first second ⊢
    rw [first, second]
  have ruled : u.walk.registry.contains v.header.title →
      v.walk.registry.contains v.header.title := by
    have first := congrArg (·.registry.active) settings
    have second := congrArg (·.registry.active) settings'
    simp only [Walk.settings, enter, Registry.reset] at first second
    simp only [Registry.contains, Registry.lookup?, first, second,
      RuleTable.isSome_lookup?_override]
    exact Or.imp (kept _) id
  obtain ⟨⟨body, extracted⟩, takes⟩ := reaches
  refine ⟨u, by simp [split], ⟨⟨body, body_eq ▸ extracted⟩, ?_⟩, header⟩
  simp only [Walk.takesItem, Bool.and_eq_true, decide_eq_true_eq, Bool.not_eq_true'] at takes ⊢
  rw [header, awaits]
  obtain ⟨⟨role, plain⟩, admitted⟩ := takes
  refine ⟨⟨role, Bool.eq_false_iff.mpr fun earlier => ?_⟩, admitted⟩
  rw [ruled earlier] at plain
  simp at plain

/-- Calls take no name away. -/
theorem contains_after (s : Session) (calls : List Call) {name : String}
    (taken : s.index.contains name) : (s.after calls).index.contains name := by
  induction calls generalizing s with
  | nil => exact taken
  | cons c rest ih =>
    refine ih (s.call c).1 ?_
    rw [(call_walk s c).2.1]
    exact (walkUnit_moves_any s _ _).contains taken

/-- **Reading a unit a second time declares nothing,** whatever has been read in between: no name is
    registered, and no item is added. -/
theorem second_reading_declares_nothing (reached : s.Reachable) {c again : Call}
    (between : List Call) (source : again.source s.mode = c.source s.mode)
    (lines : again.lines = c.lines) :
    let mid := (s.call c).1.after between
    (mid.call again).2.names = [] ∧ (mid.call again).1.index = mid.index
      ∧ mid.document.SameItems (mid.call again).1.document := by
  intro mid
  have consistent : mid.Consistent := (reached.after (c :: between)).consistent
  obtain ⟨mode, -, rules⟩ := after_settings s (c :: between)
  have mode : mid.mode = s.mode := mode
  have rules : mid.registry.baseline = _ := rules
  have barred : ∀ v ∈ mid.visits (again.source mid.mode) again.lines, v.ReachesItem →
      mid.index.Bars v.header.subtitle := by
    intro v met reaches
    rw [mode, source, lines] at met
    obtain ⟨u, first, before, header⟩ := reachesItem_again mode
      (fun title ruled => by rw [rules, RuleTable.isSome_lookup?_override]; exact .inl ruled)
      met reaches
    have bars := barred_of_visit first before
    rw [← (call_walk s c).2.1, header] at bars
    exact bars.mono (contains_after _ between)
  obtain ⟨last, line, stop, ended⟩ := visited_all mid (again.source mid.mode) again.lines
  obtain ⟨index, -, items⟩ := stop.idle consistent.baseline barred
  obtain ⟨document', index', -⟩ := call_walk mid again
  rw [ended, Walk.closeItem_toSession] at document' index'
  refine ⟨?_, ?_, ?_⟩
  · rw [(call_eq mid again).1, readLines]
    simp only [ended, Walk.closeItem_toSession, index, NameIndex.since, NameIndex.size,
      List.drop_length]
  · rw [index', index]
  · rw [document']
    exact items

/-- An item with a further name, read a second time after another unit.  The second reading refuses
    the item and drops the block with the further name. -/
theorem second_reading_declares_nothing_alias :
    let unit : Call := .readLines ["// Function: f()", "// Alias: g"] "a"
    let mid := ((start {}).call unit).1.after [.readLines ["// Function: h()"] "b"]
    mid.index.names = ["f()", "g", "h()"] ∧ (mid.call unit).2.names = []
      ∧ mid.document.SameItems (mid.call unit).1.document := by
  intro unit mid
  have reached : (start {}).Reachable := ⟨{}, [], rfl⟩
  obtain ⟨names, -, items⟩ := @second_reading_declares_nothing (start {}) reached unit unit
    [.readLines ["// Function: h()"] "b"] rfl rfl
  exact ⟨by decide +kernel, names, items⟩

end Session

end DocComments
