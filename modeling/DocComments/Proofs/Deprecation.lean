/-
  Which status of an item counts.

  A `Status` block becomes a child of the open item and marks the item as deprecated or not, whatever
  it was before.  So the mark does not stick: of the statuses among the children of an item the last
  one decides (`Document.LastDecides`), and an item that one of them calls deprecated may be marked
  no longer.

  Both changes are one edit (`Document.Edit.status`), and no other edit touches either the mark or
  the children with this title.  That holds as long as no definition has taken the title.

    * `Edit.lastDecides`      what an edit adds to the statuses decides the mark;
    * `Edits.marked`          only a status changes a mark;
    * `last_status_decides`   every session, every header and every heading.
-/
import DocComments.Proofs.Edits
import DocComments.Proofs.Mirrors

namespace DocComments

/-! ## Marks and statuses -/

/-- The item with the number is marked as deprecated. -/
def Document.marked (doc : Document) (id : Nat) : Bool := (doc.info? id).any (·.deprecated)

/-- What a node says about the status of its item. -/
def Node.statuses (node : Node) : List String :=
  if node.title = "Status" then [node.subtitle] else []

theorem isTold_statuses : IsTold Node.statuses := by
  intro node other written _
  have title : node.title = other.title := congrArg Block.title written
  have subtitle : node.subtitle = other.subtitle := congrArg Block.subtitle written
  rw [Node.statuses, Node.statuses, title, subtitle]

namespace Document

variable {table : RuleTable} {marks : Nat → Bool → Prop} {doc after : Document} {id : Nat}

/-- The statuses of a node are the subtitles of its children with this title. -/
theorem gather_statuses (doc : Document) (id : Nat) :
    doc.gather Node.statuses id = (doc.childrenTitled id "Status").map (·.subtitle) := by
  rw [gather, childrenTitled]
  induction doc.childNodes id with
  | nil => rfl
  | cons child rest ih =>
    rw [List.flatMap_cons, ih, List.map_cons, List.filter_cons, Node.statuses]
    by_cases titled : child.2.title = "Status"
    · simp [titled]
    · simp [titled]

/-- At every item, the last of the statuses decides. -/
def LastDecides (doc : Document) : Prop :=
  ∀ id info, doc.info? id = some info →
    info.deprecated = (doc.gather Node.statuses id).getLast?.any (Text.contains · "DEPRECATED")

theorem exists_info? (isItem : doc.tag? id = some .item) : ∃ info, doc.info? id = some info := by
  obtain ⟨node, found, tag⟩ := Option.map_eq_some_iff.mp isItem
  rw [info?, found, Option.bind_some, Node.itemInfo?]
  rw [Node.tag] at tag
  cases kind : node.kind with
  | item info => exact ⟨info, rfl⟩
  | leaf leaf =>
    rw [kind] at tag
    exact absurd tag leaf.tag_ne_item
  | _ => simp [kind, NodeKind.tag] at tag

/-- What is not there is not marked. -/
theorem marked_eq_false (new : doc.size ≤ id) : doc.marked id = false := by
  rw [marked, info?, node?_eq_none new]
  rfl

/-! ### After an edit -/

/-- A new node and a change of the mark. -/
theorem info?_status (doc : Document) {item : Nat} (inside : item < doc.size) (block : Block)
    (deprecated : Bool) (id : Nat) :
    ((doc.addChild item (block.node (.leaf .label))).mapItem item
        (Walk.setDeprecated deprecated)).info? id
      = if id = item then (doc.info? id).map (Walk.setDeprecated deprecated)
        else doc.info? id := by
  have grown : (doc.addChild item (block.node (.leaf .label))).info? id = doc.info? id := by
    rw [info?_addChild doc inside]
    split
    · rename_i last
      rw [info?, node?_eq_none (Nat.le_of_eq last.symm)]
      rfl
    · rfl
  rw [info?_mapItem, grown]

/-- **Every edit leaves the decision to the last status,** where the title has its rule. -/
theorem Edit.lastDecides (kept : table.KeepsStatus) (edit : Edit table marks doc after)
    (decides : doc.LastDecides) : after.LastDecides := by
  have isTold := isTold_statuses
  intro id info carried
  cases edit with
  | root node file =>
    rw [info?_addRoot] at carried
    rw [gather_addRoot isTold]
    split at carried
    · simp [Node.itemInfo?, file] at carried
    · exact decides id info carried
  | child parent node plain =>
    by_cases inside : parent < doc.size
    · have silent : node.statuses = [] := if_neg (plain.titled kept)
      rw [info?_addChild doc inside] at carried
      rw [gather_addChild isTold doc inside, silent, List.append_nil, ite_self]
      split at carried
      · rename_i last
        have item : node.kind = .item info := by
          unfold Node.itemInfo? at carried
          split at carried
          · rename_i kind
            rw [kind, Option.some.inj carried]
          · cases carried
        rw [last, gather_size, plain.unmarked info item]
        rfl
      · exact decides id info carried
    · rw [addChild, dif_neg inside] at carried ⊢
      exact decides id info carried
  | describe file f =>
    rw [info?_mapFile] at carried
    rw [mapFile, gather_mapKind isTold _ _ (NodeKind.tag_mapFile f)]
    exact decides id info carried
  | enlarge item f same =>
    rw [info?_mapItem] at carried
    rw [mapItem, gather_mapKind isTold _ _ (NodeKind.tag_mapItem f)]
    split at carried
    · obtain ⟨old, found, rfl⟩ := Option.map_eq_some_iff.mp carried
      rw [same, decides id old found]
    · exact decides id info carried
  | status item block titled inside allowed =>
    have told : (block.node (.leaf .label)).statuses = [block.subtitle] := if_pos titled
    rw [info?_status doc inside] at carried
    rw [mapItem, gather_mapKind isTold _ _ (NodeKind.tag_mapItem _),
      gather_addChild isTold doc inside, told]
    split at carried
    · rename_i same
      obtain ⟨old, found, rfl⟩ := Option.map_eq_some_iff.mp carried
      rw [if_pos same, List.getLast?_append]
      rfl
    · rename_i other
      rw [if_neg other]
      exact decides id info carried

theorem Edits.lastDecides (kept : table.KeepsStatus) (edits : Edits table marks doc after)
    (decides : doc.LastDecides) : after.LastDecides := by
  induction edits with
  | refl => exact decides
  | tail _ edit ih => exact edit.lastDecides kept ih

/-- A mark is as before, or it is one of those that the edit may set. -/
theorem Edit.marked (edit : Edit table marks doc after) (id : Nat) :
    after.marked id = doc.marked id ∨ marks id (after.marked id) := by
  cases edit with
  | root node file =>
    refine .inl ?_
    rw [Document.marked, info?_addRoot]
    split
    · rename_i last
      rw [marked_eq_false (Nat.le_of_eq last.symm)]
      simp [Node.itemInfo?, file]
    · rfl
  | child parent node plain =>
    refine .inl ?_
    by_cases inside : parent < doc.size
    · rw [Document.marked, info?_addChild doc inside]
      split
      · rename_i last
        rw [marked_eq_false (Nat.le_of_eq last.symm)]
        unfold Node.itemInfo?
        split
        · rename_i info kind
          exact plain.unmarked info kind
        · rfl
      · rfl
    · rw [addChild, dif_neg inside]
  | describe file f => exact .inl (by rw [Document.marked, info?_mapFile, Document.marked])
  | enlarge item f same =>
    refine .inl ?_
    rw [Document.marked, info?_mapItem, Document.marked]
    split
    · cases doc.info? id with
      | none => rfl
      | some info => exact same info
    · rfl
  | status item block titled inside allowed =>
    rw [Document.marked, info?_status doc inside, Document.marked]
    split
    · rename_i same
      cases doc.info? id with
      | none => exact .inl rfl
      | some info => exact .inr (same ▸ allowed)
    · exact .inl rfl

/-- **Marks are as before,** or as the edits may set them. -/
theorem Edits.marked (edits : Edits table marks doc after) (id : Nat) :
    after.marked id = doc.marked id ∨ marks id (after.marked id) := by
  induction edits with
  | refl => exact .inl rfl
  | tail _ edit ih =>
    rcases edit.marked id with same | allowed
    · rw [same]
      exact ih
    · exact .inr allowed

/-- Edits that may only take marks away set none. -/
theorem Edits.unmarked (edits : Edits table marks doc after)
    (clears : ∀ deprecated, marks id deprecated → deprecated = false)
    (plain : doc.marked id = false) : after.marked id = false := by
  rcases edits.marked id with same | allowed
  · rw [same, plain]
  · exact clears _ allowed

end Document

/-! ## At every header -/

namespace Walk

variable {w : Walk} {base item : Nat} {block : Block}

/-- **A heading leaves all marks as they are** under an item that is not marked. -/
theorem headingsFrom_marked {leaves : List Block} {h : Heading} (ruled : w.Ruled base)
    (opened : w.scope.item = some item) (plain : w.document.marked item = false)
    (bare : ∀ leaf ∈ leaves, leaf.subtitle = "") (mem : h ∈ w.headingsFrom leaves) (id : Nat) :
    h.settled.document.marked id = h.walk.document.marked id := by
  induction leaves generalizing w with
  | nil => simp [headingsFrom] at mem
  | cons leaf rest ih =>
    -- without a subtitle, a status unmarks what is not marked
    have same : ∀ id, (settle leaf (w.addLeaf leaf)).document.marked id = w.document.marked id := by
      intro id
      rw [document_settle]
      rcases (addLeaf_edits ruled leaf).marked id with same | ⟨-, there, given⟩
      · exact same
      · obtain rfl : item = id := by simpa [opened] using there
        rw [given, plain, bare leaf (List.mem_cons_self ..)]
        decide
    rcases List.mem_cons.mp mem with rfl | later
    · exact same id
    · have kept : (settle leaf (w.addLeaf leaf)).scope.item = w.scope.item :=
        (settle_keepsItems (addLeaf_keepsItems w leaf)).item
      exact ih (ruled.leaf leaf) (kept.trans opened) ((same item).trans plain)
        (fun other mem => bare other (List.mem_cons_of_mem _ mem)) later

/-- **A status** that is accepted marks the open item as its subtitle says. -/
theorem dispatch_status (sound : w.Sound base) (kept : w.registry.active.KeepsStatus)
    (titled : block.title = "Status") (id : Nat) :
    (w.dispatch block).1.document.marked id
      = if (w.dispatch block).2 = .accepted ∧ w.scope.item = some id
        then Text.contains block.subtitle "DEPRECATED" else w.document.marked id := by
  cases awaits : w.awaitsFile with
  | true =>
    have role : TitleRole.ofTitle block.title = .leaf := by
      rw [titled]
      decide
    have early : w.dispatch block = (w, .rejected .fileRequired) := by
      have awaits : (w.mode.strict && w.scope.file.isNone) = true := awaits
      simp only [dispatch, role, awaits, if_true]
    simp [early]
  | false =>
    have found : w.registry.lookup? block.title = some statusRule := by
      rw [titled]
      exact kept
    have free : block.title ∉ grammarTitles := by
      rw [titled]
      decide
    have other : block.title ∉ imageTitles := by
      rw [titled]
      decide
    rw [dispatch_of_rule free other awaits found, addRegistered_status sound]
    cases opened : w.scope.item with
    | none => simp
    | some item =>
      by_cases bare : block.body = []
      · obtain ⟨info, carried⟩ := Document.exists_info? (Scope.Sound.item sound item opened).1.2
        simp only [bare, if_true, true_and, Option.some.injEq]
        rw [Document.marked, Document.info?_status _ (Scope.Sound.item_lt sound opened)]
        by_cases same : id = item
        · rw [if_pos same, if_pos same.symm, same, carried]
          rfl
        · rw [if_neg same, if_neg (Ne.symm same), Document.marked]
      · simp [bare]

end Walk

namespace Visit

variable {v : Visit} {base : Nat}

/-- **Only a status that is accepted changes a mark,** that of the item it stands under. -/
theorem marked_settled (ruled : v.walk.Ruled base) (kept : v.walk.registry.active.KeepsStatus)
    (id : Nat) :
    v.settled.document.marked id
      = if v.header.title = "Status" ∧ v.verdict = .accepted ∧ v.walk.scope.item = some id
        then Text.contains v.header.subtitle "DEPRECATED" else v.walk.document.marked id := by
  by_cases titled : v.header.title = "Status"
  · simp only [titled, true_and]
    cases extracted : Body.ofLines v.rest with
    | error n =>
      have refused : v.verdict = .rejected .underIndented := by rw [verdict, handled, extracted]
      rw [if_neg (by simp [refused]), settled, handled, extracted]
      rfl
    | ok body =>
      rw [(settled_of_dispatch extracted).2, verdict_ok extracted]
      exact Walk.dispatch_status ruled.sound kept titled id
  · rw [if_neg fun status => titled status.1]
    rcases (settled_edits ruled).marked id with same | ⟨status, -⟩ | ⟨new, unmarked⟩
    · exact same
    · have same : v.block.title = v.header.title := by
        unfold block
        split <;> rfl
      exact absurd (same ▸ status) titled
    · rw [unmarked, Document.marked_eq_false new]

/-- **A heading changes no mark:** its item has just been added. -/
theorem marked_heading (ruled : v.walk.Ruled base) {h : Heading} (mem : h ∈ v.headings) (id : Nat) :
    h.settled.document.marked id = h.walk.document.marked id := by
  unfold headings at mem
  split at mem
  · simp at mem
  · rename_i body extracted
    split at mem
    · rename_i takes
      have passed := (Walk.of_mem_headingsOf ruled.sound mem).1
      rw [Walk.headingsOf_of_passed passed] at mem
      obtain ⟨item, new, opened, -⟩ := Walk.openItem_opens ruled.sound _ passed
      have started : Document.Edits v.walk.registry.active (fun _ _ => False) v.walk.document
          (v.walk.startItem (v.header.block body v.origin)).document :=
        Walk.startItem_edits _ _ _ (Walk.title_ne_of_takesItem takes)
      have plain := started.unmarked (fun _ => nofun) (Document.marked_eq_false new)
      exact Walk.headingsFrom_marked (ruled.startItem _ passed).1 opened plain
        (fun leaf inside => (splitAtHeadings_inside inside).2.1) mem id
    · simp at mem

end Visit

/-! ## Every session -/

namespace Session

variable {s : Session} {file : String} {lines : List String} {v : Visit}

/-- The last status of every item decides, and the next unit finds the rule of the title as it
    was. -/
structure StatusDecides (s : Session) : Prop where
  made : s.Made
  kept : s.registry.baseline.KeepsStatus
  decides : s.document.LastDecides

/-- A unit that does not define the title has its rule at every header. -/
theorem StatusDecides.visit_kept (known : s.StatusDecides)
    (spared : ∀ rule, ("Status", rule) ∉ definitionsIn file lines)
    (met : v ∈ s.visits file lines) : v.walk.registry.active.KeepsStatus := by
  obtain ⟨past, future, split⟩ := List.append_of_mem met
  have before : ∀ rule, ("Status", rule) ∉ (blocksOf past).filterMap Block.definition? := by
    intro rule mem
    have all : definitionsIn file lines
        = (blocksOf (past ++ v :: future)).filterMap Block.definition? := by
      rw [definitionsIn, ← s.blocksOf_visits, split]
    rw [blocksOf, List.filterMap_append, List.filterMap_append] at all
    exact spared rule (all ▸ List.mem_append_left _ mem)
  rw [visit_rules split, RuleTable.KeepsStatus, RuleTable.lookup?_override_of_not_mem _ before]
  exact known.kept

/-- Whether the rules of the unit are to last or not. -/
theorem StatusDecides.walkUnit (known : s.StatusDecides)
    (spared : ∀ rule, ("Status", rule) ∉ definitionsIn file lines) :
    (s.walkUnit file lines).toSession.StatusDecides
      ∧ (s.walkUnit file lines).toSession.commit.StatusDecides := by
  have made := known.made.walkUnit file lines
  have decides : (s.walkUnit file lines).document.LastDecides := by
    refine (walkUnit_document known.decides fun v met decides => ?_).1
    have ruled := known.made.consistent.visit_ruled known.made.baseline met
    exact (Visit.settled_edits ruled).lastDecides (known.visit_kept spared met) decides
  obtain ⟨-, -, rules⟩ := s.walkUnit_rules file lines
  have baseline : (s.walkUnit file lines).registry.baseline.KeepsStatus := by
    rw [rules]
    exact known.kept
  have active : (s.walkUnit file lines).registry.active.KeepsStatus := by
    rw [rules, RuleTable.KeepsStatus, RuleTable.lookup?_override_of_not_mem _ spared]
    exact known.kept
  exact ⟨⟨made, baseline, decides⟩, ⟨made.commit, active, decides⟩⟩

/-- Sessions whose units leave the title alone. -/
theorem statusDecides_after {mode : Mode} {calls : List Call}
    (spared : ∀ c ∈ calls, ¬ c.Redefines mode "Status") :
    ((start mode).after calls).StatusDecides := by
  have fresh : StatusDecides { mode } := by
    refine ⟨made_fresh mode, rfl, fun id info carried => ?_⟩
    simp [Document.info?, Document.node?, Document.empty] at carried
  have started : (start mode).StatusDecides :=
    (fresh.walkUnit (not_mem_defaults (by decide))).2
  refine after_of_units (fun s file lines known spared => known.walkUnit spared) started ?_
  intro c mem rule defined
  rw [(start_settings mode).1] at defined
  exact spared c mem ⟨rule, defined⟩

/-- **The last status of an item decides whether it is deprecated.**  Take any calls whose units
    leave the title `Status` to its built-in rule.  Then an item is deprecated if and only if it has
    children with this title and the subtitle of the last of them holds `DEPRECATED`, whatever the
    earlier ones say.  In the next unit, if that leaves the title alone as well, a `Status` header
    that is accepted marks the item it stands under as its own subtitle says, and so may take the
    mark away; no other header changes a mark, nor does any heading in the body of an item. -/
theorem last_status_decides (mode : Mode) (calls : List Call)
    (spared : ∀ c ∈ calls, ¬ c.Redefines mode "Status") :
    let s := (start mode).after calls
    (∀ id node info, s.document.node? id = some node → node.itemInfo? = some info →
        (info.deprecated = true
          ↔ ∃ last, (s.document.childrenTitled id "Status").getLast? = some last
              ∧ Text.contains last.subtitle "DEPRECATED" = true))
      ∧ ∀ file lines, (∀ rule, ("Status", rule) ∉ definitionsIn file lines) →
          ∀ v ∈ s.visits file lines, ∀ id,
            (v.settled.document.marked id
              = if v.header.title = "Status" ∧ v.verdict = .accepted
                    ∧ v.walk.scope.item = some id
                then Text.contains v.header.subtitle "DEPRECATED"
                else v.walk.document.marked id)
            ∧ ∀ h ∈ v.headings, h.settled.document.marked id = h.walk.document.marked id := by
  intro s
  have known : s.StatusDecides := statusDecides_after spared
  refine ⟨fun id node info found isItem => ?_, fun file lines plain v met id => ?_⟩
  · have carried : s.document.info? id = some info := by
      rw [Document.info?, found, Option.bind_some, isItem]
    rw [known.decides id info carried, Document.gather_statuses, List.getLast?_map,
      Option.any_map, Option.any_eq_true]
  · have ruled := known.made.consistent.visit_ruled known.made.baseline met
    exact ⟨Visit.marked_settled ruled (known.visit_kept plain met) id,
      fun h mem => Visit.marked_heading ruled mem id⟩

/-- A status that comes late marks the item, whatever an earlier one says. -/
theorem last_status_decides_late :
    let s := (start {}).after [.readLines
      ["// Function: f()", "// Status: stable", "// Status: DEPRECATED, use g()"] "a"]
    ∃ info, s.document.info? 2 = some info ∧ info.deprecated = true
      ∧ ∃ last, (s.document.childrenTitled 2 "Status").getLast? = some last
          ∧ Text.contains last.subtitle "DEPRECATED" = true := by
  intro s
  have facts : s.document.info? 2 = some { deprecated := true } := by decide +kernel
  obtain ⟨node, found, isItem⟩ := Option.bind_eq_some_iff.mp facts
  have decides := last_status_decides {} [.readLines
    ["// Function: f()", "// Status: stable", "// Status: DEPRECATED, use g()"] "a"] fun c mem => by
      obtain rfl := List.mem_singleton.mp mem
      exact Call.not_redefines (by decide +kernel) _
  exact ⟨_, facts, rfl, (decides.1 2 node _ found isItem).mp rfl⟩

/-- **The mark does not stick:** the item has a status that calls it deprecated, and a later one has
    taken the mark away. -/
theorem later_status_unmarks :
    let calls := [Call.readLines
      ["// Function: f()", "// Status: DEPRECATED, use g()", "// Status: stable"] "a"]
    let s := (start {}).after calls
    (∀ c ∈ calls, ¬ c.Redefines {} "Status")
      ∧ (∃ info, s.document.info? 2 = some info ∧ info.deprecated = false)
      ∧ ∃ child ∈ s.document.childrenTitled 2 "Status",
          Text.contains child.subtitle "DEPRECATED" = true := by
  intro calls s
  refine ⟨fun c mem => ?_, ⟨{}, by decide +kernel, rfl⟩, ?_⟩
  · obtain rfl := List.mem_singleton.mp mem
    exact Call.not_redefines (by decide +kernel) _
  · have mentioned : (s.document.childrenTitled 2 "Status").any
        (Text.contains ·.subtitle "DEPRECATED") = true := by decide +kernel
    exact List.any_eq_true.mp mentioned

end Session

end DocComments
