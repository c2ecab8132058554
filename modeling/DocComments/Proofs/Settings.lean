/-
  What the headers of a unit decide by themselves.

  The SETTINGS of a walk are its mode, the project, the rules, and whether strict mode still waits
  for a File.  Whatever nodes, names and log entries a session has gathered, none of them has a say
  in these: a block takes them from one value to the next (`Settings.after`), and the blocks of a
  unit can be read off its lines (`blocksIn`).  So the settings at every header, and at the end of a
  unit, are a fold over the blocks before (`Visited.settings`, `walkUnit_settings`), and the fold
  has a closed form (`foldl_after`).

    * `Steady`              what all handlers keep but three;
    * `dispatch_settings`   what a block does to the settings, the one case analysis;
    * `foldl_after`         what many blocks do.
-/
import DocComments.Proofs.Passages
import DocComments.Proofs.Refusal

namespace DocComments

/-! ## Blocks and definitions, read off the lines -/

/-- The block of a passage; an under-indented body leaves none. -/
def Passage.block? (p : Passage) : Option Block :=
  match Body.ofLines p.rest with
  | .error _ => none
  | .ok body => some (p.header.block body p.origin)

/-- The blocks of a unit. -/
def blocksIn (file : String) (lines : List String) : List Block :=
  (passages file lines).filterMap Passage.block?

/-- The title that a block defines and the rule it gives to it, if it does so successfully. -/
def Block.definition? (block : Block) : Option (String × Rule) :=
  if TitleRole.ofTitle block.title = .define ∧ block.subtitle ≠ "" then
    (Rule.ofOptions block.options).toOption.map (Text.strip block.subtitle, ·)
  else none

/-- The successful definitions of a unit. -/
def definitionsIn (file : String) (lines : List String) : List (String × Rule) :=
  (blocksIn file lines).filterMap Block.definition?

/-- The table with definitions added one after the other, a later one in place of an earlier one of
    the same title. -/
def RuleTable.override (table : RuleTable) (definitions : List (String × Rule)) : RuleTable :=
  definitions.foldl (fun table definition => table.insert definition.1 definition.2) table

/-- Definitions count one after the other. -/
theorem RuleTable.override_append (table : RuleTable) (first second : List (String × Rule)) :
    table.override (first ++ second) = (table.override first).override second :=
  List.foldl_append

/-- A title has a rule afterwards if it had one, or is among those defined. -/
theorem RuleTable.isSome_lookup?_override (table : RuleTable) (definitions : List (String × Rule))
    (title : String) :
    ((table.override definitions).lookup? title).isSome
      ↔ (table.lookup? title).isSome ∨ title ∈ definitions.map (·.1) := by
  induction definitions generalizing table with
  | nil => simp [override]
  | cons first rest ih =>
    obtain ⟨defined, rule⟩ := first
    show ((override (table.insert defined rule) rest).lookup? title).isSome ↔ _
    rw [ih, List.map_cons, List.mem_cons]
    by_cases same : title = defined
    · subst same
      simp [lookup?_insert_self]
    · simp [lookup?_insert_of_ne table rule same, same]

/-- The project after a block: a directive counts in the configuration source only, and only if it
    can be applied. -/
def Project.after (configSource : String) (project : Project) (block : Block) : Project :=
  match TitleRole.ofTitle block.title with
  | .directive directive =>
    if block.origin.file = configSource then
      (project.apply directive block.subtitle block.body).toOption.getD project
    else project
  | _ => project

/-! ## Settings -/

/-- The part of a walk on which nodes, names and log have no influence. -/
structure Settings where
  mode : Mode
  project : Project
  registry : Registry
  /-- Strict mode still waits for a File. -/
  awaits : Bool

namespace Settings

/-- The settings after a block. -/
def after (settings : Settings) (block : Block) : Settings where
  mode := settings.mode
  project := settings.project.after settings.mode.configSource block
  registry := { settings.registry with
    active := settings.registry.active.override block.definition?.toList }
  awaits := settings.awaits && TitleRole.ofTitle block.title ≠ .file

/-- **The settings after many blocks.** -/
theorem foldl_after (settings : Settings) (blocks : List Block) :
    blocks.foldl after settings
      = { mode := settings.mode
          project := blocks.foldl (Project.after settings.mode.configSource) settings.project
          registry := { settings.registry with
            active := settings.registry.active.override (blocks.filterMap Block.definition?) }
          awaits := settings.awaits
            && blocks.all fun block => TitleRole.ofTitle block.title ≠ .file } := by
  induction blocks generalizing settings with
  | nil => simp [RuleTable.override]
  | cons block rest ih =>
    have definitions : (block :: rest).filterMap Block.definition?
        = block.definition?.toList ++ rest.filterMap Block.definition? := by
      rw [List.filterMap_cons]
      cases block.definition? <;> rfl
    rw [List.foldl_cons, ih, definitions, RuleTable.override_append]
    simp only [after, List.foldl_cons, List.all_cons, Bool.and_assoc]

end Settings

namespace Walk

variable {w after : Walk} {block : Block}

/-- The settings of a walk. -/
def settings (w : Walk) : Settings where
  mode := w.mode
  project := w.project
  registry := w.registry
  awaits := w.awaitsFile

/-- Mode, project and rules are as before, and a File that was open is not closed. -/
structure Steady (w after : Walk) : Prop where
  mode : after.mode = w.mode
  project : after.project = w.project
  registry : after.registry = w.registry
  file : w.scope.file ≠ none → after.scope.file ≠ none

theorem Steady.refl (w : Walk) : w.Steady w := ⟨rfl, rfl, rfl, id⟩

theorem Steady.trans {mid : Walk} (first : w.Steady mid) (second : mid.Steady after) :
    w.Steady after :=
  ⟨second.mode.trans first.mode, second.project.trans first.project,
    second.registry.trans first.registry, fun opened => second.file (first.file opened)⟩

/-- Where strict mode waits for nothing, it does not begin to wait. -/
theorem Steady.settings (steady : w.Steady after) (admitted : w.awaitsFile = false) :
    after.settings = w.settings := by
  have still : after.awaitsFile = false := by
    unfold awaitsFile at admitted ⊢
    rw [steady.mode]
    cases strict : w.mode.strict with
    | false => rfl
    | true =>
      have opened : w.scope.file ≠ none := by
        intro shut
        simp [strict, shut] at admitted
      simpa [Option.ne_none_iff_isSome] using steady.file opened
  simp only [Walk.settings, steady.mode, steady.project, steady.registry, admitted, still]

/-- Closing an item is no matter of the settings. -/
theorem closeItem_settings (w : Walk) : w.closeItem.settings = w.settings := by
  unfold closeItem
  split
  · rfl
  · rfl

/-! ## Handlers that are steady -/

/-- A File that is made up has nothing to do with the settings. -/
theorem ensureFile_steady (w : Walk) (origin : Origin) : w.Steady (w.ensureFile origin).1 := by
  unfold ensureFile
  split
  · exact .refl w
  · exact ⟨rfl, rfl, rfl, fun _ => nofun⟩

/-- A section that is opened has nothing to do with the settings. -/
theorem openSect_steady (w : Walk) (block : Block) : w.Steady (w.openSect block).1 := by
  have filed := ensureFile_steady w block.origin
  exact filed.trans ⟨rfl, rfl, rfl, id⟩

theorem openSubsect_steady (w : Walk) (block : Block) : w.Steady (w.openSubsect block).1 := by
  unfold openSubsect
  split
  · exact .refl w
  · split
    · exact .refl w
    · exact ⟨rfl, rfl, rfl, id⟩

theorem prepareItem_steady (w : Walk) (origin : Origin) : w.Steady (w.prepareItem origin).1 := by
  have filed := ensureFile_steady w origin
  simp only [prepareItem, ensureSect]
  split
  · exact filed.trans ⟨rfl, rfl, rfl, id⟩
  · exact filed.trans ⟨rfl, rfl, rfl, id⟩

/-- Information on a File is no setting. -/
theorem describeFile_steady (w : Walk) (field : FileField) (block : Block) :
    w.Steady (w.describeFile field block).1 := by
  unfold describeFile
  split
  · exact .refl w
  · have warned : w.Steady (if field = .footnotes then w.warnFootnotes block else w) := by
      split
      · exact ⟨rfl, rfl, rfl, id⟩
      · exact .refl w
    have filed := warned.trans (ensureFile_steady _ block.origin)
    exact filed.trans ⟨rfl, rfl, rfl, id⟩

/-- Finding a place changes no setting. -/
theorem placeFor_steady (w : Walk) (rule : Rule) (origin : Origin) :
    w.Steady (w.placeFor rule origin).1 := by
  unfold placeFor
  split
  · exact .refl w
  · exact .refl w
  · exact ensureFile_steady w origin
  · exact .refl w

/-- A hook changes the item and the names, and no setting. -/
theorem runHook_steady (w : Walk) (hook : Option Hook) (parent : Nat) (block : Block)
    (aliases : List String) : w.Steady (w.runHook hook parent block aliases) := by
  unfold runHook
  split
  · exact .refl w
  · exact ⟨rfl, rfl, rfl, id⟩
  · induction aliases generalizing w with
    | nil => exact .refl w
    | cons name rest ih =>
      have first : w.Steady (addAlias parent w name) := by
        unfold addAlias
        split
        · exact .refl w
        · exact ⟨rfl, rfl, rfl, id⟩
      exact first.trans (ih _)

/-- **A block with a rule** uses the rules and changes none. -/
theorem addRegistered_steady (w : Walk) (rule : Rule) (block : Block) :
    w.Steady (w.addRegistered rule block).1 := by
  have placed := placeFor_steady w rule block.origin
  unfold addRegistered
  generalize w.placeFor rule block.origin = place at placed
  obtain ⟨w', parent⟩ := place
  cases parent with
  | none => exact placed
  | some parent =>
    simp only
    split
    · exact placed
    · split
      · exact placed
      · refine placed.trans (Steady.trans ?_ (runHook_steady _ _ _ _ _))
        exact ⟨rfl, rfl, rfl, id⟩

/-- **A leaf is steady.** -/
theorem addLeaf_steady (w : Walk) (block : Block) : w.Steady (w.addLeaf block).1 := by
  unfold addLeaf
  split
  · unfold addImage
    split
    · exact .refl w
    · exact ⟨rfl, rfl, rfl, id⟩
  · unfold addImages
    split
    · exact .refl w
    · exact ⟨rfl, rfl, rfl, id⟩
  · split
    · exact addRegistered_steady w _ block
    · split
      · unfold addWordList
        split
        · exact .refl w
        · exact ⟨rfl, rfl, rfl, id⟩
      · exact .refl w

theorem settle_steady {handled : Walk × Verdict} (steady : w.Steady handled.1) :
    w.Steady (settle block handled) := by
  obtain ⟨w', verdict⟩ := handled
  cases verdict with
  | accepted => exact steady
  | dropped => exact steady
  | rejected cause => exact steady.trans ⟨rfl, rfl, rfl, id⟩

/-- **An item is steady,** with the blocks under the headings of its body. -/
theorem openItem_steady (w : Walk) (block : Block) : w.Steady (w.openItem block).1 := by
  have prepared := prepareItem_steady w block.origin
  cases passed : (w.prepareItem block.origin).1.itemCause? block.subtitle with
  | some cause => rwa [openItem_of_cause passed]
  | none =>
    have started : w.Steady (w.startItem block) := prepared.trans ⟨rfl, rfl, rfl, id⟩
    rw [openItem_of_passed passed]
    generalize (splitAtHeadings block.origin 0 block.body).2 = leaves
    generalize w.startItem block = begun at started
    induction leaves generalizing begun with
    | nil => exact started
    | cons leaf rest ih => exact ih _ (started.trans (settle_steady (addLeaf_steady _ leaf)))

/-- **No block that is placed** changes a setting. -/
theorem placeBlock_steady (w : Walk) (block : Block) : w.Steady (w.placeBlock block).1 := by
  unfold placeBlock
  split
  · exact openSect_steady w block
  · exact openSubsect_steady w block
  · exact describeFile_steady w _ block
  · split
    · exact addLeaf_steady w block
    · exact openItem_steady w block
  · exact addLeaf_steady w block

/-! ## Any block -/

/-- A definition changes the settings as its block says. -/
theorem define_settings (role : TitleRole.ofTitle block.title = .define) :
    (w.define block).1.settings = w.settings.after block := by
  have plain : w.project.after w.mode.configSource block = w.project := by
    simp [Project.after, role]
  unfold define
  split
  · rename_i unnamed
    simp [settings, Settings.after, plain, role, Block.definition?, unnamed, RuleTable.override]
  · rename_i named
    cases made : Rule.ofOptions block.options with
    | error cause =>
      simp [settings, Settings.after, plain, role, Block.definition?, named, made, Registry.define,
        Except.toOption, RuleTable.override]
    | ok rule =>
      simp [settings, Settings.after, plain, role, Block.definition?, named, made, Registry.define,
        Except.toOption, RuleTable.override, Registry.insert, awaitsFile]

/-- A directive changes the settings as its block says. -/
theorem configure_settings {directive : Directive}
    (role : TitleRole.ofTitle block.title = .directive directive) :
    (w.configure directive block).1.settings = w.settings.after block := by
  have plain : block.definition? = none := by simp [Block.definition?, role]
  unfold configure
  split
  · rename_i elsewhere
    simp [settings, Settings.after, plain, role, Project.after, elsewhere, RuleTable.override]
  · rename_i here
    have here : block.origin.file = w.mode.configSource := Decidable.not_not.mp here
    cases applied : w.project.apply directive block.subtitle block.body with
    | error cause =>
      simp [settings, Settings.after, plain, role, Project.after, here, applied,
        Except.toOption, RuleTable.override]
    | ok project =>
      simp [settings, Settings.after, plain, role, Project.after, here, applied,
        Except.toOption, RuleTable.override, awaitsFile]

/-- A block that is neither a definition nor a directive nor a File leaves the settings alone. -/
theorem after_of_other {settings : Settings} (noDefine : TitleRole.ofTitle block.title ≠ .define)
    (noDirective : ∀ directive, TitleRole.ofTitle block.title ≠ .directive directive)
    (noFile : TitleRole.ofTitle block.title ≠ .file) : settings.after block = settings := by
  have project : settings.project.after settings.mode.configSource block = settings.project := by
    unfold Project.after
    split
    · rename_i directive role
      exact absurd role (noDirective directive)
    · rfl
  have plain : block.definition? = none := by simp [Block.definition?, noDefine]
  simp [Settings.after, project, plain, noFile, RuleTable.override]

/-- **What a block does to the settings,** whatever else there is. -/
theorem dispatch_settings (w : Walk) (block : Block) :
    (w.dispatch block).1.settings = w.settings.after block := by
  unfold dispatch
  split
  · rename_i role
    exact define_settings role
  · rename_i directive role
    exact configure_settings role
  · rename_i role
    have plain : block.definition? = none := by simp [Block.definition?, role]
    have project : w.project.after w.mode.configSource block = w.project := by
      simp [Project.after, role]
    -- a File is open afterwards, whether this block has opened it or another one before
    unfold openFile
    split
    · rename_i file opened
      simp [settings, Settings.after, plain, project, role, awaitsFile, opened, RuleTable.override]
    · simp [settings, Settings.after, plain, project, role, awaitsFile, RuleTable.override]
  · rename_i noDefine noDirective noFile
    rw [after_of_other noDefine noDirective noFile]
    split
    · rfl
    · rename_i admitted
      exact (placeBlock_steady w block).settings (Bool.eq_false_iff.mpr admitted)

end Walk

/-! ## Along a unit -/

namespace Visit

variable {v : Visit}

/-- The settings after a header are those after its block. -/
theorem settled_settings (v : Visit) :
    v.settled.settings = v.passage.block?.toList.foldl Settings.after v.walk.settings := by
  unfold Passage.block?
  cases extracted : Body.ofLines v.rest with
  | error n =>
    simp only [passage, extracted]
    rw [settled, handled, extracted]
    rfl
  | ok body =>
    simp only [passage, extracted]
    rw [Walk.settled_ok extracted]
    have dispatched := v.walk.dispatch_settings (v.header.block body v.origin)
    generalize v.walk.dispatch (v.header.block body v.origin) = handled at dispatched
    obtain ⟨w, verdict⟩ := handled
    cases verdict <;> exact dispatched

theorem left_settings (v : Visit) : v.left.settings = v.settled.settings := by
  unfold left
  split
  · rfl
  · split
    · rfl
    · exact Walk.closeItem_settings _

end Visit

theorem Walk.skipLines_settings (w : Walk) (line : Nat) (lines : List String) :
    (w.skipLines line lines).1.settings = w.settings := by
  induction lines generalizing w line with
  | nil => exact closeItem_settings w
  | cons text rest ih =>
    have first : (if Body.isComment text then w else w.closeItem).settings = w.settings := by
      split
      · rfl
      · exact closeItem_settings w
    rw [skipLines]
    split
    · exact first
    · rw [ih, first]

namespace Session

variable {s : Session} {file : String} {lines rest : List String} {past future : List Visit}
  {w : Walk} {line : Nat} {v : Visit}

/-- The blocks of some visits. -/
def blocksOf (visits : List Visit) : List Block :=
  visits.filterMap fun v => v.passage.block?

/-- **At every stop** the settings are those after the blocks before. -/
theorem Visited.settings (stop : s.Visited file lines past w line rest) :
    w.settings = (blocksOf past).foldl Settings.after s.enter.settings := by
  induction stop with
  | start => rfl
  | @next past w line rest before more ih =>
    cases found : w.visit? file line rest with
    | none =>
      rw [(Walk.readBlock_of_visit?_eq_none found).1, w.skipLines_settings, ih]
      simp
    | some v =>
      have entered : v.walk.settings = w.settings := by
        rw [(Walk.of_visit? found).1, w.skipLines_settings]
      rw [Walk.readBlock_of_visit? found, v.left_settings, v.settled_settings, entered, ih,
        ← List.foldl_append]
      congr 1
      simp only [blocksOf, List.filterMap_append, Option.toList_some, List.filterMap_cons]
      cases v.passage.block? <;> rfl

/-- At every header too. -/
theorem visit_settings (met : s.visits file lines = past ++ v :: future) :
    v.walk.settings = (blocksOf past).foldl Settings.after s.enter.settings := by
  obtain ⟨w, line, rest, stop, found, -⟩ := visits_split met
  rw [(Walk.of_visit? found).1, w.skipLines_settings, stop.settings]

/-- The blocks that a unit comes to are told from its lines. -/
theorem blocksOf_visits (s : Session) (file : String) (lines : List String) :
    blocksOf (s.visits file lines) = blocksIn file lines := by
  rw [blocksIn, ← s.visits_passage, List.filterMap_map]
  rfl

/-- **At the end of a unit** the settings are those after its blocks, which the lines tell. -/
theorem walkUnit_settings (s : Session) (file : String) (lines : List String) :
    (s.walkUnit file lines).settings
      = (blocksIn file lines).foldl Settings.after s.enter.settings := by
  obtain ⟨w, line, stop, ended⟩ := visited_all s file lines
  rw [ended, Walk.closeItem_settings, stop.settings, blocksOf_visits]

end Session

end DocComments
