/-
  Who decides about the configuration.

  Two things outlast the unit they are declared in: the project, which directives set, and the rules
  of the baseline.  Any unit may define titles, and any unit may carry the name of the configuration
  source and so set directives; the calls of a session come in any order, and each unit is read in a
  session that the units before have filled with nodes, names and failures.

  All the same the project is what the units of the configuration source make of it, by themselves
  and in their order, and the baseline is the built-in rules with the default definitions and those
  of the configuration that was loaded.  Both follow from what a unit does to the settings
  (`walkUnit_settings`), which its lines tell: `call_settings` says what one call does, and
  `after_settings` what any number of calls do.
-/
import DocComments.Proofs.Calls
import DocComments.Proofs.Settings

namespace DocComments

/-! ## Definitions that are accepted -/

/-- The title that a header has defined and the rule it has given to it. -/
def Visit.definition? (v : Visit) : Option (String × Rule) :=
  if TitleRole.ofTitle v.header.title = .define ∧ v.verdict = .accepted then
    (Rule.ofOptions (OptionList.ofText v.header.options)).toOption.map
      (Text.strip v.header.subtitle, ·)
  else none

/-- **Whether a definition is accepted** is a matter of its block alone. -/
theorem Visit.definition?_eq (v : Visit) :
    v.definition? = v.passage.block?.bind Block.definition? := by
  unfold definition? Passage.block?
  cases extracted : Body.ofLines v.rest with
  | error n =>
    have refused : v.verdict = .rejected .underIndented := by rw [verdict, handled, extracted]
    simp [passage, extracted, refused]
  | ok body =>
    rw [verdict_ok extracted]
    simp only [passage, extracted, Option.bind_some, Block.definition?, Header.block]
    by_cases role : TitleRole.ofTitle v.header.title = .define
    · -- the handler asks for the subtitle and the rule, and for nothing else
      simp only [Walk.dispatch, role, Walk.define, true_and]
      by_cases unnamed : v.header.subtitle = ""
      · simp [unnamed]
      · cases made : Rule.ofOptions (OptionList.ofText v.header.options) with
        | error cause => simp [unnamed, Registry.define, made, Except.toOption]
        | ok rule => simp [unnamed, Registry.define, made, Except.toOption]
    · simp [role]

/-! ## Units of the configuration source -/

theorem origin_of_mem_blocksIn {file : String} {lines : List String} {block : Block}
    (mem : block ∈ blocksIn file lines) : block.origin.file = file := by
  obtain ⟨p, passage, found⟩ := List.mem_filterMap.mp mem
  obtain ⟨n, text, -, -, origin, -⟩ := mem_passagesFrom.mp passage
  unfold Passage.block? at found
  split at found
  · simp at found
  · cases found
    show p.origin.file = file
    rw [origin]

/-- A unit of another name leaves the project alone. -/
theorem foldl_project_elsewhere {file configSource : String} (elsewhere : file ≠ configSource)
    (lines : List String) (project : Project) :
    (blocksIn file lines).foldl (Project.after configSource) project = project := by
  have outside : ∀ block ∈ blocksIn file lines, block.origin.file ≠ configSource := by
    intro block mem
    rwa [origin_of_mem_blocksIn mem]
  generalize blocksIn file lines = blocks at outside
  induction blocks with
  | nil => rfl
  | cons block rest ih =>
    have same : project.after configSource block = project := by
      unfold Project.after
      split
      · rw [if_neg (outside block (List.mem_cons_self ..))]
      · rfl
    rw [List.foldl_cons, same]
    exact ih fun other mem => outside other (List.mem_cons_of_mem _ mem)

namespace Call

/-- The call reads a unit of the configuration source. -/
def readsConfig (mode : Mode) (c : Call) : Bool := c.source mode = mode.configSource

/-- The definitions of a call that outlast its unit. -/
def lasting (mode : Mode) : Call → List (String × Rule)
  | .loadConfig text => definitionsIn mode.configSource (Call.loadConfig text).lines
  | _ => []

/-- The project after a call. -/
def projectAfter (mode : Mode) (project : Project) (c : Call) : Project :=
  (blocksIn (c.source mode) c.lines).foldl (Project.after mode.configSource) project

end Call

/-! ## Calls -/

namespace Session

/-- What a unit does to mode, project and rules. -/
theorem walkUnit_rules (s : Session) (file : String) (lines : List String) :
    let w := s.walkUnit file lines
    w.mode = s.mode
      ∧ w.project = (blocksIn file lines).foldl (Project.after s.mode.configSource) s.project
      ∧ w.registry
          = ⟨s.registry.baseline, s.registry.baseline.override (definitionsIn file lines)⟩ := by
  have settings := s.walkUnit_settings file lines
  rw [Settings.foldl_after] at settings
  exact ⟨congrArg Settings.mode settings, congrArg Settings.project settings,
    congrArg Settings.registry settings⟩

/-- **What a call does** to mode, project and baseline. -/
theorem call_settings (s : Session) (c : Call) :
    (s.call c).1.mode = s.mode
      ∧ (s.call c).1.project = c.projectAfter s.mode s.project
      ∧ (s.call c).1.registry.baseline = s.registry.baseline.override (c.lasting s.mode) := by
  obtain ⟨mode, project, registry⟩ := s.walkUnit_rules (c.source s.mode) c.lines
  have active := congrArg Registry.active registry
  have baseline := congrArg Registry.baseline registry
  cases c with
  | loadConfig text => exact ⟨mode, project, active⟩ -- the rules that were active are kept
  | readText text file => exact ⟨mode, project, baseline⟩
  | readLines lines file => exact ⟨mode, project, baseline⟩

/-- **What any number of calls do:** only those of the configuration source have a say. -/
theorem after_settings (s : Session) (calls : List Call) :
    (s.after calls).mode = s.mode
      ∧ (s.after calls).project
          = (calls.filter (·.readsConfig s.mode)).foldl (Call.projectAfter s.mode) s.project
      ∧ (s.after calls).registry.baseline
          = s.registry.baseline.override (calls.flatMap (·.lasting s.mode)) := by
  induction calls generalizing s with
  | nil => exact ⟨rfl, rfl, rfl⟩
  | cons c rest ih =>
    obtain ⟨mode, project, baseline⟩ := s.call_settings c
    obtain ⟨mode', project', baseline'⟩ := ih (s.call c).1
    rw [mode] at mode' project' baseline'
    refine ⟨mode', ?_, ?_⟩
    · have first : (s.after (c :: rest)).project
          = (rest.filter (·.readsConfig s.mode)).foldl (Call.projectAfter s.mode)
              (c.projectAfter s.mode s.project) := project ▸ project'
      rw [first]
      by_cases reads : c.readsConfig s.mode
      · rw [List.filter_cons_of_pos reads, List.foldl_cons]
      · have elsewhere : c.source s.mode ≠ s.mode.configSource := by
          simpa [Call.readsConfig] using reads
        rw [List.filter_cons_of_neg reads, Call.projectAfter, foldl_project_elsewhere elsewhere]
    · have first : (s.after (c :: rest)).registry.baseline
          = (s.registry.baseline.override (c.lasting s.mode)).override
              (rest.flatMap (·.lasting s.mode)) := baseline ▸ baseline'
      rw [first, List.flatMap_cons, RuleTable.override_append]

/-- **What units of a sort preserve,** whether their rules are to last or not, holds after any calls
    that read such units. -/
theorem after_of_units {holds : Session → Prop} {fits : String → List String → Prop}
    (unit : ∀ (s : Session) file lines, holds s → fits file lines →
      holds (s.walkUnit file lines).toSession ∧ holds (s.walkUnit file lines).toSession.commit)
    {s : Session} (known : holds s) {calls : List Call}
    (fitting : ∀ c ∈ calls, fits (c.source s.mode) c.lines) : holds (s.after calls) := by
  induction calls generalizing s with
  | nil => exact known
  | cons c rest ih =>
    obtain ⟨read, lasting⟩ := unit s _ _ known (fitting c (List.mem_cons_self ..))
    have first : holds (s.call c).1 := by
      rcases (call_eq s c).2 with plain | committed
      · rw [plain]
        exact read
      · rw [committed]
        exact lasting
    refine ih first fun other mem => ?_
    rw [(s.call_settings c).1]
    exact fitting other (List.mem_cons_of_mem _ mem)

/-- A new session has the built-in rules and the default definitions. -/
theorem start_settings (mode : Mode) :
    (start mode).mode = mode
      ∧ (start mode).registry.baseline
          = Registry.builtinRules.override (definitionsIn defaultsSource defaultDefinitions) := by
  obtain ⟨kept, -, registry⟩ :=
    walkUnit_rules ({ mode } : Session) defaultsSource defaultDefinitions
  exact ⟨kept, congrArg Registry.active registry⟩

theorem definitions_of_visits (visits : List Visit) :
    (blocksOf visits).filterMap Block.definition? = visits.filterMap Visit.definition? := by
  have same : (fun v : Visit => v.passage.block?.bind Block.definition?) = Visit.definition? :=
    funext fun v => v.definition?_eq.symm
  rw [blocksOf, List.filterMap_filterMap, same]

/-- **No unit but the configuration decides about the configuration.**  The project at the end of
    any calls is the one without the calls that read units of other names.  The baseline holds the
    built-in rules, the default definitions and the accepted definitions of the configuration that
    was loaded, in this order, each in place of an earlier one of its title.  And every unit starts
    with the baseline as its rules; at each of its headers they are the baseline and the accepted
    definitions of the unit up to there. -/
theorem configuration_noninterference (mode : Mode) (calls : List Call) :
    let s := (start mode).after calls
    s.project = ((start mode).after (calls.filter (·.readsConfig mode))).project
      ∧ s.registry.baseline
          = Registry.builtinRules.override
              (definitionsIn defaultsSource defaultDefinitions ++ calls.flatMap (·.lasting mode))
      ∧ s.enter.registry = ⟨s.registry.baseline, s.registry.baseline⟩
      ∧ ∀ file lines,
          (s.visits file lines).filterMap Visit.definition? = definitionsIn file lines
            ∧ ∀ past v future, s.visits file lines = past ++ v :: future →
                v.walk.registry
                  = ⟨s.registry.baseline,
                      s.registry.baseline.override (past.filterMap Visit.definition?)⟩ := by
  intro s
  obtain ⟨kept, rules⟩ := start_settings mode
  obtain ⟨-, project, baseline⟩ := after_settings (start mode) calls
  obtain ⟨-, project', -⟩ := after_settings (start mode) (calls.filter (·.readsConfig mode))
  rw [kept] at project project' baseline
  refine ⟨?_, ?_, rfl, fun file lines => ⟨?_, fun past v future met => ?_⟩⟩
  · rw [project', List.filter_filter]
    simpa using project
  · rw [RuleTable.override_append, ← rules]
    exact baseline
  · rw [definitionsIn, ← blocksOf_visits, definitions_of_visits]
  · have settings := visit_settings met
    rw [Settings.foldl_after] at settings
    rw [← definitions_of_visits]
    exact congrArg Settings.registry settings

end Session

end DocComments
