/-
  What a definition does to the later headers of its title.

  The rules at a header are those of the start of the unit, overridden by the definitions before it,
  so the last definition of a title is its rule (`rule_of_last_definition`).  Whether a header with
  that title is handled by its rule depends on the title.  The titles of the grammar, `Section` and
  the like, keep their own meaning whatever is defined, and so do the titles of images.  Every other
  title is handled by its rule (`dispatch_of_rule`), and a rule that allows for the parent and has
  nothing to object to in the body adds one node there (`addRegistered_of_rule`).

    * `definition_takes_effect`  both together, for all the headers after a definition.
-/
import Mathlib.Data.List.Basic
import DocComments.Proofs.Attaching
import DocComments.Proofs.Configuration

namespace DocComments

/-! ## Titles -/

/-- The titles that the grammar handles by itself: a rule for one of them is never looked up. -/
def grammarTitles : List String :=
  ["DefineHeader", "IgnoreFiles", "PrioritizeFiles", "DocsDirectory", "ProjectName",
   "TargetProfile", "GenerateDocs", "File", "LibFile", "Section", "Subsection", "Includes",
   "CommonCode", "FileSummary", "FileGroup", "FileFootnotes"]

/-- The titles of images. -/
def imageTitles : List String := ["Example", "Examples", "Figure", "Figures"]

/-- A File that is open is the parent, or something in it is. -/
theorem Scope.Sound.exists_parent {base : Nat} {doc : Document} {scope : Scope}
    (sound : scope.Sound base doc) (opened : scope.file ≠ none) :
    ∃ parent, scope.parent = some parent := by
  obtain ⟨file, isFile⟩ := Option.ne_none_iff_exists'.mp opened
  rw [← Option.isSome_iff_exists, sound.parent_eq, Scope.innermost, isFile]
  simp

/-- Titles that the grammar does not own are those of leaves and items. -/
theorem role_of_not_grammar {title : String} (free : title ∉ grammarTitles) :
    TitleRole.ofTitle title = .leaf ∨ TitleRole.ofTitle title = .item := by
  unfold TitleRole.ofTitle
  split
  all_goals first
    | exact .inl rfl
    | exact .inr rfl
    | exact absurd (by decide) free

/-- Titles that the grammar owns are neither those of leaves nor those of items. -/
theorem role_of_grammar {title : String} (own : title ∈ grammarTitles) :
    TitleRole.ofTitle title ≠ .leaf ∧ TitleRole.ofTitle title ≠ .item := by
  revert title
  decide

/-- A leaf that is no image is plain or a list of words. -/
theorem leafRole_of_not_image {title : String} (other : title ∉ imageTitles) :
    LeafRole.ofTitle title = .plain ∨ ∃ list, LeafRole.ofTitle title = .words list := by
  unfold LeafRole.ofTitle
  split
  all_goals first
    | exact .inl rfl
    | exact .inr ⟨_, rfl⟩
    | exact absurd (by decide) other

/-! ## The last definition of a title -/

namespace RuleTable

/-- Definitions of other titles do not matter. -/
theorem lookup?_override_of_not_mem (table : RuleTable) {definitions : List (String × Rule)}
    {title : String} (others : ∀ rule, (title, rule) ∉ definitions) :
    (table.override definitions).lookup? title = table.lookup? title := by
  induction definitions generalizing table with
  | nil => rfl
  | cons first rest ih =>
    obtain ⟨defined, rule⟩ := first
    have ne : title ≠ defined := by
      rintro rfl
      exact others rule (List.mem_cons_self ..)
    have later : ∀ rule, (title, rule) ∉ rest :=
      fun rule mem => others rule (List.mem_cons_of_mem _ mem)
    calc ((table.insert defined rule).override rest).lookup? title
        = (table.insert defined rule).lookup? title := ih (table.insert defined rule) later
      _ = table.lookup? title := lookup?_insert_of_ne table rule ne

/-- The last definition of a title counts. -/
theorem lookup?_override_last (table : RuleTable) (before : List (String × Rule))
    {after : List (String × Rule)} {title : String} {rule : Rule}
    (last : ∀ other, (title, other) ∉ after) :
    (table.override (before ++ (title, rule) :: after)).lookup? title = some rule := by
  rw [override_append]
  calc ((table.override before).insert title rule |>.override after).lookup? title
      = ((table.override before).insert title rule).lookup? title :=
        lookup?_override_of_not_mem _ last
    _ = some rule := lookup?_insert_self _ title rule

end RuleTable

/-- A rule that a header has given has no hook. -/
theorem Visit.hook_of_definition? {d : Visit} {title : String} {rule : Rule}
    (defines : d.definition? = some (title, rule)) : rule.hook = none := by
  unfold definition? at defines
  split at defines
  · obtain ⟨made, found, same⟩ := Option.map_eq_some_iff.mp defines
    cases same
    cases result : Rule.ofOptions (OptionList.ofText d.header.options) with
    | error cause => simp [result, Except.toOption] at found
    | ok given =>
      obtain rfl : given = rule := by simpa [result, Except.toOption] using found
      exact Rule.hook_ofOptions result
  · cases defines

/-- **The rule at a header** is the one that the last definition of its title has given. -/
theorem Session.rule_of_last_definition {s : Session} {file : String} {lines : List String}
    {past mid future : List Visit} {d v : Visit} {title : String} {rule : Rule}
    (met : s.visits file lines = past ++ d :: (mid ++ v :: future))
    (defines : d.definition? = some (title, rule))
    (last : ∀ u ∈ mid, ∀ other, u.definition? ≠ some (title, other)) :
    v.walk.registry.lookup? title = some rule := by
  have split : s.visits file lines = (past ++ d :: mid) ++ v :: future := by simpa using met
  have settings := visit_settings split
  rw [Settings.foldl_after, definitions_of_visits, List.filterMap_append,
    List.filterMap_cons_some defines] at settings
  have active : v.walk.registry.active
      = s.registry.baseline.override
          (past.filterMap Visit.definition? ++ (title, rule) :: mid.filterMap Visit.definition?) :=
    congrArg (·.registry.active) settings
  have others : ∀ other, (title, other) ∉ mid.filterMap Visit.definition? := by
    intro other mem
    obtain ⟨u, inMid, found⟩ := List.mem_filterMap.mp mem
    exact last u inMid other found
  rw [Registry.lookup?, active]
  exact RuleTable.lookup?_override_last _ _ others

namespace Walk

variable {w : Walk} {block : Block} {rule : Rule} {base parent : Nat}

/-! ## A title with a rule -/

/-- **A title that is free is handled by its rule.** -/
theorem dispatch_of_rule (free : block.title ∉ grammarTitles) (other : block.title ∉ imageTitles)
    (admitted : w.awaitsFile = false) (ruled : w.registry.lookup? block.title = some rule) :
    w.dispatch block = w.addRegistered rule block := by
  have takes : w.takesLeaf block.title := by
    have known : w.registry.contains block.title := by rw [Registry.contains, ruled]; rfl
    rcases role_of_not_grammar free with role | role <;> simp [takesLeaf, role, known, admitted]
  rw [dispatch_of_takesLeaf takes, addLeaf]
  rcases leafRole_of_not_image other with role | ⟨list, role⟩
  · simp only [role, ruled]
  · simp only [role, ruled]

/-- The parent takes the block, and its kind has nothing to object to in the body. -/
theorem addRegistered_of_rule (plain : rule.hook = none) (opened : w.scope.parent = some parent)
    (fits : rule.parent = none ∨ w.document.tag? parent = rule.parent)
    (valid : rule.kind = .label → block.body = []) :
    ∃ node : Node, node.title = block.title ∧ node.kind = .leaf rule.kind
      ∧ node.origin = block.origin
      ∧ w.addRegistered rule block
          = ({ w with document := w.document.addChild parent node }, .accepted) := by
  have place : w.placeFor rule block.origin = (w, some parent) := by
    unfold placeFor
    rw [opened]
    cases asks : rule.parent with
    | none => rfl
    | some kind =>
      have held : w.document.tag? parent = some kind := by simpa [asks] using fits
      obtain ⟨node, found, tag⟩ := Option.map_eq_some_iff.mp held
      simp [found, tag]
  obtain ⟨made, shape⟩ : ∃ made, shaped rule.kind block = .ok made := by
    unfold shaped
    split
    · rename_i label
      exact ⟨block, if_pos (valid label)⟩
    · split
      · exact ⟨_, rfl⟩
      · exact ⟨_, rfl⟩
    · exact ⟨_, rfl⟩
  refine ⟨made.node (.leaf rule.kind), ?_, rfl, ?_, ?_⟩
  · rcases shaped_eq_ok shape with rfl | rfl <;> rfl
  · rcases shaped_eq_ok shape with rfl | rfl <;> rfl
  · simp only [addRegistered, place, shape, aliasesOf, plain, runHook]

/-! ## A title of the grammar -/

/-- The walk with other rules. -/
def withRules (rules : Registry) (w : Walk) : Walk := { w with registry := rules }

variable (rules : Registry)

/-- Other rules go past what a handler returns besides the walk. -/
abbrev carryRules {α : Type} (h : Walk × α) : Walk × α := (h.1.withRules rules, h.2)

theorem scope_withRules (w : Walk) : (w.withRules rules).scope = w.scope := rfl

/-- Other rules do not matter to containers. -/
theorem ensureFile_withRules (w : Walk) (origin : Origin) :
    (w.withRules rules).ensureFile origin = carryRules rules (w.ensureFile origin) := by
  unfold ensureFile
  rw [scope_withRules]
  cases w.scope.file <;> rfl

theorem openFile_withRules (w : Walk) (block : Block) :
    (w.withRules rules).openFile block = carryRules rules (w.openFile block) := by
  unfold openFile
  rw [scope_withRules]
  cases w.scope.file <;> rfl

theorem openSect_withRules (w : Walk) (block : Block) :
    (w.withRules rules).openSect block = carryRules rules (w.openSect block) := by
  simp only [openSect, ensureFile_withRules]
  rfl

theorem openSubsect_withRules (w : Walk) (block : Block) :
    (w.withRules rules).openSubsect block = carryRules rules (w.openSubsect block) := by
  unfold openSubsect
  rw [scope_withRules]
  cases w.scope.sect with
  | none => rfl
  | some sect =>
    simp only
    split <;> rfl

/-- Other rules do not matter to the information on a File. -/
theorem describeFile_withRules (w : Walk) (field : FileField) (block : Block) :
    (w.withRules rules).describeFile field block
      = carryRules rules (w.describeFile field block) := by
  have warned : (if field = .footnotes then (w.withRules rules).warnFootnotes block
      else w.withRules rules)
        = (if field = .footnotes then w.warnFootnotes block else w).withRules rules := by
    split <;> rfl
  unfold describeFile
  split
  · rfl
  · simp only [warned, ensureFile_withRules]
    rfl

theorem configure_withRules (w : Walk) (directive : Directive) (block : Block) :
    (w.withRules rules).configure directive block
      = carryRules rules (w.configure directive block) := by
  have mode : (w.withRules rules).mode = w.mode := rfl
  have project : (w.withRules rules).project = w.project := rfl
  unfold configure
  rw [mode, project]
  split
  · rfl
  · cases w.project.apply directive block.subtitle block.body <;> rfl

/-- A definition adds its rule to whatever rules there are. -/
theorem define_withRules (w : Walk) (block : Block) :
    ((w.withRules rules).define block).2 = (w.define block).2
      ∧ ((w.withRules rules).define block).1.withRules rules
          = (w.define block).1.withRules rules := by
  unfold define Registry.define
  split
  · exact ⟨rfl, rfl⟩
  · cases Rule.ofOptions block.options <;> exact ⟨rfl, rfl⟩

/-- **A title of the grammar keeps its meaning:** whatever the rules, its block has the same
    verdict, and the same walk comes out but for the rules. -/
theorem dispatch_withRules (w : Walk) {block : Block} (own : block.title ∈ grammarTitles) :
    ((w.withRules rules).dispatch block).2 = (w.dispatch block).2
      ∧ ((w.withRules rules).dispatch block).1.withRules rules
          = (w.dispatch block).1.withRules rules := by
  obtain ⟨noLeaf, noItem⟩ := role_of_grammar own
  have same : ∀ {first second : Walk × Verdict}, first = carryRules rules second →
      first.2 = second.2 ∧ first.1.withRules rules = second.1.withRules rules := by
    rintro first second rfl
    exact ⟨rfl, rfl⟩
  have early : ∀ {first second : Walk × Verdict}, first = carryRules rules second →
      (if w.awaitsFile then (w.withRules rules, .rejected .fileRequired) else first)
        = carryRules rules (if w.awaitsFile then (w, .rejected .fileRequired) else second) := by
    rintro first second rfl
    split <;> rfl
  unfold dispatch placeBlock
  cases role : TitleRole.ofTitle block.title with
  | define => exact define_withRules rules w block
  | directive directive => exact same (configure_withRules rules w directive block)
  | file => exact same (openFile_withRules rules w block)
  | sect => exact same (early (openSect_withRules rules w block))
  | subsect => exact same (early (openSubsect_withRules rules w block))
  | fileField field => exact same (early (describeFile_withRules rules w field block))
  | leaf => exact absurd role noLeaf
  | item => exact absurd role noItem

end Walk

/-! ## Along a unit -/

namespace Session

/-- **A definition takes effect.**  Take a title that is neither one of the grammar nor one of
    images.  At every header of that title after a definition, and before any other definition of
    the title, where a File is open there is a parent; and if the rule allows for it and has nothing
    to object to in the body, the header is accepted, and all it does is to add one node of its
    title and of the rule's kind as the last child of that parent.  The titles of the grammar keep
    their meaning: a header of such a title does the same whatever the rules. -/
theorem definition_takes_effect (s : Session) (file : String) (lines : List String) :
    (∀ past d mid v future title rule,
        s.visits file lines = past ++ d :: (mid ++ v :: future) →
        d.definition? = some (title, rule) →
        (∀ u ∈ mid, ∀ other, u.definition? ≠ some (title, other)) →
        v.header.title = title → title ∉ grammarTitles → title ∉ imageTitles →
        v.walk.scope.file ≠ none →
        ∃ parent, v.walk.scope.parent = some parent ∧
          ∀ body, Body.ofLines v.rest = .ok body → (rule.kind = .label → body = []) →
            rule.parent = none ∨ v.walk.document.tag? parent = rule.parent →
            ∃ node : Node, v.verdict = .accepted ∧ node.title = title
              ∧ node.kind = .leaf rule.kind ∧ node.origin = v.origin
              ∧ v.settled = { v.walk with document := v.walk.document.addChild parent node }
              ∧ v.walk.document.Adopts v.settled.document parent [node])
      ∧ ∀ v ∈ s.visits file lines, v.header.title ∈ grammarTitles → ∀ rules body,
          let block := v.header.block body v.origin
          let other := (v.walk.withRules rules).dispatch block
          other.2 = (v.walk.dispatch block).2
            ∧ other.1.withRules rules = (v.walk.dispatch block).1.withRules rules := by
  refine ⟨?_, ?_⟩
  · intro past d mid v future title rule met defines last same free other opened
    have mem : v ∈ s.visits file lines := by rw [met]; simp
    have sound := visit_sound mem
    obtain ⟨parent, here⟩ := sound.exists_parent opened
    refine ⟨parent, here, fun body read valid fits => ?_⟩
    let block := v.header.block body v.origin
    have title' : block.title = title := same
    have valid' : rule.kind = .label → block.body = [] := valid
    have ruled : v.walk.registry.lookup? block.title = some rule := by
      rw [title']
      exact rule_of_last_definition met defines last
    have admitted : v.walk.awaitsFile = false := by
      obtain ⟨id, isFile⟩ := Option.ne_none_iff_exists'.mp opened
      simp [Walk.awaitsFile, isFile]
    have dispatched : v.walk.dispatch block = v.walk.addRegistered rule block :=
      Walk.dispatch_of_rule (by rwa [title']) (by rwa [title']) admitted ruled
    obtain ⟨node, named, kind, origin, added⟩ :=
      Walk.addRegistered_of_rule (Visit.hook_of_definition? defines) here fits valid'
    have accepted : v.verdict = .accepted := by
      rw [Visit.verdict_ok read, dispatched, added]
    have settled : v.settled
        = { v.walk with document := v.walk.document.addChild parent node } := by
      rw [Walk.settled_ok read, dispatched, added]
      rfl
    refine ⟨node, accepted, named.trans same, kind, origin, settled, ?_⟩
    rw [settled]
    exact (Document.Adopts.nil _ _).addChild (sound.parent_lt here) node
  · intro v _ own rules body
    exact Walk.dispatch_withRules rules v.walk own

/-- A definition, the File, and a block of the title that was defined. -/
theorem definition_takes_effect_note :
    let lines := ["// DefineHeader(Text): Note", "// File: a", "// Note: careful", "//   indeed"]
    ∃ d f v, ∃ node : Node, ({} : Session).visits "a" lines = [d, f, v]
      ∧ d.definition? = some ("Note", { kind := .text }) ∧ v.verdict = .accepted
      ∧ node.title = "Note" ∧ node.kind = .leaf .text
      ∧ v.settled = { v.walk with document := v.walk.document.addChild 0 node } := by
  intro lines
  have three : (({} : Session).visits "a" lines).length = 3 := by decide +kernel
  obtain ⟨d, f, v, all⟩ := List.length_eq_three.mp three
  have definitions : (({} : Session).visits "a" lines).map Visit.definition?
      = [some ("Note", { kind := .text }), none, none] := by decide +kernel
  have facts : (({} : Session).visits "a" lines)[2]?.map (fun v => (v.header.title,
      v.walk.scope.file, v.walk.scope.parent, (Body.ofLines v.rest).toOption))
      = some ("Note", some 0, some 0, some ["indeed"]) := by decide +kernel
  rw [all] at definitions facts
  simp only [List.map_cons, List.map_nil, List.cons.injEq, and_true] at definitions
  simp only [List.getElem?_cons_succ, List.getElem?_cons_zero, Option.map_some,
    Option.some.injEq, Prod.mk.injEq] at facts
  obtain ⟨defines, between, -⟩ := definitions
  obtain ⟨title, file, here, body⟩ := facts
  have met : ({} : Session).visits "a" lines = [] ++ d :: ([f] ++ v :: []) := all
  have last : ∀ u ∈ [f], ∀ other, u.definition? ≠ some ("Note", other) := by
    intro u mem other
    rw [List.mem_singleton.mp mem, between]
    simp
  have read : Body.ofLines v.rest = .ok ["indeed"] := by
    cases result : Body.ofLines v.rest <;> simp_all [Except.toOption]
  obtain ⟨parent, opened, effect⟩ := (definition_takes_effect {} "a" lines).1 [] d [f] v [] "Note" _
    met defines last title (by decide) (by decide) (by simp [file])
  obtain rfl : parent = 0 := by simpa [here] using opened.symm
  obtain ⟨node, accepted, named, kind, -, settled, -⟩ := effect _ read (by simp) (.inl rfl)
  exact ⟨d, f, v, node, all, defines, accepted, named, kind, settled⟩

/-- A definition of `Section` is accepted, and the next `Section` block opens a section. -/
theorem defined_section_stays_section :
    let lines := ["// File: a", "// DefineHeader(Text): Section", "// Section: S"]
    (({} : Session).visits "a" lines).map (fun v => (v.header.title, v.definition?, v.verdict))
        = [("File", none, .accepted),
           ("DefineHeader", some ("Section", { kind := .text }), .accepted),
           ("Section", none, .accepted)]
      ∧ ((({} : Session).walkUnit "a" lines).document.node? 1).map (fun node =>
          (node.title, node.tag, node.parent)) = some ("Section", .sect, some 0) := by
  decide +kernel

end Session

end DocComments
