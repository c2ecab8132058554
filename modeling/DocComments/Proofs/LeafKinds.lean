/-
  The kinds of leaf that rules can make.

  A leaf has its kind from a rule, a built-in one or one that a definition has made of its options,
  and an image has a kind that a definition can ask for as well.  So a kind that carries something,
  as a table carries its header sets, carries what options can say (`LeafKind.Made.columns`).
  Definitions add such rules to a table and no others (`RuleTable.Made.override`).
-/
import DocComments.Proofs.Settings

namespace DocComments

/-! ## Kinds -/

/-- Some rule makes leaves of this kind: a built-in one, or one that options define. -/
inductive LeafKind.Made : LeafKind → Prop
  | builtin {title : String} {rule : Rule} (mem : (title, rule) ∈ Registry.builtinRules) :
    Made rule.kind
  | defined {opts : OptionList} {kind : LeafKind} (made : LeafKind.ofOptions opts = .ok kind) :
    Made kind

/-- Images are of kinds that a definition can ask for. -/
theorem LeafKind.made_sample : LeafKind.sample.Made :=
  have made : LeafKind.ofOptions { entries := [("Example", none)] } = .ok .sample := rfl
  .defined made

theorem LeafKind.made_figure : LeafKind.figure.Made :=
  have made : LeafKind.ofOptions { entries := [("Figure", none)] } = .ok .figure := rfl
  .defined made

/-- The title of an image, and a plural title likewise, gives its nodes such a kind. -/
theorem LeafKind.made_of_image {title : String} {kind : LeafKind}
    (role : LeafRole.ofTitle title = .image kind) : kind.Made := by
  unfold LeafRole.ofTitle at role
  split at role
  all_goals first
    | cases role; exact made_sample
    | cases role; exact made_figure
    | cases role

theorem LeafKind.made_of_images {title image : String} {kind : LeafKind}
    (role : LeafRole.ofTitle title = .images image kind) : kind.Made := by
  unfold LeafRole.ofTitle at role
  split at role
  all_goals first
    | cases role; exact made_sample
    | cases role; exact made_figure
    | cases role

/-- A table that options define has the header sets of a text. -/
theorem LeafKind.headerSets_ofOptions {opts : OptionList} {sets : List (List String)}
    (made : LeafKind.ofOptions opts = .ok (.table sets)) :
    ∃ text, opts.value? "Headers" = some text ∧ sets = headerSetsOf text := by
  unfold LeafKind.ofOptions at made
  split at made
  · cases made
  split at made
  · cases made
  split at made
  · cases given : opts.value? "Headers" with
    | none => simp [given] at made
    | some text =>
      simp only [given, Except.ok.injEq, LeafKind.table.injEq] at made
      exact ⟨text, rfl, made.symm⟩
  · repeat' split at made
    all_goals cases made

/-- **A table has header sets, and they have columns.** -/
theorem LeafKind.Made.columns {sets : List (List String)} (made : (LeafKind.table sets).Made) :
    sets ≠ [] ∧ ∀ set ∈ sets, set ≠ [] := by
  generalize same : LeafKind.table sets = kind at made
  cases made with
  | @builtin title rule mem =>
    have builtin : ∀ entry ∈ Registry.builtinRules, ∀ sets, LeafKind.table sets = entry.2.kind →
        sets = [["By Position", "What it does"], ["By Name", "What it does"]] := by
      intro entry mem sets same
      simp only [Registry.builtinRules, List.mem_cons, List.not_mem_nil, or_false] at mem
      rcases mem with rfl | rfl | rfl | rfl
      all_goals cases same
      rfl
    rw [builtin _ mem sets same]
    decide
  | @defined opts _ made =>
    subst same
    obtain ⟨text, -, rfl⟩ := LeafKind.headerSets_ofOptions made
    exact ⟨headerSetsOf_ne_nil text, fun set mem => columns_ne_nil mem⟩

/-! ## Tables of rules -/

/-- All rules of the table make such kinds. -/
def RuleTable.Made (table : RuleTable) : Prop :=
  ∀ title rule, table.lookup? title = some rule → rule.kind.Made

/-- A rule that is found is in the table, under its title. -/
theorem RuleTable.mem_of_lookup? {table : RuleTable} {title : String} {rule : Rule}
    (found : table.lookup? title = some rule) : (title, rule) ∈ table := by
  obtain ⟨front, back, rfl, -⟩ := List.lookup_eq_some_iff.mp found
  exact List.mem_append_right front (List.mem_cons_self ..)

/-- The built-in rules make such kinds. -/
theorem RuleTable.made_builtinRules : RuleTable.Made Registry.builtinRules :=
  fun _ _ found => .builtin (mem_of_lookup? found)

/-- A rule made from options can be added. -/
theorem RuleTable.Made.insert {table : RuleTable} (made : table.Made) (title : String) {rule : Rule}
    (new : rule.kind.Made) : (table.insert title rule).Made := by
  intro other rule' found
  by_cases same : other = title
  · subst same
    rw [lookup?_insert_self] at found
    cases found
    exact new
  · rw [lookup?_insert_of_ne table rule same] at found
    exact made other rule' found

/-- What a block defines makes such a kind. -/
theorem Block.made_of_definition? {block : Block} {title : String} {rule : Rule}
    (defines : block.definition? = some (title, rule)) : rule.kind.Made := by
  unfold definition? at defines
  split at defines
  · obtain ⟨given, found, same⟩ := Option.map_eq_some_iff.mp defines
    cases same
    cases result : Rule.ofOptions block.options with
    | error cause => simp [result, Except.toOption] at found
    | ok made =>
      obtain rfl : made = rule := by simpa [result, Except.toOption] using found
      unfold Rule.ofOptions at result
      split at result
      · cases result
      · rename_i kind selected
        cases result
        exact .defined selected
  · cases defines

/-- **Whatever blocks define**, the rules of the table make such kinds. -/
theorem RuleTable.Made.override {table : RuleTable} (made : table.Made) (blocks : List Block) :
    (table.override (blocks.filterMap Block.definition?)).Made := by
  induction blocks generalizing table with
  | nil => exact made
  | cons block rest ih =>
    cases defines : block.definition? with
    | none =>
      rw [List.filterMap_cons_none defines]
      exact ih made
    | some definition =>
      rw [List.filterMap_cons_some defines]
      exact ih (made.insert definition.1 (Block.made_of_definition? defines))

end DocComments
