/-
  When a fixture passes.

  Three things may be expected of reading a source, and what is not expected is not looked at: so an
  expectation that is left out is met by everything, and the expectation of no entries by an empty
  log alone.  The entries are paired off in order (`List.Forall₂`), which leaves none over on either
  side.  The search for the first difference stops early, but it finds none only if there is none.

    * `entriesMismatch?_eq_none_iff`  the log is as expected;
    * `Fixture.mismatch?_eq_none_iff`  everything is as expected;
    * `FixtureResult.passes_iff`       a fixture passes.
-/
import Mathlib.Data.List.Forall2
import Mathlib.Data.Option.Basic
import DocComments.Fixture.Suite

namespace DocComments

/-! ## The log -/

/-- An entry is like an expected one: its message holds the text, and it points to the line, if one
    is given. -/
structure ExpectedEntry.Fits (expected : ExpectedEntry) (actual : LogEntry) : Prop where
  text : expected.contains.toList <:+: actual.message.toList
  line : ∀ line ∈ expected.line, actual.origin.line = line

theorem ExpectedEntry.mismatch?_eq_none_iff {expected : ExpectedEntry} {actual : LogEntry}
    {index : Nat} : expected.mismatch? actual index = none ↔ expected.Fits actual := by
  have text_iff : Text.contains actual.message expected.contains = true
      ↔ expected.contains.toList <:+: actual.message.toList := Text.holds_iff
  constructor
  · intro same
    rw [mismatch?] at same
    split at same
    · cases same
    · rename_i held
      refine ⟨text_iff.mp (by simpa using held), fun line given => ?_⟩
      rw [Option.mem_def.mp given] at same
      simpa using same
  · rintro ⟨text, line⟩
    rw [mismatch?, if_neg (by simpa using text_iff.mpr text)]
    cases given : expected.line with
    | none => rfl
    | some wanted => exact if_pos (line wanted given)

/-- **The log is as expected** if it fits entry by entry, with none left over on either side. -/
theorem entriesMismatch?_eq_none_iff {expected : List ExpectedEntry} {actual : List LogEntry} :
    entriesMismatch? expected actual = none ↔ List.Forall₂ ExpectedEntry.Fits expected actual := by
  rw [List.forall₂_iff_zip]
  by_cases counts : actual.length = expected.length
  · rw [entriesMismatch?, if_pos counts, List.findSome?_eq_none_iff]
    constructor
    · intro none
      refine ⟨counts.symm, fun {wanted found} mem => ?_⟩
      obtain ⟨index, here, same⟩ := List.getElem_of_mem mem
      have paired := none ((wanted, found), index)
        (List.mem_zipIdx_iff_getElem?.mpr (by rw [List.getElem?_eq_getElem here, same]))
      exact ExpectedEntry.mismatch?_eq_none_iff.mp paired
    · rintro ⟨-, fits⟩ ⟨⟨wanted, found⟩, index⟩ mem
      exact ExpectedEntry.mismatch?_eq_none_iff.mpr (fits (List.fst_mem_of_mem_zipIdx mem))
  · rw [entriesMismatch?, if_neg counts]
    constructor
    · exact nofun
    · exact fun fits => absurd fits.1.symm counts

/-! ## Everything that is expected -/

namespace Fixture

/-- A session is as a fixture expects it, in whatever the fixture has expectations of. -/
structure Meets (fixture : Fixture) (s : Session) : Prop where
  entries : ∀ expected ∈ fixture.entries, List.Forall₂ ExpectedEntry.Fits expected s.log.entries
  items : ∀ expected ∈ fixture.items, s.index.sorted = expected
  tree : ∀ expected ∈ fixture.tree, Text.strip s.tree = Text.strip expected

/-- An expectation that is tested makes no difference if it is met or left out. -/
theorem expectation_eq_none_iff {α : Type} {expectation : Option α} {met : α → Prop}
    [DecidablePred met] {difference : α → Mismatch} :
    (expectation.bind fun expected => if met expected then none else some (difference expected))
        = none ↔ ∀ expected ∈ expectation, met expected := by
  simp only [Option.bind_eq_none_iff, Option.mem_def, ite_eq_left_iff, reduceCtorEq, imp_false,
    not_not]

/-- **No difference is found** exactly when there is none. -/
theorem mismatch?_eq_none_iff {fixture : Fixture} :
    fixture.mismatch? = none ↔ fixture.Meets fixture.session := by
  have entries_iff : (fixture.entries.bind fun expected =>
        entriesMismatch? expected fixture.session.log.entries) = none
      ↔ ∀ expected ∈ fixture.entries,
          List.Forall₂ ExpectedEntry.Fits expected fixture.session.log.entries := by
    simp only [Option.bind_eq_none_iff, entriesMismatch?_eq_none_iff, Option.mem_def]
  rw [mismatch?, Option.orElse_eq_none, Option.orElse_eq_none, entries_iff, expectation_eq_none_iff,
    expectation_eq_none_iff]
  constructor
  · rintro ⟨entries, items, tree⟩
    exact ⟨entries, items, tree⟩
  · rintro ⟨entries, items, tree⟩
    exact ⟨entries, items, tree⟩

end Fixture

/-- A fixture with this content passes: it can be read, its settings are accepted by their reader,
    and reading its source leaves a session that is as it expects. -/
def Passes (content : Except FileError String)
    (reader : Fixture.SettingsReader := Fixture.ofToml) : Prop :=
  ∃ text fixture, content = .ok text ∧ Fixture.ofText text reader = .ok fixture
    ∧ fixture.Meets fixture.session

/-- **A fixture's result says whether it passes,** whatever reads its settings. -/
theorem FixtureResult.passes_iff (path : String) (content : Except FileError String)
    (reader : Fixture.SettingsReader) :
    (ofContent path content reader).passes = true ↔ Passes content reader := by
  cases content with
  | error error => simp [ofContent, passes, Passes]
  | ok text =>
    cases read : Fixture.ofText text reader with
    | error defect => simp [ofContent, ofText, passes, Passes, read]
    | ok fixture =>
      simp [ofContent, ofText, passes, Passes, read, ← Fixture.mismatch?_eq_none_iff]

instance (content : Except FileError String) (reader : Fixture.SettingsReader) :
    Decidable (Passes content reader) :=
  decidable_of_iff _ (FixtureResult.passes_iff "" content reader)

end DocComments
