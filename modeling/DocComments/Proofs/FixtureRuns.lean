/-
  Runs over fixtures, from the disk to the exit status.

  What is found on the disk is told without its order (`Fixture.found`), and what is selected is a
  part of that (`Fixture.selected`).  The run goes by groups, but the groups hold together just what
  is selected, each fixture as often as it was found (`groups_perm`), and every fixture is read once
  and gives one result.  That it is read once shows on a disk that writes down what is read from it
  (`Disk.recorded`): looking for fixtures reads nothing, and the run reads the groups one after the
  other (`runTest_recorded`).

  Neither the way in which fixtures are found nor the reader of their settings is looked into.  Of
  the reader nothing is asked, and of the way to find fixtures only that it reads none of them
  (`Finder.Quiet`), as the one by names does (`byName_quiet`).

    * `results_run`    the results of a run are those of the fixtures in it, in order;
    * `no_false_pass`  the status, the counts and the reads of a run.
-/
import Mathlib.Data.List.Flatten
import DocComments.CommandLine.Test
import DocComments.Proofs.Categories
import DocComments.Proofs.Expectations

namespace DocComments

/-! ## Reads that are written down -/

/-- The disk that writes down which files are read from it, in order. -/
def Disk.recorded (disk : Disk Id) : Disk (StateM (List String)) where
  read path := do
    modify (· ++ [path])
    pure (disk.read path)
  isFile path := pure (disk.isFile path)
  isFolder path := pure (disk.isFolder path)
  below path := pure (disk.below path)

theorem Disk.isFile_recorded (disk : Disk Id) (path : String) :
    disk.recorded.isFile path = pure (disk.isFile path).run := rfl

namespace Fixture

open CommandLine (TestRequest)

/-- Looking for fixtures reads no file. -/
def Finder.Quiet (finder : Finder) : Prop :=
  ∀ (disk : Disk Id) (root : String),
    finder.paths disk.recorded root = pure (finder.paths disk root)

section ByName

variable (disk : Disk Id)

theorem advance_recorded (path name : String) :
    advance disk.recorded path name = pure (advance disk path name) := by
  rw [advance, advance]
  generalize (if path = "." then name else Path.join path name) = next
  split
  · rfl
  · simp only [Disk.occupied, Disk.recorded, pure_bind]
    cases disk.isFile next with
    | true => rfl
    | false => rfl

theorem reach_recorded (path : String) (names : List String) :
    reach disk.recorded path names = pure (reach disk path names) := by
  induction names generalizing path with
  | nil => rfl
  | cons name names ih =>
    rw [reach, advance_recorded, pure_bind, reach]
    cases advance disk path name with
    | none => rfl
    | some next => exact ih next

theorem fixturesBelow_recorded (folder : String) :
    fixturesBelow disk.recorded folder = pure (fixturesBelow disk folder) := by
  simp only [fixturesBelow, Disk.recorded, pure_bind]
  cases disk.isFolder folder with
  | true => rfl
  | false => rfl

/-- **By their names** fixtures are found without reading them. -/
theorem byName_quiet : Finder.byName.Quiet := by
  intro disk root
  simp only [Finder.byName, reach_recorded, fixturesBelow_recorded, pure_bind]
  cases reach disk (approach root).1 (approach root).2 with
  | none => rfl
  | some folder => rfl

end ByName

variable (finder : Finder) (disk : Disk Id)

/-- A search reads nothing if looking for fixtures reads nothing. -/
theorem search_recorded (quiet : finder.Quiet) (root : String) :
    search disk.recorded root finder = pure (search disk root finder) := by
  simp only [search, quiet disk root, Disk.isFile_recorded, pure_bind]
  cases disk.isFile root with
  | true => rfl
  | false => rfl

/-! ## What is found, and what of it is selected -/

/-- The fixtures at a path, in the order they are found. -/
def found (root : String) : List String :=
  if (disk.isFile root).run then [root] else (finder.paths disk root).run

/-- The category of a fixture that was found; the one that the path itself leads to has the empty
    category. -/
def categoryAt (root path : String) : String :=
  if (disk.isFile root).run then "" else categoryOf root path

/-- The order in which paths are run within a category. -/
def byComponents (a b : String) : Bool := Path.precedes (Path.components a) (Path.components b)

/-- The search gives what is found, in order and grouped by category. -/
theorem search_eq_grouped (root : String) :
    search disk root finder = Category.grouped
      (((found finder disk root).mergeSort byComponents).map fun path =>
        (categoryAt disk root path, path)) := by
  simp only [search, found, categoryAt]
  cases disk.isFile root with
  | true =>
    show [("", [root])]
      = Category.grouped (([root].mergeSort byComponents).map fun path => ("", path))
    simp [Category.grouped, List.eraseDups_cons]
  | false => rfl

/-- A fixture is selected: the path leads to it, or no category is asked for, or its own is. -/
def IsSelected (request : TestRequest) (path : String) : Prop :=
  (disk.isFile request.path).run = true ∨ request.categories = []
    ∨ Category.IsAsked request.categories (categoryOf request.path path)

instance (request : TestRequest) (path : String) : Decidable (IsSelected disk request path) :=
  inferInstanceAs (Decidable (_ ∨ _))

/-- The fixtures that a run is about, in the order they are found. -/
def selected (request : TestRequest) : List String :=
  (found finder disk request.path).filter fun path => IsSelected disk request path

/-- The categories that a run asks for. -/
def requests (request : TestRequest) : List String :=
  if (disk.isFile request.path).run then [] else request.categories

/-- The groups that a run goes by. -/
def groups (request : TestRequest) : List (String × List String) :=
  Category.select (requests disk request) (search disk request.path finder)

theorem isSelected_iff {request : TestRequest} {path : String} :
    IsSelected disk request path ↔ requests disk request = []
      ∨ Category.IsAsked (requests disk request) (categoryAt disk request.path path) := by
  rw [IsSelected, requests, categoryAt]
  cases (disk.isFile request.path).run with
  | true => simp
  | false => simp

/-- **The groups hold what is selected,** each fixture as often as it was found. -/
theorem groups_perm (request : TestRequest) :
    ((groups finder disk request).flatMap (·.2)).Perm (selected finder disk request) := by
  let entry (path : String) : String × String := (categoryAt disk request.path path, path)
  let sorted := (found finder disk request.path).mergeSort byComponents
  have grouped : ((groups finder disk request).flatMap (·.2)).Perm
      (((sorted.map entry).filter fun entry => requests disk request = []
          ∨ Category.IsAsked (requests disk request) entry.1).map (·.2)) := by
    rw [groups, search_eq_grouped]
    exact Category.flatMap_select_grouped _ _
  have listed : (((sorted.map entry).filter fun entry => requests disk request = []
          ∨ Category.IsAsked (requests disk request) entry.1).map (·.2))
      = sorted.filter fun path => IsSelected disk request path := by
    rw [List.filter_map, List.map_map]
    refine (List.map_id _).trans (List.filter_congr fun path _ => ?_)
    exact decide_eq_decide.mpr (isSelected_iff disk).symm
  rw [listed] at grouped
  exact grouped.trans ((List.mergeSort_perm _ _).filter _)

theorem groups_eq_nil_iff (request : TestRequest) :
    groups finder disk request = [] ↔ selected finder disk request = [] := by
  constructor
  · intro none
    have perm := groups_perm finder disk request
    rw [none] at perm
    exact perm.symm.eq_nil
  · intro none
    have perm := groups_perm finder disk request
    rw [none] at perm
    refine List.eq_nil_iff_forall_not_mem.mpr fun group mem => ?_
    have empty := List.flatMap_eq_nil_iff.mp perm.eq_nil group mem
    rw [groups, search_eq_grouped, Category.select_eq_filter] at mem
    exact Category.ne_nil_of_mem_grouped (List.mem_of_mem_filter mem) empty

end Fixture

/-! ## The results of a run -/

/-- **The results are those of the fixtures,** one for each, in order. -/
theorem Suite.results_run (fixtures : List (String × List (String × Except FileError String)))
    (reader : Fixture.SettingsReader) :
    (Suite.run fixtures reader).results = (fixtures.flatMap (·.2)).map fun (path, content) =>
      FixtureResult.ofContent path content reader := by
  rw [results, run, List.flatMap_map, List.map_flatMap]

namespace CommandLine

/-- A run over a list whose steps only write has their values in order, and what the steps write in
    order after what was written before. -/
theorem run_mapM {α β γ : Type} {step : α → StateM (List γ) β} {value : α → β}
    {written : α → List γ} (each : ∀ x past, (step x).run past = (value x, past ++ written x))
    (xs : List α) (past : List γ) :
    (xs.mapM step).run past = (xs.map value, past ++ xs.flatMap written) := by
  induction xs generalizing past with
  | nil => exact congrArg (Prod.mk []) (List.append_nil past).symm
  | cons x xs ih =>
    have first : ((x :: xs).mapM step).run past
        = (value x :: ((xs.mapM step).run (past ++ written x)).1,
            ((xs.mapM step).run (past ++ written x)).2) := by
      rw [List.mapM_cons, StateT.run_bind, each]
      rfl
    rw [first, ih, List.flatMap_cons, List.append_assoc]
    rfl

theorem readFixtures_eq (disk : Disk Id) (groups : List (String × List String)) :
    readFixtures disk groups = groups.map fun (category, paths) =>
      (category, paths.map fun path => (path, disk.read path)) := by
  have group (paths : List String) :
      (paths.mapM fun path => (do pure (path, ← disk.read path) : Id _))
        = paths.map fun path => (path, disk.read path) := List.idRun_mapM
  simp only [readFixtures, group]
  exact List.idRun_mapM

/-- **Each fixture is read once,** group by group. -/
theorem readFixtures_recorded (disk : Disk Id) (groups : List (String × List String))
    (past : List String) :
    (readFixtures disk.recorded groups).run past
      = (readFixtures disk groups, past ++ groups.flatMap (·.2)) := by
  rw [readFixtures_eq, readFixtures]
  refine run_mapM (fun (category, paths) past => ?_) groups past
  have reads : (paths.mapM fun path => do pure (path, ← disk.recorded.read path)).run past
      = (paths.map fun path => (path, disk.read path),
          past ++ paths.flatMap fun path => [path]) := by
    refine run_mapM (fun path past => ?_) paths past
    rfl
  rw [List.flatMap_singleton'] at reads
  rw [StateT.run_bind, reads]
  rfl

variable (finder : Fixture.Finder) (reader : Fixture.SettingsReader) (disk : Disk Id)
  {request : TestRequest}

/-- The warnings of a run: the requests that nothing answers. -/
def warnings (request : TestRequest) : List String :=
  (Category.unanswered (Fixture.requests disk request)
    (Fixture.search disk request.path finder)).map
      fun folder => "warning: category '" ++ folder ++ "' not found"

/-- A run fails if there are no groups, and otherwise shows what came of the fixtures in them. -/
theorem runTest_eq (runs : request.onlyList = false) :
    runTest disk request finder reader
      = if (Fixture.groups finder disk request).isEmpty then
          Output.ofError 1 (warnings finder disk request
            ++ ["no matching " ++ Fixture.suffix ++ " files found in " ++ request.path])
        else showSuite request.plain (warnings finder disk request)
          (readFixtures disk (Fixture.groups finder disk request)) reader := by
  rw [runTest, runs]
  rfl

/-- **A run reads the fixtures in its groups,** each once and in order, and nothing else. -/
theorem runTest_recorded (quiet : finder.Quiet) (runs : request.onlyList = false)
    (past : List String) :
    (runTest disk.recorded request finder reader).run past
      = (runTest disk request finder reader,
          past ++ (Fixture.groups finder disk request).flatMap (·.2)) := by
  have told : runTest disk.recorded request finder reader
      = if (Fixture.groups finder disk request).isEmpty then
          pure (Output.ofError 1 (warnings finder disk request
            ++ ["no matching " ++ Fixture.suffix ++ " files found in " ++ request.path]))
        else readFixtures disk.recorded (Fixture.groups finder disk request) >>= fun contents =>
          pure (showSuite request.plain (warnings finder disk request) contents reader) := by
    rw [runTest, runs, Fixture.search_recorded finder disk quiet]
    rfl
  rw [told, runTest_eq finder reader disk runs]
  split
  · rename_i none
    rw [List.isEmpty_iff.mp none, List.flatMap_nil, List.append_nil]
    rfl
  · rw [StateT.run_bind, readFixtures_recorded]
    rfl

/-! ## What a run says -/

/-- What came of the fixtures of a run. -/
def suiteOf (request : TestRequest) : Suite :=
  Suite.run (readFixtures disk (Fixture.groups finder disk request)) reader

theorem results_suiteOf (request : TestRequest) :
    (suiteOf finder reader disk request).results
      = ((Fixture.groups finder disk request).flatMap (·.2)).map
        fun path => FixtureResult.ofContent path (disk.read path) reader := by
  rw [suiteOf, Suite.results_run, readFixtures_eq, List.flatMap_map, List.map_flatMap,
    List.map_flatMap]
  simp only [List.map_map, Function.comp_def]

/-- A count over the results is one over the selected fixtures. -/
theorem countP_suiteOf (request : TestRequest) (counts : FixtureResult → Bool) :
    (suiteOf finder reader disk request).results.countP counts
      = (Fixture.selected finder disk request).countP fun path =>
          counts (FixtureResult.ofContent path (disk.read path) reader) := by
  rw [results_suiteOf, List.countP_map]
  exact (Fixture.groups_perm finder disk request).countP_eq _

theorem passed_suiteOf (request : TestRequest) :
    (suiteOf finder reader disk request).passed
      = (Fixture.selected finder disk request).countP fun path =>
          Passes (disk.read path) reader := by
  rw [Suite.passed, countP_suiteOf]
  refine List.countP_congr fun path _ => ?_
  rw [FixtureResult.passes_iff, decide_eq_true_iff]

theorem failures_suiteOf (request : TestRequest) :
    (suiteOf finder reader disk request).failures.length
      = (Fixture.selected finder disk request).countP fun path =>
          ¬ Passes (disk.read path) reader := by
  rw [Suite.failures, ← List.countP_eq_length_filter, countP_suiteOf]
  refine List.countP_congr fun path _ => ?_
  rw [decide_eq_true_iff, ← FixtureResult.passes_iff path, Bool.not_eq_true', Bool.not_eq_true]

/-- The line that ends a run: how many fixtures passed, and how many failed. -/
def countLine (plain : Bool) (passed failed : Nat) : String :=
  let verdict :=
    if failed = 0 then Terminal.paint plain goodCode "ok"
    else Terminal.paint plain badCode "FAILED"
  "test result: " ++ verdict ++ s!". {passed} passed, {failed} failed"

/-- What is shown of a suite has a line for each result, in order, and ends with the counts. -/
theorem exists_lines_showSuite (plain : Bool) (warnings : List String)
    (fixtures : List (String × List (String × Except FileError String))) :
    let suite := Suite.run fixtures reader
    ∃ lines, (suite.results.map (resultLine plain)).Sublist lines
      ∧ (showSuite plain warnings fixtures reader).err
        = ofLines (lines ++ [countLine plain suite.passed suite.failures.length]) := by
  intro suite
  have ends : ∃ lines, summaryLines plain suite
      = lines ++ [countLine plain suite.passed suite.failures.length] := by
    refine ⟨(if suite.failures.isEmpty then [] else ["", "failures:"])
      ++ suite.failures.flatMap failureLines ++ [""], ?_⟩
    simp only [summaryLines, countLine, List.isEmpty_iff, List.length_eq_zero_iff,
      List.append_assoc, List.cons_append, List.nil_append]
  obtain ⟨last, ends⟩ := ends
  refine ⟨warnings ++ suite.groups.flatMap (groupLines plain) ++ last, ?_, ?_⟩
  · have inGroups : (suite.results.map (resultLine plain)).Sublist
        (suite.groups.flatMap (groupLines plain)) := by
      rw [Suite.results, List.map_flatMap]
      exact List.Sublist.flatMap_right _ fun group _ => List.sublist_append_right _ _
    exact (inGroups.trans (List.sublist_append_right _ _)).trans (List.sublist_append_left _ _)
  · rw [List.append_assoc, ← ends]
    rfl

/-- **The status is zero** exactly when some fixture is selected and all that are pass. -/
theorem status_runTest (runs : request.onlyList = false) :
    (runTest disk request finder reader).status = 0
      ↔ Fixture.selected finder disk request ≠ []
        ∧ ∀ path ∈ Fixture.selected finder disk request, Passes (disk.read path) reader := by
  rw [runTest_eq finder reader disk runs]
  by_cases none : Fixture.selected finder disk request = []
  · have noGroups := (Fixture.groups_eq_nil_iff finder disk request).mpr none
    rw [if_pos (List.isEmpty_iff.mpr noGroups)]
    simp [Output.ofError, none]
  · have someGroups : ¬ (Fixture.groups finder disk request).isEmpty := by
      rwa [List.isEmpty_iff, Fixture.groups_eq_nil_iff]
    have clean : suiteStatus (suiteOf finder reader disk request) = 0
        ↔ (suiteOf finder reader disk request).failures.length = 0 := by
      rw [suiteStatus, List.length_eq_zero_iff, ← List.isEmpty_iff]
      simp
    rw [if_neg someGroups]
    show suiteStatus (suiteOf finder reader disk request) = 0 ↔ _
    rw [clean, failures_suiteOf, List.countP_eq_zero]
    simp [none]

/-- **No run passes falsely,** whatever finds the fixtures without reading them, and whatever reads
    their settings.  A run reads every fixture that is selected, each once, in some order, and
    nothing else, and shows a line for each in that order.  A fixture passes exactly when it can be
    read, its settings are accepted, and what reading its source leaves is as it expects.

    The status is zero exactly when some fixture is selected and all that are pass.  The counts that
    end the run are those of the selected fixtures that pass and of those that do not. -/
theorem no_false_pass (finder : Fixture.Finder) (reader : Fixture.SettingsReader)
    (quiet : finder.Quiet) (disk : Disk Id) (request : TestRequest)
    (runs : request.onlyList = false) :
    let fixtures := Fixture.selected finder disk request
    let passed := fixtures.countP fun path => Passes (disk.read path) reader
    let failed := fixtures.countP fun path => ¬ Passes (disk.read path) reader
    let result := fun path => FixtureResult.ofContent path (disk.read path) reader
    let output := runTest disk request finder reader
    (∃ order : List String, order.Perm fixtures
        ∧ (∀ past, (runTest disk.recorded request finder reader).run past
            = (output, past ++ order))
        ∧ (fixtures ≠ [] → ∃ lines,
            (order.map fun path => resultLine request.plain (result path)).Sublist lines
              ∧ output.err = ofLines (lines ++ [countLine request.plain passed failed])))
      ∧ (∀ path, (result path).passes = true ↔ Passes (disk.read path) reader)
      ∧ (output.status = 0
          ↔ fixtures ≠ [] ∧ ∀ path ∈ fixtures, Passes (disk.read path) reader)
      ∧ passed + failed = fixtures.length := by
  intro fixtures passed failed result output
  have perm : ((Fixture.groups finder disk request).flatMap (·.2)).Perm fixtures :=
    Fixture.groups_perm finder disk request
  have empty_iff := Fixture.groups_eq_nil_iff finder disk request
  refine ⟨⟨_, perm, runTest_recorded finder reader disk quiet runs, fun given => ?_⟩,
    fun path => FixtureResult.passes_iff path _ reader, status_runTest finder reader disk runs, ?_⟩
  · have some : ¬ (Fixture.groups finder disk request).isEmpty := by
      rwa [List.isEmpty_iff, empty_iff]
    obtain ⟨lines, results, shown⟩ := exists_lines_showSuite reader request.plain
      (warnings finder disk request) (readFixtures disk (Fixture.groups finder disk request))
    refine ⟨lines, ?_, ?_⟩
    · rwa [← suiteOf, results_suiteOf, List.map_map] at results
    · rw [← suiteOf, passed_suiteOf, failures_suiteOf] at shown
      rw [show output = _ from runTest_eq finder reader disk runs, if_neg some]
      exact shown
  · have counts := (List.length_eq_countP_add_countP
      (fun path => decide (Passes (disk.read path) reader)) (l := fixtures)).symm
    simpa only [← decide_not, Bool.not_eq_true, decide_eq_false_iff_not] using counts

/-- Two fixtures with settings in TOML that expect an empty log, one of which is read in strict mode
    and does not get it.  Together they fail; the one right in the searched folder passes. -/
theorem no_false_pass_two_fixtures :
    let good := "---\nexpect_errors = []\n---\n// Function: f()\n"
    let bad := "---\nexpect_errors = []\nstrict = true\n---\n// Function: f()\n"
    let disk : Disk Id :=
      { read := fun path =>
          if path = "tests/a.test.txt" then .ok good
          else if path = "tests/items/b.test.txt" then .ok bad else .error .notFound
        isFile := fun path => path = "tests/a.test.txt" || path = "tests/items/b.test.txt"
        isFolder := fun path => path = "tests" || path = "tests/items"
        below := fun _ => ["a.test.txt", "items", "items/b.test.txt"] }
    let all : TestRequest := { path := "tests" }
    let top : TestRequest := { path := "tests", categories := ["/"] }
    Fixture.Finder.byName.Quiet ∧ all.onlyList = false ∧ top.onlyList = false
      ∧ (runTest disk all).status ≠ 0 ∧ (runTest disk top).status = 0
      ∧ ∃ order : List String, order.Perm ["tests/a.test.txt", "tests/items/b.test.txt"]
          ∧ (runTest disk.recorded all).run [] = (runTest disk all, order) := by
  intro good bad disk all top
  have quiet := Fixture.byName_quiet
  have selectedAll : Fixture.selected .byName disk all
      = ["tests/a.test.txt", "tests/items/b.test.txt"] := by decide +kernel
  have selectedTop : Fixture.selected .byName disk top = ["tests/a.test.txt"] := by
    decide +kernel
  have passes : Passes (disk.read "tests/a.test.txt") := by
    let fixture : Fixture := { entries := some [], source := "// Function: f()\n" }
    have accepted : Fixture.ofText good = .ok fixture := by decide +kernel
    have clean : fixture.session.log.entries = [] := by decide +kernel
    refine ⟨good, fixture, rfl, accepted, ?_, nofun, nofun⟩
    rintro expected ⟨⟩
    rw [clean]
    exact .nil
  have fails : ¬ Passes (disk.read "tests/items/b.test.txt") := by
    let fixture : Fixture := { strict := true, entries := some [], source := "// Function: f()\n" }
    have accepted : Fixture.ofText bad = .ok fixture := by decide +kernel
    have logged : fixture.session.log.entries ≠ [] := by decide +kernel
    rintro ⟨text, other, ⟨⟩, made, met⟩
    obtain rfl : fixture = other := Except.ok.inj (accepted.symm.trans made)
    exact logged (List.forall₂_nil_left_iff.mp (met.entries [] rfl))
  obtain ⟨⟨order, perm, reads, -⟩, -, status, -⟩ :=
    no_false_pass .byName Fixture.ofToml quiet disk all rfl
  obtain ⟨-, -, statusTop, -⟩ := no_false_pass .byName Fixture.ofToml quiet disk top rfl
  rw [selectedAll] at perm status
  rw [selectedTop] at statusTop
  refine ⟨quiet, rfl, rfl, fun zero => ?_, ?_, order, perm, reads []⟩
  · exact fails ((status.mp zero).2 _ (List.mem_cons_of_mem _ (List.mem_singleton.mpr rfl)))
  · exact statusTop.mpr ⟨List.cons_ne_nil _ _, List.forall_mem_singleton.mpr passes⟩

end CommandLine

end DocComments
