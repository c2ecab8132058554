/-
  The command `test`: run the fixtures at a path, or list their categories.

  The status is zero only if fixtures were run and all of them passed; running none is a failure.
  A path that leads to a single fixture runs that one, whatever categories are asked for.
-/
import DocComments.CommandLine.Output
import DocComments.CommandLine.Request
import DocComments.Fixture.Suite
import DocComments.Terminal

namespace DocComments.CommandLine

/-! ## Showing a suite -/

/-- The terminal code of what passes: green. -/
def goodCode : String := "32"

/-- The terminal code of what fails: red. -/
def badCode : String := "31"

/-- The terminal code of a category's heading: bold. -/
def headCode : String := "1"

/-- The line of one result. -/
def resultLine (plain : Bool) (result : FixtureResult) : String :=
  let status :=
    if result.passes then Terminal.paint plain goodCode "PASS"
    else Terminal.paint plain badCode "FAIL"
  "  " ++ status ++ "  " ++ result.label

/-- The lines of one category. -/
def groupLines (plain : Bool) (group : String × List FixtureResult) : List String :=
  ["", Terminal.paint plain headCode (Category.label group.1)] ++ group.2.map (resultLine plain)

/-- The lines that tell why a fixture failed. -/
def failureLines (result : FixtureResult) : List String :=
  match result.failure with
  | none => []
  | some failure =>
    ["", "  " ++ result.label ++ " (" ++ result.path ++ ")", Text.indent failure.reason]

/-- The lines after those of the categories. -/
def summaryLines (plain : Bool) (suite : Suite) : List String :=
  let verdict :=
    if suite.failures.isEmpty then Terminal.paint plain goodCode "ok"
    else Terminal.paint plain badCode "FAILED"
  (if suite.failures.isEmpty then [] else ["", "failures:"])
    ++ suite.failures.flatMap failureLines
    ++ ["", "test result: " ++ verdict
          ++ s!". {suite.passed} passed, {suite.failures.length} failed"]

/-- The status of a suite that was run. -/
def suiteStatus (suite : Suite) : Nat := if suite.failures.isEmpty then 0 else 1

/-! ## Running -/

/-- Read the fixtures of all categories. -/
def readFixtures {m : Type → Type} [Monad m] (disk : Disk m)
    (found : List (String × List String)) :
    m (List (String × List (String × Except FileError String))) :=
  found.mapM fun (category, paths) => do
    pure (category, ← paths.mapM fun path => do pure (path, ← disk.read path))

/-- List the categories that were found. -/
def listCategories (path : String) (found : List (String × List String)) : Output :=
  if found.isEmpty then
    Output.ofError 0 ["no " ++ Fixture.suffix ++ " files found in " ++ path]
  else
    Output.ofError 0 ("available categories:" :: found.map fun (category, paths) =>
      "  " ++ Category.label category ++ s!" ({paths.length} tests)")

/-- Show the results of fixtures after the warnings that selecting them gave. -/
def showSuite (plain : Bool) (warnings : List String)
    (fixtures : List (String × List (String × Except FileError String)))
    (reader : Fixture.SettingsReader := Fixture.ofToml) : Output :=
  let suite := Suite.run fixtures reader
  Output.ofError (suiteStatus suite)
    (warnings ++ suite.groups.flatMap (groupLines plain) ++ summaryLines plain suite)

/-- Run the command, with a way to find fixtures and a reader of their settings. -/
def runTest {m : Type → Type} [Monad m] (disk : Disk m) (request : TestRequest)
    (finder : Fixture.Finder := .byName) (reader : Fixture.SettingsReader := Fixture.ofToml) :
    m Output := do
  let found ← Fixture.search disk request.path finder
  if request.onlyList then pure (listCategories request.path found)
  else
    let requests := if ← disk.isFile request.path then [] else request.categories
    let warnings := (Category.unanswered requests found).map fun folder =>
      "warning: category '" ++ folder ++ "' not found"
    let selected := Category.select requests found
    if selected.isEmpty then
      pure (Output.ofError 1 (warnings
        ++ ["no matching " ++ Fixture.suffix ++ " files found in " ++ request.path]))
    else
      pure (showSuite request.plain warnings (← readFixtures disk selected) reader)

end DocComments.CommandLine
