/-
  Running fixtures, category by category.

  A fixture fails when it cannot be read, when its settings make no sense, or when reading its
  source does not give what it expects.  Each fixture is run once and gives one result.
-/
import DocComments.Disk
import DocComments.Disk.Path
import DocComments.Fixture.Check
import DocComments.Fixture.Search

namespace DocComments

/-- Why a fixture fails. -/
inductive Failure where
  | unreadable (error : FileError)
  | malformed (defect : FrontMatter.Defect)
  | mismatch (difference : Mismatch)
deriving Repr, DecidableEq, Inhabited

/-- The text of a failure. -/
def Failure.reason : Failure → String
  | .unreadable error => "cannot read file: " ++ error.message
  | .malformed defect => "frontmatter error: " ++ defect.message
  | .mismatch difference => difference.message

/-- What came of one fixture. -/
structure FixtureResult where
  path : String
  description : Option String
  failure : Option Failure
deriving Repr, DecidableEq, Inhabited

namespace FixtureResult

/-- The text without any number of copies of `lead` at its start. -/
def dropCopies (lead cs : List Char) : List Char :=
  if _more : lead ≠ [] ∧ Text.startsWith lead cs then dropCopies lead (cs.drop lead.length) else cs
termination_by cs.length
decreasing_by
  obtain ⟨rest, hrest⟩ := List.isPrefixOf_iff_prefix.mp _more.2
  have : 0 < lead.length := List.length_pos_iff.mpr _more.1
  rw [← hrest]
  simp only [List.length_drop, List.length_append]
  omega

/-- A file name without the suffix of fixtures, however often it stands there. -/
def plainName (name : String) : String :=
  String.ofList (dropCopies Fixture.suffix.toList.reverse name.toList.reverse).reverse

/-- The name of a result: the description, or else the name of the file. -/
def label (result : FixtureResult) : String :=
  result.description.getD (((Path.fileName? result.path).map plainName).getD "?")

/-- The fixture passes. -/
def passes (result : FixtureResult) : Bool := result.failure.isNone

/-- Run the fixture with a given text. -/
def ofText (path text : String) (reader : Fixture.SettingsReader := Fixture.ofToml) :
    FixtureResult :=
  match Fixture.ofText text reader with
  | .error defect => ⟨path, none, some (.malformed defect)⟩
  | .ok fixture => ⟨path, fixture.description, fixture.mismatch?.map .mismatch⟩

/-- Run the fixture at a path, given what reading it gave. -/
def ofContent (path : String) (content : Except FileError String)
    (reader : Fixture.SettingsReader := Fixture.ofToml) : FixtureResult :=
  match content with
  | .error error => ⟨path, none, some (.unreadable error)⟩
  | .ok text => ofText path text reader

end FixtureResult

/-- The results of a run, by category. -/
structure Suite where
  groups : List (String × List FixtureResult) := []
deriving Repr, DecidableEq, Inhabited

namespace Suite

/-- Run fixtures, given by category with their paths and contents. -/
def run (fixtures : List (String × List (String × Except FileError String)))
    (reader : Fixture.SettingsReader := Fixture.ofToml) : Suite :=
  ⟨fixtures.map fun (category, files) =>
    (category, files.map fun (path, content) => FixtureResult.ofContent path content reader)⟩

/-- All results in the order they were run. -/
def results (suite : Suite) : List FixtureResult := suite.groups.flatMap (·.2)

/-- The results that fail, in the order they were run. -/
def failures (suite : Suite) : List FixtureResult := suite.results.filter (!·.passes)

/-- How many fixtures pass. -/
def passed (suite : Suite) : Nat := suite.results.countP (·.passes)

end Suite

end DocComments
