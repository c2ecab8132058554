/-
  Finding fixtures on a disk.

  A path that leads to a file is the only fixture there, whatever its name.  Any other path is the
  folder to search, and everything below it with a name that ends in `.test.txt` counts, in hidden
  folders too, and even folders themselves, which then cannot be read.

  The searched folder is approached component by component, which decides how the found paths are
  written: from the working folder, which itself is not written in front of them.

  That is one way to find fixtures (`Finder.byName`).  What is done with the paths that were found,
  their categories and their order, is the same for all (`search`).
-/
import DocComments.Disk
import DocComments.Disk.Path
import DocComments.Fixture.Category

namespace DocComments.Fixture

/-- What the names of fixtures end in. -/
def suffix : String := ".test.txt"

/-- The components of a searched path, in the order they are followed, and where that starts. -/
def approach (root : String) : String × List String :=
  match Text.splitAt '/' (root ++ "/") with
  | "" :: names => ("/", names.dropLast)
  | names => (".", names.dropLast)

/-- The path after one more component, if there is something. -/
def advance {m : Type → Type} [Monad m] (disk : Disk m) (path name : String) :
    m (Option String) := do
  let next := if path = "." then name else Path.join path name
  let there ← if name = "." || name = ".." then disk.isFolder path else disk.occupied next
  pure (if there then some next else none)

/-- The path that following the components leads to. -/
def reach {m : Type → Type} [Monad m] (disk : Disk m) (path : String) :
    List String → m (Option String)
  | [] => pure (some path)
  | name :: names => do
    match ← advance disk path name with
    | none => pure none
    | some next => reach disk next names

/-- The paths below a folder with the suffix of fixtures. -/
def fixturesBelow {m : Type → Type} [Monad m] (disk : Disk m) (folder : String) :
    m (List String) := do
  if ← disk.isFolder folder then
    let paths ← disk.below folder
    let named := paths.filter fun path =>
      Text.startsWith suffix.toList.reverse path.toList.reverse
    pure (named.map fun path => if folder = "." then path else Path.join folder path)
  else pure []

/-- A way to find fixtures: the paths of those below a searched path, asked of a disk. -/
structure Finder where
  paths : {m : Type → Type} → [Monad m] → Disk m → String → m (List String)

/-- The way to find fixtures by their names. -/
def Finder.byName : Finder where
  paths disk root := do
    let (start, names) := approach root
    match ← reach disk start names with
    | none => pure []
    | some folder => fixturesBelow disk folder

/-- The category of a fixture that was found below `root`. -/
def categoryOf (root path : String) : String :=
  Path.ofComponents ((Path.foldersBelow root path).map fun name =>
    String.ofList (name.toList.map fun c => if c = '\\' then '/' else c))

/-- The fixtures at a path by category, sorted by their path components in each. -/
def search {m : Type → Type} [Monad m] (disk : Disk m) (root : String)
    (finder : Finder := .byName) : m (List (String × List String)) := do
  if ← disk.isFile root then pure [("", [root])]
  else
    let found ← finder.paths disk root
    let sorted := found.mergeSort fun a b =>
      Path.precedes (Path.components a) (Path.components b)
    pure (Category.grouped (sorted.map fun path => (categoryOf root path, path)))

end DocComments.Fixture
