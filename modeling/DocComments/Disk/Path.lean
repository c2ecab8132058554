/-
  Paths as text: components between slashes.

  Empty components and `.` components change nothing and are not counted, except that a `.` in front
  is kept and that a slash in front makes the path absolute, which counts as a component `/`.
-/
import DocComments.Text.Split

namespace DocComments.Path

/-- The components of a path that count. -/
def components (path : String) : List String :=
  let names := Text.splitAt '/' path
  let start := match names with
    | "" :: _ :: _ => ["/"]
    | "." :: _ => ["."]
    | _ => []
  start ++ names.filter fun name => name ≠ "" && name ≠ "."

/-- The path of some components. -/
def ofComponents : List String → String
  | "/" :: names => "/" ++ "/".intercalate names
  | names => "/".intercalate names

/-- The name of the file or folder at a path, if the path ends in one. -/
def fileName? (path : String) : Option String :=
  match (components path).getLast? with
  | none => none
  | some name => if name = "/" || name = "." || name = ".." then none else some name

/-- The order of paths by their components: a path comes before those below it. -/
def precedes : List String → List String → Bool
  | [], _ => true
  | _ :: _, [] => false
  | a :: as, b :: bs => if a = b then precedes as bs else decide (a < b)

/-- One path below another. -/
def join (folder name : String) : String :=
  if folder.toList.getLast? = some '/' then folder ++ name else folder ++ "/" ++ name

/-- The folder components between `root` and the last component of `path`; none when `path` does not
    start as `root` does. -/
def foldersBelow (root path : String) : List String :=
  let above := (components path).dropLast
  if (components root).isPrefixOf above then above.drop (components root).length else []

end DocComments.Path
