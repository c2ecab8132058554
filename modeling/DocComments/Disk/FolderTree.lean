/-
  A folder tree held in memory, as a disk.

  A path is followed component by component from the working folder, or from the top when it starts
  with a slash.  A file has no components below it, not even an empty one, so a slash after the name
  of a file is an error; `..` at the top stays there.
-/
import DocComments.Disk
import DocComments.Text.Split

namespace DocComments

/-- A file with its bytes, or a folder with its named entries. -/
inductive FolderTree where
  | file (bytes : ByteArray)
  | folder (entries : List (String × FolderTree))
deriving Inhabited

namespace FolderTree

/-! ## Building -/

/-- The tree with the tree at a path changed; where there is none, an empty folder is changed, and
    the folders on the way to it are made. -/
def alter (change : FolderTree → FolderTree) : List String → FolderTree → FolderTree
  | [], tree => change tree
  | name :: path, .file _ => .folder [(name, alter change path (.folder []))]
  | name :: path, .folder entries =>
    match entries.lookup name with
    | none => .folder (entries ++ [(name, alter change path (.folder []))])
    | some sub =>
      .folder (entries.map fun entry =>
        if entry.1 = name then (name, alter change path sub) else entry)

/-- The names on a path into a tree. -/
def namesOf (path : String) : List String := (Text.splitAt '/' path).filter (· ≠ "")

/-- The tree with a file at a path. -/
def putFile (tree : FolderTree) (path : String) (bytes : ByteArray) : FolderTree :=
  alter (fun _ => .file bytes) (namesOf path) tree

/-- The tree with a folder at a path, which keeps what is there already. -/
def makeFolder (tree : FolderTree) (path : String) : FolderTree := alter id (namesOf path) tree

/-! ## Following a path -/

/-- A place in a tree: what is there, and the folders above it, nearest first. -/
structure Place where
  here : FolderTree
  above : List FolderTree

/-- The longest name that an entry can have, in bytes. -/
def longestName : Nat := 255

/-- Follow one component. -/
def Place.step (place : Place) (name : String) : Except FileError Place :=
  match place.here with
  | .file _ => .error .notFolder
  | .folder entries =>
    if name = "" || name = "." then .ok place
    else if name = ".." then
      match place.above with
      | [] => .ok place
      | parent :: above => .ok ⟨parent, above⟩
    else if longestName < name.utf8ByteSize then .error .nameTooLong
    else match entries.lookup name with
      | none => .error .notFound
      | some tree => .ok ⟨tree, place.here :: place.above⟩

/-- The place that a path leads to; the empty path leads nowhere. -/
def Place.follow (top working : Place) (path : String) : Except FileError Place :=
  if path = "" then .error .notFound
  else
    (Text.splitAt '/' path).foldlM Place.step
      (if path.toList.head? = some '/' then top else working)

/-! ## As a disk -/

/-- The text of a file. -/
def text (tree : FolderTree) : Except FileError String :=
  match tree with
  | .folder _ => .error .isFolder
  | .file bytes =>
    match String.fromUTF8? bytes with
    | none => .error .notText
    | some text => .ok text

mutual

/-- The paths of everything below a tree. -/
def paths : FolderTree → List String
  | .file _ => []
  | .folder entries => entryPaths entries

/-- The paths of named trees and of everything below them. -/
def entryPaths : List (String × FolderTree) → List String
  | [] => []
  | (name, tree) :: rest => name :: (paths tree).map ((name ++ "/") ++ ·) ++ entryPaths rest

end

/-- The disk with a tree at its top, worked on from a place in it. -/
def disk (tree : FolderTree) (working : Place) : Disk Id :=
  let find := Place.follow ⟨tree, []⟩ working
  { read := fun path => (find path).bind fun place => place.here.text
    isFile := fun path => match find path with
      | .ok ⟨.file _, _⟩ => true
      | _ => false
    isFolder := fun path => match find path with
      | .ok ⟨.folder _, _⟩ => true
      | _ => false
    below := fun path => match find path with
      | .ok place => place.here.paths
      | .error _ => [] }

end FolderTree

end DocComments
