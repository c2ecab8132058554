/-
  What the command line asks of a disk.

  A disk answers in a monad: the files of this machine in `IO`, a folder tree held in memory
  directly.  A command is written once for all of them.
-/

namespace DocComments

/-- Why a file cannot be read. -/
inductive FileError where
  | notFound
  | denied
  | notFolder
  | isFolder
  | nameTooLong
  | notText
  | other (message : String)
deriving Repr, DecidableEq, Inhabited

/-- The text of an error, with the system's number for it. -/
def FileError.message : FileError → String
  | .notFound => "No such file or directory (os error 2)"
  | .denied => "Permission denied (os error 13)"
  | .notFolder => "Not a directory (os error 20)"
  | .isFolder => "Is a directory (os error 21)"
  | .nameTooLong => "File name too long (os error 36)"
  | .notText => "stream did not contain valid UTF-8"
  | .other message => message

/-- The questions that a disk answers. -/
structure Disk (m : Type → Type) where
  /-- The text of the file at a path. -/
  read : String → m (Except FileError String)
  isFile : String → m Bool
  isFolder : String → m Bool
  /-- Everything below the folder at a path, by the path from that folder on. -/
  below : String → m (List String)

/-- There is something at a path. -/
def Disk.occupied {m : Type → Type} [Monad m] (disk : Disk m) (path : String) : m Bool := do
  if ← disk.isFile path then pure true else disk.isFolder path

end DocComments
