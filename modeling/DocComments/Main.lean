/-
  The program: the command line on the files of this machine.
-/
import DocComments.CommandLine

namespace DocComments.Machine

/-- The system's number for an error, which comes with either sign. -/
def hasNumber (code number : UInt32) : Bool := code == number || code == 0 - number

/-- The cause of a failed read, by the system's number for it where the kind alone does not tell. -/
def fileErrorOf : IO.Error → FileError
  | .noFileOrDirectory .. => .notFound
  | .permissionDenied .. => .denied
  | .inappropriateType _ code _ => if hasNumber code 20 then .notFolder else .isFolder
  | .invalidArgument _ code details => if hasNumber code 36 then .nameTooLong else .other details
  | error => .other error.toString

/-- The text of a file. -/
def read (path : String) : IO (Except FileError String) := do
  try
    let bytes ← IO.FS.readBinFile path
    match String.fromUTF8? bytes with
    | none => pure (.error .notText)
    | some text => pure (.ok text)
  catch error => pure (.error (fileErrorOf error))

/-- The names in a folder; none if there is no folder that can be looked into. -/
def names? (path : String) : IO (Option (List String)) := do
  try
    let entries ← (← IO.FS.realPath path).readDir
    pure (some (entries.toList.map (·.fileName)))
  catch _ => pure none

/-- The path leads to a folder. -/
def isFolder (path : String) : IO Bool := do pure (← names? path).isSome

/-- The path leads to something that is no folder. -/
def isFile (path : String) : IO Bool := do
  if ← isFolder path then pure false
  else
    try
      discard (IO.FS.Handle.mk path .read)
      pure true
    catch _ => pure false

/-- Everything below a folder, by the path from that folder on. -/
partial def below (path : String) : IO (List String) := do
  let names := (← names? path).getD []
  let deeper ← names.mapM fun name => do
    pure (name :: (← below (Path.join path name)).map ((name ++ "/") ++ ·))
  pure deeper.flatten

/-- The files of this machine. -/
def disk : Disk IO := { read, isFile, isFolder, below }

end DocComments.Machine

/-- Run the command line on the real disk: print what it answers and exit with its code. -/
def main (words : List String) : IO UInt32 := do
  let output ← DocComments.CommandLine.run DocComments.Machine.disk words
  (← IO.getStdout).putStr output.out
  (← IO.getStderr).putStr output.err
  pure output.status.toUInt32
