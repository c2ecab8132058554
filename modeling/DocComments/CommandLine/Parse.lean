/-
  The command `parse`: read the configuration, then the source files in order, and show what went
  wrong in them.

  A file that cannot be read ends the command at once: nothing that was found before it is shown.
  Files that the configuration leaves out are not even opened.

  A diagnostic shows its line in the text that was last read under the name that it carries.
-/
import DocComments.CommandLine.Output
import DocComments.CommandLine.Request
import DocComments.Disk
import DocComments.Document.Export
import DocComments.Excerpt
import DocComments.Session

namespace DocComments.CommandLine

/-- A file that could not be read. -/
inductive Unreadable where
  | config (path : String) (error : FileError)
  | source (path : String) (error : FileError)
deriving Repr, DecidableEq, Inhabited

/-- The text that tells of an unreadable file. -/
def Unreadable.message : Unreadable → String
  | .config path error => "cannot read config '" ++ path ++ "': " ++ error.message
  | .source path error => "cannot read '" ++ path ++ "': " ++ error.message

/-- What has been read so far. -/
structure Reading where
  session : Session
  /-- The texts by name, the latest first. -/
  sources : List (String × String) := []
  /-- How many source files there were. -/
  count : Nat := 0

namespace Reading

/-- A reading that has the configuration behind it, if there is one. -/
def start (strict : Bool) (config : Option String) : Reading :=
  let session := Session.start { strict }
  match config with
  | none => { session }
  | some text =>
    { session := (session.loadConfig text).1, sources := [(session.mode.configSource, text)] }

/-- Read one source file. -/
def add (reading : Reading) (file text : String) : Reading :=
  { session := (reading.session.readText text file).1
    sources := (file, text) :: reading.sources
    count := reading.count + 1 }

/-- Read source files in order, those apart that the configuration leaves out. -/
def addFiles {m : Type → Type} [Monad m] (disk : Disk m) (reading : Reading) :
    List String → m (Except Unreadable Reading)
  | [] => pure (.ok reading)
  | file :: files =>
    if reading.session.project.ignores file then addFiles disk reading files
    else do
      match ← disk.read file with
      | .error error => pure (.error (.source file error))
      | .ok text => addFiles disk (reading.add file text) files

/-- The lines of all diagnostics. -/
def diagnostics (reading : Reading) (plain quiet : Bool) : List String :=
  let shown := reading.session.log.entries.filter fun entry => entry.isFailure || !quiet
  shown.flatMap fun entry =>
    Excerpt.render plain entry (reading.sources.lookup entry.origin.file)

/-- What is put out for a product that goes to the first stream. -/
def product (reading : Reading) : Product → String
  | .nothing => ""
  | .verdict => ""
  | .tree => reading.session.tree
  | .json => (Json.array (View.toJsons reading.session.document.views)).text ++ "\n"
  | .names => ofLines reading.session.index.sorted

/-- The line that tells that nothing failed. -/
def verdict (reading : Reading) : List String :=
  if reading.session.log.hasFailures then []
  else [s!"ok: {reading.count} file(s) parsed successfully"]

/-- What the command puts out when all files could be read. -/
def report (reading : Reading) (request : ParseRequest) : Output :=
  let diagnostics := reading.diagnostics request.plain request.quiet
  { status := if reading.session.log.hasFailures then 1 else 0
    out := reading.product request.product
    err := ofLines (diagnostics ++ if request.product = .verdict then reading.verdict else []) }

end Reading

/-- The text of the configuration: the file that was named, which must be there, or the usual one,
    which need not. -/
def readConfig {m : Type → Type} [Monad m] (disk : Disk m) (named : Option String) :
    m (Except Unreadable (Option String)) := do
  let path := named.getD configFile
  let wanted ← if named.isSome then pure true else disk.isFile path
  if wanted then
    match ← disk.read path with
    | .error error => pure (.error (.config path error))
    | .ok text => pure (.ok (some text))
  else pure (.ok none)

/-- Run the command. -/
def runParse {m : Type → Type} [Monad m] (disk : Disk m) (request : ParseRequest) : m Output := do
  let unreadable := fun (cause : Unreadable) => Output.ofError 1 ["error: " ++ cause.message]
  match ← readConfig disk request.config with
  | .error cause => pure (unreadable cause)
  | .ok config =>
    match ← (Reading.start request.strict config).addFiles disk request.files with
    | .error cause => pure (unreadable cause)
    | .ok reading => pure (reading.report request)

end DocComments.CommandLine
