/-
  Reading source units, one after the other.

  `Session.start` is a session that has read the default definitions.  `readLines` and `readText`
  read a unit and tell what it added; `loadConfig` reads the configuration, whose lines carry no
  comment slashes, and keeps its definitions for all later units.
-/
import DocComments.Session.Reading
import DocComments.Document.View

namespace DocComments

/-- What one unit added: its File, if it has one, its names and its log entries. -/
structure Outcome where
  root : Option Nat
  names : List String
  entries : List LogEntry
deriving Repr, DecidableEq, Inhabited

namespace Session

/-- Definitions that every session starts with. -/
def defaultDefinitions : List String :=
  ["// DefineHeader(Text): Text",
   "// DefineHeader(Text;ItemOnly): Description",
   "// DefineHeader(BulletList;ItemOnly): Usage"]

/-- The unit name of the default definitions. -/
def defaultsSource : String := "Defaults"

/-- Make the active definitions last. -/
def commit (s : Session) : Session := { s with registry := s.registry.commit }

/-- A session that has read the default definitions. -/
def start (mode : Mode) : Session :=
  (walkUnit { mode } defaultsSource defaultDefinitions).toSession.commit

/-- Read a unit given as lines. -/
def readLines (s : Session) (lines : List String) (file : String) : Session × Outcome :=
  let w := s.walkUnit file lines
  (w.toSession,
    { root := w.scope.file
      names := w.index.since s.index.size
      entries := w.log.since s.log.size })

/-- Read a unit given as text. -/
def readText (s : Session) (text : String) (file : String) : Session × Outcome :=
  s.readLines (Text.linesOf text) file

/-- Read the configuration. -/
def loadConfig (s : Session) (text : String) : Session × Outcome :=
  let (s, outcome) := s.readLines ((Text.linesOf text).map ("// " ++ ·)) s.mode.configSource
  (s.commit, outcome)

/-! ## Questions to a session -/

/-- The item with a name, primary or not, and its number. -/
def item? (s : Session) (name : String) : Option (Nat × Node) := do
  let id ← s.index.lookup? name
  let node ← s.document.node? id
  pure (id, node)

/-- The files with the prioritized ones first. -/
def filesPrioritized (s : Session) : List Nat := s.document.prioritized s.project.priority

/-- All files as indented text, six levels deep. -/
def tree (s : Session) : String := s.document.dump 6 "" s.filesPrioritized

end Session

end DocComments
