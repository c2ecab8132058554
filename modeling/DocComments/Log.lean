/-
  The log of problems.  It only grows: an entry is added at the end and never changed.
  A warning leaves the block in place, a failure means that the block was refused.

    * `entries_fail`, `entries_warn`  each operation adds exactly one entry, at the end.
-/
import DocComments.Rejection

namespace DocComments

/-- How grave a problem is. -/
inductive Severity where
  | warning
  | failure
deriving Repr, DecidableEq, Inhabited

/-- The word that a log line opens with. -/
def Severity.label : Severity → String
  | .warning => "WARNING"
  | .failure => "FAIL"

/-- One problem, at the place of the block that caused it. -/
structure LogEntry where
  origin : Origin
  severity : Severity
  message : String
deriving Repr, DecidableEq, Inhabited

namespace LogEntry

/-- The block was refused. -/
def isFailure (entry : LogEntry) : Bool := entry.severity == .failure

/-- The entry as a line of text. -/
def text (entry : LogEntry) : String :=
  entry.severity.label ++ ": " ++ entry.origin.text ++ ": " ++ entry.message

end LogEntry

/-- The entries in the order they were added. -/
structure Log where
  entries : List LogEntry := []
deriving Repr, DecidableEq, Inhabited

namespace Log

/-- Put an entry at the end. -/
def add (log : Log) (entry : LogEntry) : Log := ⟨log.entries ++ [entry]⟩

/-- Record that a block was refused. -/
def fail (log : Log) (origin : Origin) (rejection : Rejection) : Log :=
  log.add ⟨origin, .failure, rejection.message⟩

/-- Record a problem that leaves its block in place. -/
def warn (log : Log) (origin : Origin) (message : String) : Log :=
  log.add ⟨origin, .warning, message⟩

/-- The entries added after the log held `mark` of them. -/
def since (log : Log) (mark : Nat) : List LogEntry := log.entries.drop mark

/-- How many entries there are. -/
def size (log : Log) : Nat := log.entries.length

/-- Some block was refused. -/
def hasFailures (log : Log) : Bool := log.entries.any (·.isFailure)

/-- Some block of this source unit was refused. -/
def fileHasFailures (log : Log) (file : String) : Bool :=
  log.entries.any fun entry => entry.isFailure && entry.origin.file == file

theorem entries_fail (log : Log) (origin : Origin) (rejection : Rejection) :
    (log.fail origin rejection).entries
      = log.entries ++ [⟨origin, .failure, rejection.message⟩] := rfl

theorem entries_warn (log : Log) (origin : Origin) (message : String) :
    (log.warn origin message).entries = log.entries ++ [⟨origin, .warning, message⟩] := rfl

end Log

end DocComments
