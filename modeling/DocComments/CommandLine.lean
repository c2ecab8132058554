/-
  The command line as a whole: read its words, do what they ask for, and give back the output.
-/
import DocComments.CommandLine.Parse
import DocComments.CommandLine.Test

namespace DocComments.CommandLine

/-- The name of the program and its version. -/
def versionLine : String := "docsgen 0.1.0"

/-- The line of an option in a page of help. -/
def optionLine (spec : OptionSpec) : String :=
  let letter := match spec.letter with
    | some c => "-" ++ String.singleton c ++ ", "
    | none => "    "
  let value := if spec.takesValue then " <" ++ spec.name.map Char.toUpper ++ ">" else ""
  let name := letter ++ "--" ++ spec.name ++ value
  "  " ++ name ++ String.ofList (List.replicate (25 - name.length) ' ') ++ "  " ++ spec.about

/-- The lines of a page of help. -/
def helpLines : HelpPage → List String
  | .top =>
    ["Documentation comment parser", "", "Usage: docsgen [OPTIONS] <COMMAND>", "", "Commands:",
     "  parse  Parse source files and report documentation errors",
     "  test   Run .test.txt fixture files",
     "  help   Print this message or the help of the given subcommand(s)", "", "Options:"]
      ++ topOptions.map optionLine
  | .parse =>
    ["Parse source files and report documentation errors", "",
     "Usage: docsgen parse [OPTIONS] <FILES>...", "", "Arguments:",
     "  <FILES>...  Source files to parse, in order", "", "Options:"]
      ++ parseOptions.map optionLine
  | .test =>
    ["Run .test.txt fixture files", "", "Usage: docsgen test [OPTIONS] <PATH>", "", "Arguments:",
     "  <PATH>  Path to a .test.txt file or directory containing them", "", "Options:"]
      ++ testOptions.map optionLine
  | .help =>
    ["Print this message or the help of the given subcommand(s)", "",
     "Usage: docsgen help [COMMAND]", "", "Arguments:",
     "  [COMMAND]  Print help for the subcommand"]

/-- The status of a command line that makes no sense. -/
def usageStatus : Nat := 2

/-- Do what is asked for. -/
def runRequest {m : Type → Type} [Monad m] (disk : Disk m) : Request → m Output
  | .parse request => runParse disk request
  | .test request => runTest disk request
  | .help page => pure { out := ofLines (helpLines page) }
  | .version => pure { out := ofLines [versionLine] }

/-- Run a command line. -/
def run {m : Type → Type} [Monad m] (disk : Disk m) (words : List String) : m Output :=
  match Request.ofWords words with
  | .error error =>
    pure (Output.ofError usageStatus
      ["error: " ++ error.message, "", "For more information, try '--help'."])
  | .ok request => runRequest disk request

end DocComments.CommandLine
