/-
  What a command line asks for: to parse source files, to run fixtures, or to be told something.

  The command's name is the first word that is no option.  What stands before it holds for every
  command, what stands after it for that command only.
-/
import DocComments.CommandLine.Options

namespace DocComments.CommandLine

/-- What parsing puts out besides the diagnostics. -/
inductive Product where
  | nothing
  | verdict
  | tree
  | json
  | names
deriving Repr, DecidableEq, Inhabited

/-- How to parse source files. -/
structure ParseRequest where
  files : List String
  config : Option String := none
  strict : Bool := false
  quiet : Bool := false
  product : Product := .nothing
  plain : Bool := false
deriving Repr, DecidableEq, Inhabited

/-- How to run fixtures. -/
structure TestRequest where
  path : String
  categories : List String := []
  onlyList : Bool := false
  plain : Bool := false
deriving Repr, DecidableEq, Inhabited

/-- A page of help. -/
inductive HelpPage where
  | top
  | parse
  | test
  | help
deriving Repr, DecidableEq, Inhabited

/-- What a command line asks for. -/
inductive Request where
  | parse (request : ParseRequest)
  | test (request : TestRequest)
  | help (page : HelpPage)
  | version
deriving Repr, DecidableEq, Inhabited

/-! ## The options -/

/-- The flag that both commands take, before or after the command's name. -/
def noColor : OptionSpec := { name := "no-color", about := "Disable colored error output" }

/-- Every command has its own help. -/
def helpOption : OptionSpec :=
  { name := "help", letter := some 'h', kind := .help, about := "Print help" }

/-- Only the program as a whole has a version. -/
def versionOption : OptionSpec :=
  { name := "version", letter := some 'V', kind := .version, about := "Print version" }

/-- The options before the command's name. -/
def topOptions : List OptionSpec := [noColor, helpOption, versionOption]

/-- The options of `parse`. -/
def parseOptions : List OptionSpec :=
  [{ name := "config", kind := .value false false
     about := "Configuration file (defaults to ./.docsgen_rc when present)" },
   noColor,
   { name := "strict", about := "Require a File or LibFile block before any other block" },
   { name := "check", about := "Parse only, print nothing but diagnostics (exit 0 if clean)" },
   { name := "tree", about := "Dump the parsed tree" },
   { name := "json", about := "Print the parsed files as JSON" },
   { name := "list-items", about := "List every indexed item name" },
   { name := "quiet", letter := some 'q'
     about := "Suppress warnings (failures are still reported)" },
   helpOption]

/-- The options of `test`. -/
def testOptions : List OptionSpec :=
  [{ name := "category", letter := some 'c', kind := .value true true
     about := "Run only tests in these categories (subfolder names). Repeatable." },
   noColor,
   { name := "list-categories", about := "List available categories and exit" },
   helpOption]

/-! ## Reading -/

/-- The first product in this order that was asked for. -/
def productOf (given : Given) : Product :=
  if given.has "check" then .verdict
  else if given.has "tree" then .tree
  else if given.has "json" then .json
  else if given.has "list-items" then .names
  else .nothing

/-- The words after `parse`. -/
def parseWords (plain : Bool) (words : List String) : Except Stop Request := do
  let given ← readWords parseOptions none words
  if given.words.isEmpty then .error (.mistake (.missingWord "<FILES>..."))
  else
    .ok (.parse
      { files := given.words
        config := (given.values "config").head?
        strict := given.has "strict"
        quiet := given.has "quiet"
        product := productOf given
        plain := plain || given.has "no-color" })

/-- The words after `test`. -/
def testWords (plain : Bool) (words : List String) : Except Stop Request := do
  let given ← readWords testOptions (some 1) words
  match given.words with
  | [] => .error (.mistake (.missingWord "<PATH>"))
  | path :: _ =>
    .ok (.test
      { path
        categories := given.values "category"
        onlyList := given.has "list-categories"
        plain := plain || given.has "no-color" })

/-- The words after `help`: at most the name of one command. -/
def helpWords : List String → Except Stop Request
  | [] => .ok (.help .top)
  | ["parse"] => .ok (.help .parse)
  | ["test"] => .ok (.help .test)
  | ["help"] => .ok (.help .help)
  | words => .error (.mistake (.unknownCommand (" ".intercalate words)))

/-- A page of help that was asked for between the words of a command. -/
def answerHelp (page : HelpPage) : Except Stop Request → Except UsageError Request
  | .ok request => .ok request
  | .error .help => .ok (.help page)
  | .error .version => .ok .version
  | .error (.mistake error) => .error error

/-- The command with a name and the words after it. -/
def commandWords (plain : Bool) (name : String) (words : List String) :
    Except UsageError Request :=
  match name with
  | "parse" => answerHelp .parse (parseWords plain words)
  | "test" => answerHelp .test (testWords plain words)
  | "help" => answerHelp .help (helpWords words)
  | _ => .error (.unknownCommand name)

/-- Read a command line. -/
def Request.ofWords (words : List String) : Except UsageError Request :=
  match readWords topOptions (some 0) (words.takeWhile looksLikeOption) with
  | .error stop => answerHelp .top (.error stop)
  | .ok given =>
    match words.dropWhile looksLikeOption with
    | [] => .error (.missingWord "<COMMAND>")
    | name :: rest =>
      if given.onlyWords then .error (.unexpectedWord name)
      else commandWords (given.has "no-color") name rest

end DocComments.CommandLine
