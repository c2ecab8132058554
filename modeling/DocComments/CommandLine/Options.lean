/-
  Reading the words of a command line.

      --name          a flag, or an option whose value is the next word
      --name=value    an option with its value
      -ab             the flags with the letters `a` and `b`
      -cvalue, -c=value, -c value    an option with a letter and its value
      --              all words after this one are plain

  Words are read from left to right, and the first thing that ends the reading decides: a request
  for help is answered if it stands before a mistake, and not if it stands after one.

  An option is given at most once unless it is repeatable, and a word that starts with a dash is
  never its value, except for the dash alone.
-/
import DocComments.Text.Split

namespace DocComments.CommandLine

/-- What an option does. -/
inductive OptionKind where
  | flag
  /-- Takes a value. -/
  | value (repeatable acceptsEmpty : Bool)
  /-- Ends the reading: the pages of help, and the version. -/
  | help
  | version
deriving Repr, DecidableEq, Inhabited

/-- An option with its name and letter. -/
structure OptionSpec where
  name : String
  letter : Option Char := none
  kind : OptionKind := .flag
  about : String
deriving Repr, DecidableEq, Inhabited

/-- Why a command line makes no sense. -/
inductive UsageError where
  | unknownOption (word : String)
  | unexpectedValue (name : String)
  | missingValue (name : String)
  | emptyValue (name : String)
  | repeated (name : String)
  | unexpectedWord (word : String)
  | missingWord (what : String)
  | unknownCommand (word : String)
deriving Repr, DecidableEq, Inhabited

/-- The text of a usage error. -/
def UsageError.message : UsageError → String
  | .unknownOption word => "unexpected argument '" ++ word ++ "' found"
  | .unexpectedValue name => "unexpected value for '--" ++ name ++ "' found; no more were expected"
  | .missingValue name => "a value is required for '--" ++ name ++ "' but none was supplied"
  | .emptyValue name => "a value is required for '--" ++ name ++ "' but none was supplied"
  | .repeated name => "the argument '--" ++ name ++ "' cannot be used multiple times"
  | .unexpectedWord word => "unexpected argument '" ++ word ++ "' found"
  | .missingWord what => "the following required arguments were not provided:\n  " ++ what
  | .unknownCommand word => "unrecognized subcommand '" ++ word ++ "'"

/-- What ends the reading early. -/
inductive Stop where
  | help
  | version
  | mistake (error : UsageError)
deriving Repr, DecidableEq, Inhabited

/-- What has been read: the options with their values (flags have the empty one), in the order they
    stood, and the plain words. -/
structure Given where
  options : List (String × String) := []
  words : List String := []
  /-- The option whose value is the next word. -/
  pending : Option OptionSpec := none
  /-- All further words are plain. -/
  onlyWords : Bool := false
deriving Repr, DecidableEq, Inhabited

namespace Given

/-- The flag was given. -/
def has (given : Given) (name : String) : Bool := given.options.any (·.1 = name)

/-- The values of an option. -/
def values (given : Given) (name : String) : List String :=
  (given.options.filter (·.1 = name)).map (·.2)

/-- Note an option with its value. -/
def note (given : Given) (spec : OptionSpec) (value : String) : Except Stop Given :=
  match spec.kind with
  | .help => .error .help
  | .version => .error .version
  | .flag =>
    if given.has spec.name then .error (.mistake (.repeated spec.name))
    else .ok { given with options := given.options ++ [(spec.name, "")] }
  | .value repeatable acceptsEmpty =>
    if !repeatable && given.has spec.name then .error (.mistake (.repeated spec.name))
    else if !acceptsEmpty && value = "" then .error (.mistake (.emptyValue spec.name))
    else .ok { given with options := given.options ++ [(spec.name, value)] }

/-- Note a plain word, of which there may be at most `limit`. -/
def noteWord (given : Given) (limit : Option Nat) (word : String) : Except Stop Given :=
  if limit.any (· ≤ given.words.length) then .error (.mistake (.unexpectedWord word))
  else .ok { given with words := given.words ++ [word] }

end Given

/-- The option takes a value. -/
def OptionSpec.takesValue (spec : OptionSpec) : Bool :=
  match spec.kind with
  | .value _ _ => true
  | _ => false

/-- A word that cannot be the value of an option. -/
def looksLikeOption (word : String) : Bool :=
  match word.toList with
  | '-' :: _ :: _ => true
  | _ => false

/-- Read the text after two dashes. -/
def readName (specs : List OptionSpec) (given : Given) (text : String) : Except Stop Given :=
  let (name, value) := match Text.splitOnce '=' text with
    | some (name, value) => (name, some value)
    | none => (text, none)
  match specs.find? (·.name = name), value with
  | none, _ => .error (.mistake (.unknownOption ("--" ++ text)))
  | some spec, none =>
    if spec.takesValue then .ok { given with pending := some spec } else given.note spec ""
  | some spec, some value =>
    if spec.takesValue then given.note spec value
    else .error (.mistake (.unexpectedValue name))

/-- Read the letters after one dash. -/
def readLetters (specs : List OptionSpec) (given : Given) : List Char → Except Stop Given
  | [] => .ok given
  | letter :: letters =>
    match specs.find? (·.letter = some letter) with
    | none => .error (.mistake (.unknownOption (String.ofList ['-', letter])))
    | some spec =>
      if spec.takesValue then
        match letters with
        | [] => .ok { given with pending := some spec }
        | '=' :: value => given.note spec (String.ofList value)
        | value => given.note spec (String.ofList value)
      else do readLetters specs (← given.note spec "") letters

/-- Read one word. -/
def readWord (specs : List OptionSpec) (limit : Option Nat) (given : Given) (word : String) :
    Except Stop Given :=
  match given.pending with
  | some spec =>
    if looksLikeOption word then .error (.mistake (.missingValue spec.name))
    else { given with pending := none }.note spec word
  | none =>
    if given.onlyWords then given.noteWord limit word
    else match word.toList with
      | ['-', '-'] => .ok { given with onlyWords := true }
      | '-' :: '-' :: text => readName specs given (String.ofList text)
      | '-' :: letter :: letters => readLetters specs given (letter :: letters)
      | _ => given.noteWord limit word

/-- Read all words. -/
def readWords (specs : List OptionSpec) (limit : Option Nat) (words : List String) :
    Except Stop Given := do
  let given ← words.foldlM (readWord specs limit) {}
  match given.pending with
  | some spec => .error (.mistake (.missingValue spec.name))
  | none => .ok given

end DocComments.CommandLine
