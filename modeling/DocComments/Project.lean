/-
  Project settings: what the directives of the configuration source have set so far.

  The library only records them.  A directive is applied as a whole or not at all: one malformed
  pattern in a list, or one unknown document kind, leaves the settings as they were.

    * `IgnoreFiles`      adds file patterns, one in the subtitle and one on each body line;
    * `PrioritizeFiles`  replaces the list of files that come first;
    * `DocsDirectory`, `ProjectName`, `TargetProfile`  replace a value, which may not be empty;
    * `GenerateDocs`     replaces the list of document kinds, each kept once.
-/
import DocComments.FilePattern
import DocComments.Text.Lowercase
import DocComments.Rejection

namespace DocComments

/-! ## Kinds of documents -/

/-- The kinds of documents that can be generated. -/
inductive DocKind where
  | files | toc | index | topics | cheatSheet | sidebar
deriving Repr, DecidableEq, Inhabited

/-- The upper-case names of the kinds. -/
def DocKind.names : List (String × DocKind) :=
  [("FILES", .files), ("TOC", .toc), ("INDEX", .index), ("TOPICS", .topics), ("CHEAT", .cheatSheet),
   ("CHEATSHEET", .cheatSheet), ("SIDEBAR", .sidebar)]

/-- The kind with a given name, in any case, blanks around it allowed. -/
def DocKind.ofName? (name : String) : Option DocKind :=
  List.lookup (String.ofList (Text.asciiUppercase (Text.trim name.toList))) DocKind.names

/-! ## Settings -/

/-- What the configuration directives have set. -/
structure Project where
  ignored : List FilePattern := []
  priority : List String := []
  docsDirectory : Option String := none
  name : Option String := none
  targetProfile : Option String := none
  generate : List DocKind := []
deriving Repr, DecidableEq, Inhabited

/-- The configuration directives. -/
inductive Directive where
  | ignoreFiles | prioritizeFiles | docsDirectory | projectName | targetProfile | generateDocs
deriving Repr, DecidableEq, Inhabited

/-- The subtitle and the body lines, trimmed, without the empty ones. -/
def listedIn (subtitle : String) (body : List String) : List String :=
  ((subtitle :: body).map Text.strip).filter (· ≠ "")

/-- Read each pattern of a list; the error is the first malformed one. -/
def readPatterns : List String → Except Cause (List FilePattern)
  | [] => .ok []
  | text :: rest =>
    match FilePattern.ofText? text with
    | none => .error (.badPattern text)
    | some pattern =>
      match readPatterns rest with
      | .ok patterns => .ok (pattern :: patterns)
      | .error cause => .error cause

/-- Read each document kind of a list; the error is the first unknown one. -/
def readDocKinds : List String → Except Cause (List DocKind)
  | [] => .ok []
  | name :: rest =>
    match DocKind.ofName? name with
    | none => .error (.unknownDocKind name)
    | some kind =>
      match readDocKinds rest with
      | .ok kinds => .ok (kind :: kinds)
      | .error cause => .error cause

/-- The string without the slashes at its end. -/
def dropTrailingSlashes (s : String) : String :=
  String.ofList (s.toList.reverse.dropWhile (· == '/')).reverse

namespace Project

/-- The value of a directive that takes one: its subtitle, and no body. -/
def singleValue (subtitle : String) (body : List String) : Except Cause String :=
  if body ≠ [] then .error .bodyNotSupported
  else if subtitle = "" then .error .missingSubtitle
  else .ok subtitle

/-- Apply a directive, given its subtitle and body. -/
def apply (project : Project) (directive : Directive) (subtitle : String) (body : List String) :
    Except Cause Project :=
  match directive with
  | .ignoreFiles =>
    (readPatterns (listedIn subtitle body)).map fun patterns =>
      { project with ignored := project.ignored ++ patterns }
  | .prioritizeFiles => .ok { project with priority := listedIn subtitle body }
  | .docsDirectory =>
    (singleValue subtitle body).map fun value =>
      { project with docsDirectory := some (dropTrailingSlashes value) }
  | .projectName =>
    (singleValue subtitle body).map fun value => { project with name := some value }
  | .targetProfile =>
    (singleValue subtitle body).map fun value => { project with targetProfile := some value }
  | .generateDocs => do
    let kinds ← readDocKinds (Text.entriesOf (← singleValue subtitle body))
    pure { project with generate := kinds.eraseDups }

/-- The path matches one of the patterns of files to leave out. -/
def ignores (project : Project) (path : String) : Bool :=
  project.ignored.any (·.accepts path)

end Project

end DocComments
