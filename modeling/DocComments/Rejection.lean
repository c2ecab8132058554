/-
  Why a block is refused, and in which words.

  `Cause` lists the ways a block can break the rules of the grammar or of the configuration;
  a `Rejection` is a cause together with the title of the block it befell.  `Rejection.message` is
  the one place that knows the wording.  Each message ends with the title.
-/
import DocComments.Origin

namespace DocComments

/-- The ways a block can be refused. -/
inductive Cause where
  /-- A later body line is indented less than the first. -/
  | underIndented
  /-- A configuration directive stands outside the configuration source, named here. -/
  | configOnly (config : String)
  /-- The block may not have a body. -/
  | bodyNotSupported
  /-- The block needs a subtitle. -/
  | missingSubtitle
  /-- The unit has its File block already. -/
  | duplicateFile
  /-- In strict mode the unit must open with a File block. -/
  | fileRequired
  /-- A Subsection needs a Section above it. -/
  | sectionRequired
  /-- The name belongs to the item declared at `previous`. -/
  | redeclared (name : String) (previous : Origin)
  /-- An item's name may not hold text between parentheses. -/
  | parenthesizedText
  /-- A definition names no kind of block. -/
  | unknownBlockType
  /-- A table definition names no headers. -/
  | missingHeaders
  /-- A list of document kinds holds an unknown one. -/
  | unknownDocKind (kind : String)
  /-- A list of file patterns holds a malformed one. -/
  | badPattern (pattern : String)
  /-- No rule knows the title. -/
  | unrecognized
  /-- A table row stands after the last header set. -/
  | tooManyTables
  /-- A table row has fewer cells than its header set has columns. -/
  | tooFewCells
deriving Repr, DecidableEq, Inhabited

/-- A cause and the title of the block that was refused. -/
structure Rejection where
  title : String
  cause : Cause
deriving Repr, DecidableEq, Inhabited

/-- The wording of a rejection. -/
def Rejection.message (r : Rejection) : String :=
  match r.cause with
  | .underIndented =>
    "Body line has less indentation than first line, while declaring block: " ++ r.title
  | .configOnly config => "Block disallowed outside of " ++ config ++ " file: " ++ r.title
  | .bodyNotSupported => "Body not supported, while declaring block: " ++ r.title
  | .missingSubtitle => "Must provide a subtitle when declaring block: " ++ r.title
  | .duplicateFile => "File/LibFile block already specified, while declaring block: " ++ r.title
  | .fileRequired => "Must declare File or LibFile block before declaring block: " ++ r.title
  | .sectionRequired => "Must declare a Section before declaring block: " ++ r.title
  | .redeclared name previous =>
    "Previous declaration of `" ++ name ++ "` at " ++ previous.text ++ ", Redeclared: " ++ r.title
  | .parenthesizedText => "Text between parentheses, while declaring block: " ++ r.title
  | .unknownBlockType => "Could not parse target block type, while declaring block: " ++ r.title
  | .missingHeaders => "Table type is missing Headers= option, while declaring block: " ++ r.title
  | .unknownDocKind kind => "Unknown type \"" ++ kind ++ "\", while declaring block: " ++ r.title
  | .badPattern pattern =>
    "Invalid file pattern \"" ++ pattern ++ "\", while declaring block: " ++ r.title
  | .unrecognized => "Unrecognized block: " ++ r.title
  | .tooManyTables => "More tables than header sets, while rendering block: " ++ r.title
  | .tooFewCells => "Fewer cells than table headers, while rendering block: " ++ r.title

end DocComments
