/-
  What a title stands for.

  Some titles belong to the grammar itself: definitions, configuration directives, the containers,
  the properties of a file and the kinds of item.  Every other title is a LEAF, and of the leaves
  images, topics and cross-references have handling of their own; what the others mean is up to the
  registry.

  An item title that has been defined as a block of its own is a leaf too; that depends on the
  registry, so it is decided where the registry is at hand.
-/
import DocComments.Project
import DocComments.Rule

namespace DocComments

/-- The properties that a block can give to its file. -/
inductive FileField where
  | includes | commonCode | summary | group | footnotes
deriving Repr, DecidableEq, Inhabited

/-- The part a title plays in the grammar. -/
inductive TitleRole where
  | define
  | directive (directive : Directive)
  | file
  | sect
  | subsect
  | fileField (field : FileField)
  | item
  | leaf
deriving Repr, DecidableEq, Inhabited

/-- The part that a title plays. -/
def TitleRole.ofTitle (title : String) : TitleRole :=
  match title with
  | "DefineHeader" => .define
  | "IgnoreFiles" => .directive .ignoreFiles
  | "PrioritizeFiles" => .directive .prioritizeFiles
  | "DocsDirectory" => .directive .docsDirectory
  | "ProjectName" => .directive .projectName
  | "TargetProfile" => .directive .targetProfile
  | "GenerateDocs" => .directive .generateDocs
  | "File" => .file
  | "LibFile" => .file
  | "Section" => .sect
  | "Subsection" => .subsect
  | "Includes" => .fileField .includes
  | "CommonCode" => .fileField .commonCode
  | "FileSummary" => .fileField .summary
  | "FileGroup" => .fileField .group
  | "FileFootnotes" => .fileField .footnotes
  | "Constant" => .item
  | "Function" => .item
  | "Module" => .item
  | "Function&Module" => .item
  | _ => .leaf

/-- The two lists of words that an item can carry. -/
inductive WordList where
  | topics
  | seeAlso
deriving Repr, DecidableEq, Inhabited

/-- How a leaf is handled. -/
inductive LeafRole where
  /-- One image under the open item. -/
  | image (kind : LeafKind)
  /-- One image for each body line, with a title of its own. -/
  | images (title : String) (kind : LeafKind)
  /-- A list of words, unless the title is registered. -/
  | words (list : WordList)
  /-- A registered block or nothing. -/
  | plain
deriving Repr, DecidableEq, Inhabited

/-- How a leaf with this title is handled. -/
def LeafRole.ofTitle (title : String) : LeafRole :=
  match title with
  | "Example" => .image .sample
  | "Figure" => .image .figure
  | "Examples" => .images "Example" .sample
  | "Figures" => .images "Figure" .figure
  | "Topics" => .words .topics
  | "See Also" => .words .seeAlso
  | _ => .plain

end DocComments
