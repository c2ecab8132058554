/-
  The nodes of a documentation tree.

  A node is one block: its title as written, its subtitle, its body lines, the place of its header
  and its options.  The kind says what the node is and carries what only that kind has.

  The nodes of a document are numbered from zero as they are added.  A node knows its parent and its
  children by number; both are the business of the document it stands in.
-/
import DocComments.Rule

namespace DocComments

/-- What only a File node carries. -/
structure FileInfo where
  /-- One-line summary. -/
  summary : String := ""
  /-- Name of the group the file belongs to; empty when it belongs to none. -/
  group : String := ""
  /-- Footnote marks with their notes. -/
  footnotes : List (String × String) := []
  commonCode : List String := []
  includes : List String := []
deriving Repr, DecidableEq, Inhabited

/-- What only an Item node carries. -/
structure ItemInfo where
  /-- Further names of the item. -/
  aliases : List String := []
  topics : List String := []
  deprecated : Bool := false
  seeAlso : List String := []
deriving Repr, DecidableEq, Inhabited

/-- The kinds of nodes. -/
inductive NodeKind where
  | file (info : FileInfo)
  | sect
  | subsect
  | item (info : ItemInfo)
  | leaf (kind : LeafKind)
  | topics
  | seeAlso
deriving Repr, DecidableEq, Inhabited

/-- The kind of a leaf, without what it carries. -/
def LeafKind.tag : LeafKind → KindTag
  | .text => .text
  | .label => .label
  | .list _ => .list
  | .table _ => .table
  | .sample => .sample
  | .figure => .figure
  | .generic => .generic

/-- The kind of a node, without what it carries. -/
def NodeKind.tag : NodeKind → KindTag
  | .file _ => .file
  | .sect => .sect
  | .subsect => .subsect
  | .item _ => .item
  | .leaf kind => kind.tag
  | .topics => .topics
  | .seeAlso => .seeAlso

/-- The kind with its item information changed, where it is an item. -/
def NodeKind.mapItem (f : ItemInfo → ItemInfo) : NodeKind → NodeKind
  | .item info => .item (f info)
  | kind => kind

/-- The kind with its file information changed, where it is a file. -/
def NodeKind.mapFile (f : FileInfo → FileInfo) : NodeKind → NodeKind
  | .file info => .file (f info)
  | kind => kind

/-- One block of the documentation. -/
structure Node where
  kind : NodeKind
  /-- The header word that made the node. -/
  title : String
  subtitle : String := ""
  body : List String := []
  origin : Origin
  options : OptionList := {}
  parent : Option Nat := none
  children : List Nat := []
deriving Repr, DecidableEq, Inhabited

namespace Node

/-- The kind of a node, without what it carries. -/
def tag (node : Node) : KindTag := node.kind.tag

/-- The node in one line: `title:` or `title: subtitle`. -/
def display (node : Node) : String :=
  if node.subtitle = "" then node.title ++ ":" else node.title ++ ": " ++ node.subtitle

/-- What a file carries. -/
def fileInfo? (node : Node) : Option FileInfo :=
  match node.kind with
  | .file info => some info
  | _ => none

/-- What an item carries. -/
def itemInfo? (node : Node) : Option ItemInfo :=
  match node.kind with
  | .item info => some info
  | _ => none

/-- The header sets of a table. -/
def headerSets? (node : Node) : Option (List (List String)) :=
  match node.kind with
  | .leaf (.table sets) => some sets
  | _ => none

end Node

theorem NodeKind.tag_mapItem (f : ItemInfo → ItemInfo) (kind : NodeKind) :
    (kind.mapItem f).tag = kind.tag := by cases kind <;> rfl

theorem NodeKind.tag_mapFile (f : FileInfo → FileInfo) (kind : NodeKind) :
    (kind.mapFile f).tag = kind.tag := by cases kind <;> rfl

end DocComments
