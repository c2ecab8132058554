/-
  A data view of a subtree, for callers that want plain values instead of the document.

  A view repeats the node and the views of its children.  A File view adds the file's information.
  An Item view adds the item's information and gathers the bodies of its usages, descriptions,
  arguments and examples; the children with a title that is gathered (or that only feeds the item's
  information, as `Alias` does) are folded away and have no view of their own.

  `viewOf` ends because children have greater numbers than their parent and no number reaches the
  size of the document.
-/
import DocComments.Document

namespace DocComments

/-- The children's bodies that an item view gathers. -/
structure Gathered where
  /-- Subtitle and body of each usage. -/
  usages : List (String × List String) := []
  description : List String := []
  arguments : List String := []
  examples : List (List String) := []
deriving Repr, DecidableEq, Inhabited

/-- What a view has beyond the common part, by the kind of its node. -/
inductive ViewDetails where
  | plain
  | file (info : FileInfo)
  | item (info : ItemInfo) (gathered : Gathered)
deriving Repr, DecidableEq, Inhabited

/-- A node and the nodes below it as a value. -/
inductive View where
  | mk (name subtitle : String) (body : List String) (origin : Origin) (details : ViewDetails)
      (children : List View)
deriving Repr, Inhabited

namespace Document

/-- The titles of children that an item view folds away. -/
def foldedTitles : List String :=
  ["Status", "Alias", "Aliases", "Topics", "See Also", "Usage", "Description", "Arguments",
   "Example"]

/-- The bodies that the view of an item gathers from its children. -/
def gathered (doc : Document) (id : Nat) : Gathered where
  usages := (doc.childrenTitled id "Usage").map fun node => (node.subtitle, node.body)
  description := (doc.childrenTitled id "Description").flatMap (·.body)
  arguments := (doc.childrenTitled id "Arguments").flatMap (·.body)
  examples := (doc.childrenTitled id "Example").map (·.body)

/-- What the view of a node has beyond the common part. -/
def viewDetails (doc : Document) (id : Nat) (node : Node) : ViewDetails :=
  match node.kind with
  | .file info => .file info
  | .item info => .item info (doc.gathered id)
  | _ => .plain

/-- A child keeps a view of its own unless the view of an item folds it away. -/
def keepsView (parent child : Node) : Bool :=
  parent.itemInfo?.isNone || !foldedTitles.contains child.title

/-- The view of the subtree at a node. -/
def viewOf (doc : Document) (id : Nat) (node : Node) : View :=
  let kept := (doc.childNodes id).attach.filter fun child => keepsView node child.val.2
  .mk node.title node.subtitle node.body node.origin (doc.viewDetails id node)
    (kept.map fun ⟨(childId, child), _mem⟩ => viewOf doc childId child)
termination_by doc.size - id
decreasing_by
  have := lt_of_mem_childNodes _mem
  omega

/-- The view of the subtree at a number of the document. -/
def view? (doc : Document) (id : Nat) : Option View := (doc.node? id).map (doc.viewOf id)

/-- The views of all roots, in order. -/
def views (doc : Document) : List View := doc.roots.filterMap doc.view?

end Document

end DocComments
