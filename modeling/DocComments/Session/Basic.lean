/-
  The state of reading.

  A SESSION accumulates over source units: the settings, the registry of block titles, the
  document, the index of names and the log.  A WALK is a session in the middle of a unit, with the
  containers that are open there: the SCOPE.

  The scope also names the PARENT, the place where a new leaf goes.  Each block that opens a
  container sets it, and closing an item takes it back to the node above the item.  It is meant to
  be the innermost open container (`Scope.innermost`).
-/
import DocComments.Log
import DocComments.NameIndex
import DocComments.Project
import DocComments.Registry
import DocComments.Document
import DocComments.SourceUnit

namespace DocComments

/-- The usual name of the configuration. -/
def configFile : String := ".docsgen_rc"

/-- How strictly units are read, and which unit is the configuration. -/
structure Mode where
  /-- Every unit must open with a File block. -/
  strict : Bool := false
  /-- The unit in which configuration directives are allowed. -/
  configSource : String := configFile
deriving Repr, DecidableEq, Inhabited

/-- What has been read so far. -/
structure Session where
  mode : Mode := {}
  project : Project := {}
  registry : Registry := Registry.builtin
  document : Document := Document.empty
  index : NameIndex := {}
  log : Log := {}

instance : Inhabited Session := ⟨{}⟩

/-- The containers that are open in a unit, as node numbers. -/
structure Scope where
  file : Option Nat := none
  sect : Option Nat := none
  subsect : Option Nat := none
  item : Option Nat := none
  /-- Where a new leaf goes. -/
  parent : Option Nat := none
deriving Repr, DecidableEq, Inhabited

/-- The innermost open container. -/
def Scope.innermost (scope : Scope) : Option Nat :=
  scope.item.or (scope.subsect.or (scope.sect.or scope.file))

/-- A session in the middle of a unit. -/
structure Walk extends Session where
  scope : Scope := {}

instance : Inhabited Walk := ⟨{}⟩

/-- How the handling of a block ends. -/
inductive Verdict where
  | accepted
  /-- The block is left out, without a word: nothing is open that could take it. -/
  | dropped
  | rejected (cause : Cause)
deriving Repr, DecidableEq, Inhabited

namespace Walk

/-- Record that a block was refused. -/
def fail (w : Walk) (title : String) (origin : Origin) (cause : Cause) : Walk :=
  { w with log := w.log.fail origin ⟨title, cause⟩ }

/-- Act on the verdict over a block: a refusal is logged at the block's place. -/
def settle (block : Block) : Walk × Verdict → Walk
  | (w, .rejected cause) => w.fail block.title block.origin cause
  | (w, _) => w

/-- Close the open item, if there is one; what it stands under takes the leaves again. -/
def closeItem (w : Walk) : Walk :=
  match w.scope.item with
  | none => w
  | some item =>
    { w with scope := { w.scope with item := none, parent := w.document.parent? item } }

/-- The place of a node. -/
def originOf (w : Walk) (id : Nat) : Origin := ((w.document.node? id).map (·.origin)).getD default

end Walk

/-- The node of a block. -/
def Block.node (block : Block) (kind : NodeKind) : Node where
  kind := kind
  title := block.title
  subtitle := block.subtitle
  body := block.body
  origin := block.origin
  options := block.options

end DocComments
