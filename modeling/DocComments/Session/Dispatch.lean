/-
  What a block does, by its title.

  Definitions and directives come first, then the File block; in strict mode every other title needs
  an open File.  An item title that has been defined as a block of its own is handled as such.
-/
import DocComments.Session.Leaves

namespace DocComments.Walk

/-- A `DefineHeader` block: its subtitle is the title that gets a rule. -/
def define (w : Walk) (block : Block) : Walk × Verdict :=
  if block.subtitle = "" then (w, .rejected .missingSubtitle)
  else match w.registry.define block.subtitle block.options with
    | .error cause => (w, .rejected cause)
    | .ok registry => ({ w with registry }, .accepted)

/-- A configuration directive, allowed in the configuration source only. -/
def configure (w : Walk) (directive : Directive) (block : Block) : Walk × Verdict :=
  if block.origin.file ≠ w.mode.configSource then
    (w, .rejected (.configOnly w.mode.configSource))
  else match w.project.apply directive block.subtitle block.body with
    | .error cause => (w, .rejected cause)
    | .ok project => ({ w with project }, .accepted)

/-- An item block.  Underlined headings in its body are leaves of the item; one that is refused
    leaves the item in place. -/
def openItem (w : Walk) (block : Block) : Walk × Verdict :=
  let (w, container) := w.prepareItem block.origin
  match w.itemCause? block.subtitle with
  | some cause => (w, .rejected cause)
  | none =>
    let (own, inner) := splitAtHeadings block.origin 0 block.body
    let w := w.addItem container { block with body := own }
    (inner.foldl (fun w leaf => settle leaf (w.addLeaf leaf)) w, .accepted)

/-- A block outside strict mode, or under an open File. -/
def placeBlock (w : Walk) (block : Block) : Walk × Verdict :=
  match TitleRole.ofTitle block.title with
  | .sect => w.openSect block
  | .subsect => w.openSubsect block
  | .fileField field => w.describeFile field block
  | .item => if w.registry.contains block.title then w.addLeaf block else w.openItem block
  | _ => w.addLeaf block

/-- Any block. -/
def dispatch (w : Walk) (block : Block) : Walk × Verdict :=
  match TitleRole.ofTitle block.title with
  | .define => w.define block
  | .directive directive => w.configure directive block
  | .file => w.openFile block
  | _ =>
    if w.mode.strict && w.scope.file.isNone then (w, .rejected .fileRequired)
    else w.placeBlock block

end DocComments.Walk
