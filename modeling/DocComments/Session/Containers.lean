/-
  The blocks that open containers, and those that describe the file.

  A unit may leave its File block out: the first block that needs a file opens a PLACEHOLDER named
  after the unit.  In the same way the first item that has no section opens an anonymous one.
  Both are opened before the block that needs them is examined, and stay when it is refused.

  An item block is refused when it has no name, when its name is taken, or when the name holds text
  in parentheses.  However that ends, the item before it is closed.
-/
import DocComments.Session.Basic
import DocComments.BlockTitle

namespace DocComments.Walk

/-! ## Files -/

/-- The File that stands for a unit without one of its own. -/
def placeholder (origin : Origin) : Node where
  kind := .file {}
  title := "LibFile"
  subtitle := origin.file
  origin := origin

/-- The unit's File, opened now if it is not open yet. -/
def ensureFile (w : Walk) (origin : Origin) : Walk × Nat :=
  match w.scope.file with
  | some file => (w, file)
  | none =>
    ({ w with
        document := w.document.addRoot (placeholder origin)
        scope := { w.scope with
          file := some w.document.size
          parent := some w.document.size } }, w.document.size)

/-- A `File` or `LibFile` block. -/
def openFile (w : Walk) (block : Block) : Walk × Verdict :=
  match w.scope.file with
  | some _ => (w, .rejected .duplicateFile)
  | none =>
    ({ w with
        document := w.document.addRoot (block.node (.file {}))
        scope := { file := some w.document.size, parent := some w.document.size } }, .accepted)

/-! ## Sections -/

/-- A `Section` block. -/
def openSect (w : Walk) (block : Block) : Walk × Verdict :=
  let (w, file) := w.ensureFile block.origin
  ({ w with
      document := w.document.addChild file (block.node .sect)
      scope := { w.scope with
        sect := some w.document.size
        subsect := none
        item := none
        parent := some w.document.size } }, .accepted)

/-- A `Subsection` block. -/
def openSubsect (w : Walk) (block : Block) : Walk × Verdict :=
  match w.scope.sect with
  | none => (w, .rejected .sectionRequired)
  | some sect =>
    if block.subtitle = "" then (w, .rejected .missingSubtitle)
    else
      ({ w with
          document := w.document.addChild sect (block.node .subsect)
          scope := { w.scope with
            subsect := some w.document.size
            item := none
            parent := some w.document.size } }, .accepted)

/-- The unit's section, an anonymous one opened now if none is open yet.  The parent is left to
    the item that asks for the section. -/
def ensureSect (w : Walk) (origin : Origin) : Walk × Nat :=
  let (w, file) := w.ensureFile origin
  match w.scope.sect with
  | some sect => (w, sect)
  | none =>
    ({ w with
        document := w.document.addChild file { kind := .sect, title := "Section", origin }
        scope := { w.scope with sect := some w.document.size } }, w.document.size)

/-! ## Items -/

/-- The text holds an opening parenthesis, something that is not a closing one, and then a closing
    one. -/
def hasParenthesized : List Char → Bool
  | '(' :: c :: cs => (c != ')' && cs.contains ')') || hasParenthesized (c :: cs)
  | _ :: cs => hasParenthesized cs
  | [] => false

/-- Why an item block with this name is refused, if it is. -/
def itemCause? (w : Walk) (name : String) : Option Cause :=
  if name = "" then some .missingSubtitle
  else match w.index.lookup? name with
    | some owner => some (.redeclared name (w.originOf owner))
    | none => if hasParenthesized name.toList then some .parenthesizedText else none

/-- Open the containers that an item needs, and close the item before it; the number is that of
    the container that takes the item. -/
def prepareItem (w : Walk) (origin : Origin) : Walk × Nat :=
  let (w, sect) := w.ensureSect origin
  let container := w.scope.subsect.getD sect
  ({ w with scope := { w.scope with item := none, parent := some container } }, container)

/-- Add an item to a container, register its name and open it. -/
def addItem (w : Walk) (container : Nat) (block : Block) : Walk :=
  let id := w.document.size
  { w with
    document := w.document.addChild container (block.node (.item {}))
    index := match w.index.register block.subtitle id with
      | .ok index => index
      | .error _ => w.index
    scope := { w.scope with item := some id, parent := some id } }

/-! ## Properties of the file -/

/-- The parts of a footnote text that have no `=`. -/
def bareFootnotes (parts : List String) : List String :=
  parts.filter fun part => (Text.splitOnce '=' part).isNone

/-- The mark and the note of one footnote; without `=` the note is empty. -/
def footnoteOf (part : String) : String × String :=
  match Text.splitOnce '=' part with
  | some (mark, note) => (Text.strip mark, Text.strip note)
  | none => (part, "")

/-- The footnotes `mark=note;mark=note` as parts, trimmed, without the empty ones. -/
def footnoteParts (subtitle : String) : List String :=
  ((Text.splitAt ';' subtitle).map Text.strip).filter (· ≠ "")

/-- The warning about a footnote without a note. -/
def footnoteWarning (part title : String) : String :=
  "Footnote `" ++ part ++ "` has no note text, while declaring block: " ++ title

/-- Log a warning for each footnote without a note. -/
def warnFootnotes (w : Walk) (block : Block) : Walk :=
  let bare := bareFootnotes (footnoteParts block.subtitle)
  { w with
    log := bare.foldl (fun log part => log.warn block.origin (footnoteWarning part block.title))
      w.log }

/-- The file information with one property set, or added to. -/
def setField (field : FileField) (block : Block) (info : FileInfo) : FileInfo :=
  match field with
  | .includes => { info with includes := info.includes ++ block.body }
  | .commonCode => { info with commonCode := info.commonCode ++ block.body }
  | .summary => { info with summary := block.subtitle }
  | .group => { info with group := block.subtitle }
  | .footnotes => { info with footnotes := (footnoteParts block.subtitle).map footnoteOf }

/-- The property is given in the subtitle, not in the body. -/
def needsSubtitle : FileField → Bool
  | .includes | .commonCode => false
  | .summary | .group | .footnotes => true

/-- A block that describes the file. -/
def describeFile (w : Walk) (field : FileField) (block : Block) : Walk × Verdict :=
  if needsSubtitle field && block.subtitle = "" then (w, .rejected .missingSubtitle)
  else
    let w := if field = .footnotes then w.warnFootnotes block else w
    let (w, file) := w.ensureFile block.origin
    ({ w with document := w.document.mapFile file (setField field block) }, .accepted)

end DocComments.Walk
