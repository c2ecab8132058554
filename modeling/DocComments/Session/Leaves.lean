/-
  The blocks that are leaves of the tree.

  Images and word lists go to the open item, and are dropped where no item is open.  A registered
  block goes to the innermost open container if its rule allows that kind of parent, and is dropped
  otherwise; where nothing is open and the rule asks for nothing, a placeholder File takes it.

  Some blocks do more than add a node: see `Hook`.  A block that lists further names of its item is
  examined before anything is changed, so one name that is taken refuses all of them.
-/
import DocComments.Session.Containers

namespace DocComments.Walk

/-! ## Images and word lists -/

/-- One image under the open item. -/
def addImage (w : Walk) (kind : LeafKind) (block : Block) : Walk × Verdict :=
  match w.scope.item with
  | none => (w, .dropped)
  | some item =>
    ({ w with document := w.document.addChild item (block.node (.leaf kind)) }, .accepted)

/-- The images of a plural block: one node for each body line, at the line after the one before,
    the first of them with the block's subtitle. -/
def imageNodes (title : String) (kind : LeafKind) (block : Block) : List Node :=
  block.body.zipIdx.map fun (line, n) =>
    { kind := .leaf kind
      title
      subtitle := if n = 0 then block.subtitle else ""
      body := [line]
      origin := ⟨block.origin.file, block.origin.line + n + 1⟩
      options := block.options }

/-- One image for each body line, under the open item. -/
def addImages (w : Walk) (title : String) (kind : LeafKind) (block : Block) : Walk × Verdict :=
  match w.scope.item with
  | none => (w, .dropped)
  | some item =>
    ({ w with
        document := (imageNodes title kind block).foldl (·.addChild item ·) w.document }, .accepted)

/-- The kind of the node of a word list. -/
def WordList.kind : WordList → NodeKind
  | .topics => .topics
  | .seeAlso => .seeAlso

/-- The item information with more words on one of its lists. -/
def addWords (list : WordList) (words : List String) (info : ItemInfo) : ItemInfo :=
  match list with
  | .topics => { info with topics := info.topics ++ words }
  | .seeAlso => { info with seeAlso := info.seeAlso ++ words }

/-- The words of a block: the comma-separated entries of its subtitle and of its body lines. -/
def wordsOf (block : Block) : List String :=
  Text.entriesOf block.subtitle ++ block.body.flatMap Text.entriesOf

/-- A node for a word list under the open item, and the words on the item itself. -/
def addWordList (w : Walk) (list : WordList) (block : Block) : Walk × Verdict :=
  match w.scope.item with
  | none => (w, .dropped)
  | some item =>
    ({ w with
        document := (w.document.addChild item (block.node (WordList.kind list))).mapItem item
          (addWords list (wordsOf block)) }, .accepted)

/-! ## Registered blocks -/

/-- The node that takes a block under a rule; a placeholder File is opened where nothing is open
    and the rule asks for nothing. -/
def placeFor (w : Walk) (rule : Rule) (origin : Origin) : Walk × Option Nat :=
  match w.scope.parent, rule.parent with
  | some parent, none => (w, some parent)
  | some parent, some kind =>
    (w, if (w.document.node? parent).any (·.tag = kind) then some parent else none)
  | none, none =>
    let (w, file) := w.ensureFile origin
    (w, some file)
  | none, some _ => (w, none)

/-- The block in the shape that its kind asks for: a label has no body, and the subtitle of a text
    is the first line of its body. -/
def shaped (kind : LeafKind) (block : Block) : Except Cause Block :=
  match kind with
  | .label => if block.body = [] then .ok block else .error .bodyNotSupported
  | .text =>
    if block.subtitle = "" then .ok block
    else .ok { block with subtitle := "", body := block.subtitle :: block.body }
  | _ => .ok block

/-- The further names of a list that no item has; the error is the first that one has.  A name
    given twice counts once. -/
def freeNames (w : Walk) (names : List String) : Except Cause (List String) :=
  match names.find? w.index.contains with
  | some name => .error (.redeclared name (w.originOf ((w.index.lookup? name).getD 0)))
  | none => .ok names.eraseDups

/-- The further names that a block gives to its item. -/
def aliasesOf (w : Walk) (hook : Option Hook) (block : Block) : Except Cause (List String) :=
  match hook with
  | some .aliases => w.freeNames (Text.entriesOf block.subtitle)
  | _ => .ok []

/-- Give an item one more name. -/
def addAlias (item : Nat) (w : Walk) (name : String) : Walk :=
  match w.index.register name item with
  | .error _ => w
  | .ok index =>
    { w with
      index
      document := w.document.mapItem item fun info =>
        { info with aliases := info.aliases ++ [name] } }

/-- What a block does to the node it stands under. -/
def runHook (w : Walk) (hook : Option Hook) (parent : Nat) (block : Block) (aliases : List String) :
    Walk :=
  match hook with
  | none => w
  | some .status =>
    { w with
      document := w.document.mapItem parent fun info =>
        { info with deprecated := Text.contains block.subtitle "DEPRECATED" } }
  | some .aliases => aliases.foldl (addAlias parent) w

/-- A block whose title is registered. -/
def addRegistered (w : Walk) (rule : Rule) (block : Block) : Walk × Verdict :=
  match w.placeFor rule block.origin with
  | (w, none) => (w, .dropped)
  | (w, some parent) =>
    match shaped rule.kind block with
    | .error cause => (w, .rejected cause)
    | .ok block =>
      match w.aliasesOf rule.hook block with
      | .error cause => (w, .rejected cause)
      | .ok aliases =>
        let w := { w with document := w.document.addChild parent (block.node (.leaf rule.kind)) }
        (w.runHook rule.hook parent block aliases, .accepted)

/-! ## All leaves -/

/-- A block that adds content to what is open.  Images keep their meaning whatever is registered;
    a registered title comes before the word lists. -/
def addLeaf (w : Walk) (block : Block) : Walk × Verdict :=
  match LeafRole.ofTitle block.title with
  | .image kind => w.addImage kind block
  | .images title kind => w.addImages title kind block
  | role =>
    match w.registry.lookup? block.title with
    | some rule => w.addRegistered rule block
    | none =>
      match role with
      | .words list => w.addWordList list block
      | _ => (w, .rejected .unrecognized)

end DocComments.Walk
