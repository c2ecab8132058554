/-
  All that reading a unit can do to a walk, in one list.

  A `Move` is one indivisible change: an entry in the log, a closed item, a definition, a node under
  an open container with what it brings to the index and to the information of its item.  Every
  handler is a sequence of moves (`Proofs.Handlers`), so what each move preserves holds along every
  walk, and no later proof has to look into a handler again.

  A move is told for the places `here`, which the nodes and entries of the unit carry, and for the
  names `mine`, which the unit may register.

    * `foldl_addAlias`   a list of free names goes into the index and onto its item in one go;
    * `Move.sound`       every move keeps the scope sound.
-/
import Mathlib.Logic.Relation
import DocComments.Proofs.Scope
import DocComments.Session.Leaves

namespace DocComments

/-! ## Many names at once -/

/-- The index with more names, all of one item. -/
def NameIndex.enroll (index : NameIndex) (names : List String) (id : Nat) : NameIndex where
  owners := (names.map (·, id)).reverse ++ index.owners
  names := index.names ++ names

/-- Names that are entered lead to the node, and the others where they led. -/
theorem NameIndex.lookup?_enroll (index : NameIndex) (names : List String) (id : Nat)
    (name : String) :
    (index.enroll names id).lookup? name
      = if name ∈ names then some id else index.lookup? name := by
  have owned : List.lookup name (names.map (·, id)).reverse
      = if name ∈ names then some id else none := by
    induction names with
    | nil => rfl
    | cons first rest ih =>
      rw [List.map_cons, List.reverse_cons, List.lookup_append, ih]
      by_cases same : name = first
      · subst same
        by_cases mem : name ∈ rest <;> simp [mem]
      · have : (name == first) = false := by simpa using same
        simp [List.lookup_cons, this, same]
  rw [lookup?, enroll, List.lookup_append, owned]
  split <;> rfl

/-- Two changes of an item are one. -/
theorem Document.mapItem_mapItem (doc : Document) (id : Nat) (f g : ItemInfo → ItemInfo) :
    (doc.mapItem id f).mapItem id g = doc.mapItem id (g ∘ f) := by
  have kinds : ∀ kind : NodeKind, (kind.mapItem f).mapItem g = kind.mapItem (g ∘ f) := by
    intro kind
    cases kind <;> rfl
  ext1
  · simp only [Document.mapItem, Document.mapKind, List.modify_modify_eq]
    congr 1
    funext node
    simp only [Function.comp_apply, kinds]
  · rfl

theorem Document.mapItem_id (doc : Document) (id : Nat) {f : ItemInfo → ItemInfo}
    (h : ∀ info, f info = info) : doc.mapItem id f = doc := by
  have same : ∀ node : Node, { node with kind := node.kind.mapItem f } = node := by
    intro node
    cases node with
    | mk kind => cases kind <;> simp [NodeKind.mapItem, h]
  ext1
  · simp only [Document.mapItem, Document.mapKind, same]
    exact List.modify_id id doc.nodes
  · rfl

namespace Walk

/-- The item information with further names. -/
def addAliases (names : List String) (info : ItemInfo) : ItemInfo :=
  { info with aliases := info.aliases ++ names }

/-- **Free names, each given once,** all become names of the item. -/
theorem foldl_addAlias (item : Nat) (names : List String) (w : Walk)
    (free : ∀ name ∈ names, w.index.lookup? name = none) (nodup : names.Nodup) :
    names.foldl (addAlias item) w
      = { w with
          index := w.index.enroll names item
          document := w.document.mapItem item (addAliases names) } := by
  induction names generalizing w with
  | nil =>
    have index : w.index.enroll [] item = w.index := by simp [NameIndex.enroll]
    have document : w.document.mapItem item (addAliases []) = w.document :=
      Document.mapItem_id _ _ fun info => by simp [addAliases]
    rw [List.foldl_nil, index, document]
  | cons name rest ih =>
    obtain ⟨fresh, nodup⟩ := List.nodup_cons.mp nodup
    have first : addAlias item w name
        = { w with
            index := w.index.enroll [name] item
            document := w.document.mapItem item (addAliases [name]) } := by
      simp only [addAlias, NameIndex.register, free name (List.mem_cons_self ..)]
      rfl
    -- the names that are left do not hold the one that has just been taken
    have still : ∀ other ∈ rest, (w.index.enroll [name] item).lookup? other = none := by
      intro other mem
      have ne : other ≠ name := fun same => fresh (same ▸ mem)
      rw [NameIndex.lookup?_enroll, if_neg (by simpa using ne)]
      exact free other (List.mem_cons_of_mem _ mem)
    rw [List.foldl_cons, first, ih _ still nodup]
    have index : (w.index.enroll [name] item).enroll rest item
        = w.index.enroll (name :: rest) item := by
      simp [NameIndex.enroll]
    have document : (w.document.mapItem item (addAliases [name])).mapItem item (addAliases rest)
        = w.document.mapItem item (addAliases (name :: rest)) := by
      rw [Document.mapItem_mapItem]
      congr 1
      funext info
      simp [addAliases]
    simp only [index, document]

/-- An item under a free name. -/
theorem addItem_eq {w : Walk} {container : Nat} {block : Block}
    (free : w.index.lookup? block.subtitle = none) :
    w.addItem container block
      = { w with
          document := w.document.addChild container (block.node (.item {}))
          index := w.index.enroll [block.subtitle] w.document.size
          scope := { w.scope with
            item := some w.document.size
            parent := some w.document.size } } := by
  simp only [addItem, NameIndex.register, free]
  rfl

/-! ## The moves -/

/-- The item information after a block that tells the status. -/
def setDeprecated (deprecated : Bool) (info : ItemInfo) : ItemInfo := { info with deprecated }

/-- The rule of a registered block allows the parent. -/
def Admits (rule : Rule) (w : Walk) (parent : Nat) : Prop :=
  ∀ kind, rule.parent = some kind → w.document.tag? parent = some kind

/-- One change of a walk: `here` are the places it may name, `mine` the names it may register. -/
inductive Move (here : Origin → Prop) (mine : String → Prop) (w : Walk) : Walk → Prop
  /-- A problem is recorded. -/
  | note (entry : LogEntry) (place : here entry.origin) :
    Move here mine w { w with log := w.log.add entry }
  /-- The open item, if any, is closed. -/
  | close : Move here mine w w.closeItem
  /-- A title gets a rule; defined rules have no hook. -/
  | define (title : String) (rule : Rule) (plain : rule.hook = none) :
    Move here mine w { w with registry := w.registry.insert title rule }
  | configure (project : Project) : Move here mine w { w with project }
  /-- The unit's File, declared or implied. -/
  | file (node : Node) (shut : w.scope.file = none) (place : here node.origin)
      (kind : node.kind = .file {}) :
    Move here mine w { w with
      document := w.document.addRoot node
      scope := { file := some w.document.size, parent := some w.document.size } }
  | describe (file : Nat) (f : FileInfo → FileInfo) (opened : w.scope.file = some file) :
    Move here mine w { w with document := w.document.mapFile file f }
  /-- A section, declared or implied. -/
  | sect (file : Nat) (node : Node) (opened : w.scope.file = some file) (place : here node.origin)
      (kind : node.kind = .sect) :
    Move here mine w { w with
      document := w.document.addChild file node
      scope := { w.scope with
        sect := some w.document.size, subsect := none, item := none
        parent := some w.document.size } }
  | subsect (sect : Nat) (node : Node) (opened : w.scope.sect = some sect)
      (place : here node.origin) (kind : node.kind = .subsect) (named : node.subtitle ≠ "") :
    Move here mine w { w with
      document := w.document.addChild sect node
      scope := { w.scope with
        subsect := some w.document.size, item := none
        parent := some w.document.size } }
  /-- An item under the innermost section or subsection, under a name that was free. -/
  | item (container : Nat) (block : Block)
      (opened : w.scope.subsect.or w.scope.sect = some container)
      (place : here block.origin) (name : mine block.subtitle) (named : block.subtitle ≠ "")
      (free : w.index.lookup? block.subtitle = none) :
    Move here mine w (w.addItem container block)
  /-- An image under the open item. -/
  | image (item : Nat) (kind : LeafKind) (node : Node) (opened : w.scope.item = some item)
      (place : here node.origin) (leaf : node.kind = .leaf kind)
      (titled : node.title = "Example" ∨ node.title = "Figure") :
    Move here mine w { w with document := w.document.addChild item node }
  /-- A word list under the open item, which gets its words. -/
  | words (item : Nat) (list : WordList) (block : Block) (opened : w.scope.item = some item)
      (place : here block.origin) (role : LeafRole.ofTitle block.title = .words list) :
    Move here mine w { w with
      document := (w.document.addChild item (block.node (WordList.kind list))).mapItem item
        (addWords list (wordsOf block)) }
  /-- A registered block under the parent that its rule allows. -/
  | leaf (parent : Nat) (rule : Rule) (block : Block) (opened : w.scope.parent = some parent)
      (found : w.registry.lookup? block.title = some rule) (admits : Admits rule w parent)
      (hook : rule.hook = none) (place : here block.origin) :
    Move here mine w { w with
      document := w.document.addChild parent (block.node (.leaf rule.kind)) }
  | status (parent : Nat) (rule : Rule) (block : Block) (opened : w.scope.parent = some parent)
      (found : w.registry.lookup? block.title = some rule) (admits : Admits rule w parent)
      (hook : rule.hook = some .status) (place : here block.origin) :
    Move here mine w { w with
      document := (w.document.addChild parent (block.node (.leaf rule.kind))).mapItem parent
        (setDeprecated (Text.contains block.subtitle "DEPRECATED")) }
  /-- The same with further names for the parent, which were free. -/
  | aliases (parent : Nat) (rule : Rule) (block : Block) (names : List String)
      (opened : w.scope.parent = some parent)
      (found : w.registry.lookup? block.title = some rule) (admits : Admits rule w parent)
      (hook : rule.hook = some .aliases) (place : here block.origin)
      (given : names = (Text.entriesOf block.subtitle).eraseDups)
      (owned : ∀ name ∈ names, mine name)
      (free : ∀ name ∈ names, w.index.lookup? name = none) :
    Move here mine w { w with
      document := (w.document.addChild parent (block.node (.leaf rule.kind))).mapItem parent
        (addAliases names)
      index := w.index.enroll names parent }

/-- Any number of moves. -/
abbrev Moves (here : Origin → Prop) (mine : String → Prop) : Walk → Walk → Prop :=
  Relation.ReflTransGen (Move here mine)

variable {here : Origin → Prop} {mine : String → Prop} {base : Nat} {w after : Walk}

/-- **Every move keeps the scope sound.**  Only the moves that open or close a container touch the
    scope; the others grow the document under it. -/
theorem Move.sound (move : Move here mine w after) (sound : w.Sound base) : after.Sound base := by
  have childOf : ∀ {parent : Nat} (node : Node), w.scope.parent = some parent →
      w.document.Grows (w.document.addChild parent node) :=
    fun node opened => w.document.grows_addChild (Scope.Sound.parent_lt sound opened) node
  cases move with
  | note entry place => exact sound
  | close => exact Sound.closeItem sound
  | define title rule plain => exact sound
  | configure project => exact sound
  | file node shut place kind =>
    exact Scope.Sound.openFile (Scope.Sound.base_le sound) (by rw [Node.tag, kind]; rfl)
  | describe file f opened => exact Scope.Sound.grow sound (w.document.grows_mapFile file f)
  | sect file node opened place kind =>
    exact Scope.Sound.openSect sound opened (by rw [Node.tag, kind]; rfl)
  | subsect sect node opened place kind named =>
    exact Scope.Sound.openSubsect sound opened (by rw [Node.tag, kind]; rfl)
  | item container block opened place name named free =>
    exact Scope.Sound.openItem sound opened rfl
  | image item kind node opened place leaf =>
    exact Scope.Sound.grow sound (childOf node (Scope.Sound.parent_of_item sound opened))
  | words item list block opened place =>
    exact Scope.Sound.grow sound
      ((childOf _ (Scope.Sound.parent_of_item sound opened)).trans (Document.grows_mapItem ..))
  | leaf parent rule block opened found admits hook place =>
    exact Scope.Sound.grow sound (childOf _ opened)
  | status parent rule block opened found admits hook place =>
    exact Scope.Sound.grow sound ((childOf _ opened).trans (Document.grows_mapItem ..))
  | aliases parent rule block names opened found admits hook place given owned free =>
    exact Scope.Sound.grow sound ((childOf _ opened).trans (Document.grows_mapItem ..))

/-- **Moves keep the scope sound.** -/
theorem Moves.sound (moves : Moves here mine w after) (sound : w.Sound base) :
    after.Sound base := by
  induction moves with
  | refl => exact sound
  | tail _ move ih => exact move.sound ih

/-- Every move grows the document. -/
theorem Move.grows (move : Move here mine w after) (sound : w.Sound base) :
    w.document.Grows after.document := by
  have childOf : ∀ {parent : Nat} (node : Node), parent < w.document.size →
      w.document.Grows (w.document.addChild parent node) :=
    fun node lt => w.document.grows_addChild lt node
  cases move with
  | note entry place => exact .refl _
  | close =>
    rw [closeItem_toSession]
    exact .refl _
  | define title rule plain => exact .refl _
  | configure project => exact .refl _
  | file node shut place kind => exact w.document.grows_addRoot node
  | describe file f opened => exact w.document.grows_mapFile file f
  | sect file node opened place kind => exact childOf node (Scope.Sound.file_lt sound opened)
  | subsect sect node opened place kind named =>
    exact childOf node (Scope.Sound.sect_lt sound opened)
  | item container block opened place name named free =>
    exact childOf _ (Scope.Sound.container_lt sound opened)
  | image item kind node opened place leaf =>
    exact childOf node (Scope.Sound.item_lt sound opened)
  | words item list block opened place =>
    exact (childOf _ (Scope.Sound.item_lt sound opened)).trans (Document.grows_mapItem ..)
  | leaf parent rule block opened found admits hook place =>
    exact childOf _ (Scope.Sound.parent_lt sound opened)
  | status parent rule block opened found admits hook place =>
    exact (childOf _ (Scope.Sound.parent_lt sound opened)).trans (Document.grows_mapItem ..)
  | aliases parent rule block names opened found admits hook place given owned free =>
    exact (childOf _ (Scope.Sound.parent_lt sound opened)).trans (Document.grows_mapItem ..)

/-- **Moves grow the document.** -/
theorem Moves.grows (moves : Moves here mine w after) (sound : w.Sound base) :
    w.document.Grows after.document := by
  induction moves with
  | refl => exact .refl _
  | tail before move ih => exact ih.trans (move.grows (Moves.sound before sound))

/-! ## What no move touches -/

/-- No move changes the mode. -/
theorem Move.mode (move : Move here mine w after) : after.mode = w.mode := by
  cases move with
  | close => rw [closeItem_toSession]
  | _ => rfl

theorem Moves.mode (moves : Moves here mine w after) : after.mode = w.mode := by
  induction moves with
  | refl => rfl
  | tail _ move ih => exact move.mode.trans ih

/-- No entry is taken out of the log, and none is put in front of another. -/
theorem Move.entries (move : Move here mine w after) :
    w.log.entries <+: after.log.entries := by
  cases move with
  | note entry place => exact List.prefix_append ..
  | close => exact ⟨[], by rw [closeItem_toSession, List.append_nil]⟩
  | _ => exact List.prefix_refl _

/-- **Moves only add to the log.** -/
theorem Moves.entries (moves : Moves here mine w after) :
    w.log.entries <+: after.log.entries := by
  induction moves with
  | refl => exact List.prefix_refl _
  | tail _ move ih => exact ih.trans move.entries

end Walk

end DocComments
