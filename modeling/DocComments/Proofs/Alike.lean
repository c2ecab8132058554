/-
  Walks that differ in line numbers only.

  The same block at another line adds the same nodes, the same names and the same entries; only the
  lines that they name are others.  `Document.Alike` and `Walk.Alike` say so of documents and walks,
  and a leaf keeps it (`addLeaf_alike`).

  One message does quote a line: a name that is taken is told with the place of the item that has
  it.  So the items have to be alike in their places as well (`Document.Alike.items`), and the names
  have to lead to items, which they do in every session (`Inside`).
-/
import DocComments.Proofs.OpenItem
import DocComments.Proofs.Naming

namespace DocComments

/-! ## Without line numbers -/

/-- The place without its line. -/
def Origin.unplaced (origin : Origin) : Origin := { origin with line := 0 }

/-- The node without its line. -/
def Node.unplaced (node : Node) : Node := { node with origin := node.origin.unplaced }

/-- The block without its line. -/
def Block.unplaced (block : Block) : Block := { block with origin := block.origin.unplaced }

/-- The entry without its line. -/
def LogEntry.unplaced (entry : LogEntry) : LogEntry :=
  { entry with origin := entry.origin.unplaced }

/-- The block at another place. -/
def Block.moved (block : Block) (place : Origin) : Block := { block with origin := place }

@[simp] theorem Block.title_moved (block : Block) (place : Origin) :
    (block.moved place).title = block.title := rfl

@[simp] theorem Block.origin_moved (block : Block) (place : Origin) :
    (block.moved place).origin = place := rfl

/-- Blocks that differ in their lines only are one block at two places. -/
theorem Block.eq_moved_of_unplaced {block other : Block} (same : other.unplaced = block.unplaced) :
    other = block.moved other.origin ∧ other.origin.unplaced = block.origin.unplaced := by
  obtain ⟨title, options, subtitle, body, origin⟩ := block
  obtain ⟨title', options', subtitle', body', origin'⟩ := other
  simp only [unplaced, Block.mk.injEq] at same
  obtain ⟨rfl, rfl, rfl, rfl, place⟩ := same
  exact ⟨rfl, place⟩

namespace Document

/-- The documents have the same nodes but for their lines, and the same items in every respect. -/
structure Alike (doc other : Document) : Prop where
  size : other.size = doc.size
  roots : other.roots = doc.roots
  nodes : ∀ id, (other.node? id).map Node.unplaced = (doc.node? id).map Node.unplaced
  items : ∀ id, doc.tag? id = some .item → other.node? id = doc.node? id

namespace Alike

variable {doc other : Document}

theorem refl (doc : Document) : doc.Alike doc := ⟨rfl, rfl, fun _ => rfl, fun _ _ => rfl⟩

/-- Lines are no matter of the kind of a node. -/
theorem tagged (alike : doc.Alike other) (id : Nat) (tag : KindTag) :
    (other.node? id).any (·.tag = tag) = (doc.node? id).any (·.tag = tag) := by
  have forget : ∀ node? : Option Node,
      node?.any (·.tag = tag) = (node?.map Node.unplaced).any (·.tag = tag) := by
    intro node?
    cases node? <;> rfl
  rw [forget, alike.nodes, ← forget]

/-- The same leaf at two lines. -/
theorem addChild (alike : doc.Alike other) (parent : Nat) {node node' : Node}
    (same : node'.unplaced = node.unplaced) (plain : node.tag ≠ .item) :
    (doc.addChild parent node).Alike (other.addChild parent node') := by
  by_cases lt : parent < doc.size
  · have lt' : parent < other.size := by rwa [alike.size]
    refine ⟨?_, ?_, fun id => ?_, fun id isItem => ?_⟩
    · rw [size_addChild doc lt, size_addChild other lt', alike.size]
    · rw [roots_addChild, roots_addChild, alike.roots]
    · rw [node?_addChild doc lt, node?_addChild other lt', alike.size]
      have before := alike.nodes id
      split
      · show some (fresh node'.unplaced (some parent)) = some (fresh node.unplaced (some parent))
        rw [same]
      · -- the new child gets the same number on both sides
        have adopts : ∀ node? : Option Node,
            (node?.map fun old => if parent = id then adopt doc.size old else old).map Node.unplaced
              = (node?.map Node.unplaced).map fun old =>
                  if parent = id then adopt doc.size old else old := by
          intro node?
          cases node? with
          | none => rfl
          | some old =>
            simp only [Option.map_some]
            split <;> rfl
        rw [adopts, adopts, before]
    · rw [tag?_addChild doc lt] at isItem
      split at isItem
      · exact absurd (Option.some.inj isItem) plain
      · rename_i old
        rw [node?_addChild doc lt, node?_addChild other lt', alike.size, if_neg old, if_neg old,
          alike.items id isItem]
  · rw [Document.addChild, dif_neg lt, Document.addChild, dif_neg (by rwa [alike.size])]
    exact alike

/-- The same leaves at two lines each. -/
theorem foldl_addChild (alike : doc.Alike other) (parent : Nat) {nodes nodes' : List Node}
    (same : nodes'.map Node.unplaced = nodes.map Node.unplaced)
    (plain : ∀ node ∈ nodes, node.tag ≠ .item) :
    (nodes.foldl (·.addChild parent ·) doc).Alike (nodes'.foldl (·.addChild parent ·) other) := by
  induction nodes generalizing nodes' doc other with
  | nil =>
    obtain rfl := List.map_eq_nil_iff.mp same
    exact alike
  | cons first rest ih =>
    obtain ⟨first', rest', rfl, here, later⟩ := List.map_eq_cons_iff.mp same
    exact ih (alike.addChild parent here (plain first (List.mem_cons_self ..))) later
      fun node mem => plain node (List.mem_cons_of_mem _ mem)

/-- The same information. -/
theorem mapItem (alike : doc.Alike other) (item : Nat) (f : ItemInfo → ItemInfo) :
    (doc.mapItem item f).Alike (other.mapItem item f) := by
  have informs : ∀ (id : Nat) (node? : Option Node),
      (node?.map fun node => if item = id then { node with kind := node.kind.mapItem f }
          else node).map Node.unplaced
        = (node?.map Node.unplaced).map fun node =>
            if item = id then { node with kind := node.kind.mapItem f } else node := by
    intro id node?
    cases node? with
    | none => rfl
    | some node =>
      simp only [Option.map_some]
      split <;> rfl
  refine ⟨?_, alike.roots, fun id => ?_, fun id isItem => ?_⟩
  · rw [Document.mapItem, Document.mapItem, size_mapKind, size_mapKind, alike.size]
  · rw [Document.mapItem, Document.mapItem, node?_mapKind, node?_mapKind, informs, informs,
      alike.nodes]
  · rw [tag?_mapItem] at isItem
    rw [Document.mapItem, Document.mapItem, node?_mapKind, node?_mapKind, alike.items id isItem]

end Alike

end Document

/-! ## Walks -/

namespace Walk

/-- The walks differ in line numbers only. -/
structure Alike (w other : Walk) : Prop where
  mode : other.mode = w.mode
  project : other.project = w.project
  registry : other.registry = w.registry
  index : other.index = w.index
  scope : other.scope = w.scope
  document : w.document.Alike other.document
  entries : other.log.entries.map LogEntry.unplaced = w.log.entries.map LogEntry.unplaced

/-- An item is open, in a walk whose scope is sound and whose names are those of the items. -/
structure Inside (base : Nat) (w : Walk) : Prop where
  sound : w.Sound base
  hooks : w.registry.active.HooksBuiltIn
  named : Named w.document w.index
  opened : ∃ item, w.scope.item = some item

variable {base : Nat} {w other : Walk} {block : Block} {place : Origin}

theorem Alike.refl (w : Walk) : w.Alike w := ⟨rfl, rfl, rfl, rfl, rfl, .refl _, rfl⟩

theorem Alike.item (alike : w.Alike other) : other.scope.item = w.scope.item := by
  rw [alike.scope]

namespace Inside

/-- A name leads to an item. -/
theorem owner (inside : w.Inside base) {name : String} {id : Nat}
    (found : w.index.lookup? name = some id) : w.document.tag? id = some .item := by
  have carried := (inside.named.lookup_iff name id).mp found
  obtain ⟨node, info, there, isItem, -⟩ := Document.mem_namesOf.mp carried
  rw [Document.tag?, there, Option.map_some, Node.tag]
  unfold Node.itemInfo? at isItem
  split at isItem
  · rename_i kind
    rw [kind]
    rfl
  · simp at isItem

/-- A leaf leaves the item open. -/
theorem addLeaf (inside : w.Inside base) (block : Block) :
    (settle block (w.addLeaf block)).Inside base := by
  have leads : w.Leads (settle block (w.addLeaf block)) :=
    settle_moves (fun _ _ => trivial) (addLeaf_leads inside.sound block)
  have kept : w.KeepsItems (settle block (w.addLeaf block)) :=
    settle_keepsItems (addLeaf_keepsItems w block)
  exact ⟨leads.sound inside.sound, (Moves.rules leads).2 inside.hooks,
    leads.named inside.sound inside.hooks inside.named, kept.item ▸ inside.opened⟩

/-- Leaves stay inside the unit, one after the other. -/
theorem foldl_addLeaf (inside : w.Inside base) (leaves : List Block) :
    (leaves.foldl (fun w leaf => settle leaf (w.addLeaf leaf)) w).Inside base := by
  induction leaves generalizing w with
  | nil => exact inside
  | cons leaf rest ih => exact ih (inside.addLeaf leaf)

/-- An item that is found good is open then. -/
theorem startItem (sound : w.Sound base) (hooks : w.registry.active.HooksBuiltIn)
    (named : Named w.document w.index) (block : Block)
    (passed : (w.prepareItem block.origin).1.itemCause? block.subtitle = none) :
    (w.startItem block).Inside base := by
  have leads := startItem_leads sound block passed
  exact ⟨leads.sound sound, (Moves.rules leads).2 hooks, leads.named sound hooks named, _, rfl⟩

end Inside

/-! ## Leaves at two places -/

/-- Alike, and with the same verdict. -/
def SameButLines (h k : Walk × Verdict) : Prop := h.1.Alike k.1 ∧ k.2 = h.2

/-- What is logged is the same but for the line. -/
theorem settle_alike {h k : Walk × Verdict} (same : SameButLines h k)
    (placed : place.unplaced = block.origin.unplaced) :
    (settle block h).Alike (settle (block.moved place) k) := by
  obtain ⟨w, verdict⟩ := h
  obtain ⟨other, verdict'⟩ := k
  obtain ⟨alike, verdicts⟩ := same
  cases verdicts
  cases verdict with
  | accepted => exact alike
  | dropped => exact alike
  | rejected cause =>
    refine { alike with entries := ?_ }
    simp only [settle, fail, Log.entries_fail, List.map_append, List.map_cons, List.map_nil,
      alike.entries, LogEntry.unplaced, Block.title_moved, Block.origin_moved, placed]

theorem node_alike (kind : NodeKind) (placed : place.unplaced = block.origin.unplaced) :
    ((block.moved place).node kind).unplaced = (block.node kind).unplaced := by
  simp only [Block.node, Block.moved, Node.unplaced, placed]

/-- A new child of the item. -/
theorem Alike.addChild (alike : w.Alike other) (parent : Nat) {node node' : Node}
    (same : node'.unplaced = node.unplaced) (plain : node.tag ≠ .item) :
    Alike { w with document := w.document.addChild parent node }
      { other with document := other.document.addChild parent node' } :=
  { alike with document := alike.document.addChild parent same plain }

theorem Alike.mapItem (alike : w.Alike other) (item : Nat) (f : ItemInfo → ItemInfo) :
    Alike { w with document := w.document.mapItem item f }
      { other with document := other.document.mapItem item f } :=
  { alike with document := alike.document.mapItem item f }

/-- An image is the same but for its line. -/
theorem addImage_alike (alike : w.Alike other) (kind : LeafKind)
    (placed : place.unplaced = block.origin.unplaced) :
    SameButLines (w.addImage kind block) (other.addImage kind (block.moved place)) := by
  have plain : (block.node (.leaf kind)).tag ≠ .item := kind.tag_ne_item
  unfold addImage
  rw [alike.item]
  cases w.scope.item with
  | none => exact ⟨alike, rfl⟩
  | some item => exact ⟨alike.addChild item (node_alike _ placed) plain, rfl⟩

theorem addImages_alike (alike : w.Alike other) (title : String) (kind : LeafKind)
    (placed : place.unplaced = block.origin.unplaced) :
    SameButLines (w.addImages title kind block)
      (other.addImages title kind (block.moved place)) := by
  have file : place.unplaced.file = block.origin.unplaced.file := by rw [placed]
  have same : (imageNodes title kind (block.moved place)).map Node.unplaced
      = (imageNodes title kind block).map Node.unplaced := by
    simp only [imageNodes, List.map_map]
    refine List.map_congr_left fun entry _ => ?_
    simp only [Origin.unplaced] at file
    simp only [Function.comp_apply, Node.unplaced, Origin.unplaced, Block.moved, file]
  have plain : ∀ node ∈ imageNodes title kind block, node.tag ≠ .item := by
    intro node mem
    obtain ⟨line, -, rfl⟩ := List.mem_map.mp mem
    exact kind.tag_ne_item
  unfold addImages
  rw [alike.item]
  cases w.scope.item with
  | none => exact ⟨alike, rfl⟩
  | some item =>
    exact ⟨{ alike with document := alike.document.foldl_addChild item same plain }, rfl⟩

theorem addWordList_alike (alike : w.Alike other) (list : WordList)
    (placed : place.unplaced = block.origin.unplaced) :
    SameButLines (w.addWordList list block)
      (other.addWordList list (block.moved place)) := by
  have plain : (block.node (WordList.kind list)).tag ≠ .item := by cases list <;> nofun
  unfold addWordList
  rw [alike.item]
  cases w.scope.item with
  | none => exact ⟨alike, rfl⟩
  | some item => exact ⟨(alike.addChild item (node_alike _ placed) plain).mapItem item _, rfl⟩

/-! ## Registered blocks at two places -/

/-- While an item is open no placeholder is needed, and the item is examined for its kind. -/
theorem placeFor_alike (alike : w.Alike other) (inside : w.Inside base) (rule : Rule)
    (origin place : Origin) :
    ∃ taker, w.placeFor rule origin = (w, taker) ∧ other.placeFor rule place = (other, taker) := by
  obtain ⟨item, opened⟩ := inside.opened
  have parent := Scope.Sound.parent_of_item inside.sound opened
  have parent' : other.scope.parent = some item := by rw [alike.scope, parent]
  unfold placeFor
  rw [parent, parent']
  cases rule.parent with
  | none => exact ⟨some item, rfl, rfl⟩
  | some kind =>
    simp only [alike.document.tagged]
    exact ⟨_, rfl, rfl⟩

/-- Names that are taken are taken by the same items, at the same places. -/
theorem freeNames_alike (alike : w.Alike other) (inside : w.Inside base) (names : List String) :
    other.freeNames names = w.freeNames names := by
  unfold freeNames
  rw [alike.index]
  cases first : names.find? w.index.contains with
  | none => rfl
  | some name =>
    have taken := List.find?_some first
    obtain ⟨id, owner⟩ := Option.isSome_iff_exists.mp taken
    have place : other.originOf id = w.originOf id := by
      rw [originOf, originOf, alike.document.items id (inside.owner owner)]
    simp only [owner, Option.getD_some, place]

theorem addAlias_alike (alike : w.Alike other) (item : Nat) (name : String) :
    (addAlias item w name).Alike (addAlias item other name) := by
  unfold addAlias
  rw [alike.index]
  split
  · exact alike
  · exact { alike with index := rfl, document := alike.document.mapItem item _ }

theorem runHook_alike (alike : w.Alike other) (hook : Option Hook) (parent : Nat) (block : Block)
    (place : Origin) (names : List String) :
    (w.runHook hook parent block names).Alike
      (other.runHook hook parent (block.moved place) names) := by
  unfold runHook
  split
  · exact alike
  · exact alike.mapItem parent _
  · induction names generalizing w other with
    | nil => exact alike
    | cons name rest ih => exact ih (addAlias_alike alike parent name)

/-- The shape of a block is no matter of its place. -/
theorem shaped_place (kind : LeafKind) (block : Block) (place : Origin) :
    shaped kind (block.moved place)
      = (shaped kind block).map fun block => block.moved place := by
  cases kind with
  | label => by_cases bare : block.body = [] <;> simp [shaped, Block.moved, bare, Except.map]
  | text =>
    by_cases untitled : block.subtitle = "" <;> simp [shaped, Block.moved, untitled, Except.map]
  | _ => rfl

/-- **A block with a rule** does the same but for its line. -/
theorem addRegistered_alike (alike : w.Alike other) (inside : w.Inside base) (rule : Rule)
    (placed : place.unplaced = block.origin.unplaced) :
    SameButLines (w.addRegistered rule block)
      (other.addRegistered rule (block.moved place)) := by
  obtain ⟨taker, left, right⟩ := placeFor_alike alike inside rule block.origin place
  unfold addRegistered
  rw [Block.origin_moved, left, right, shaped_place]
  cases taker with
  | none => exact ⟨alike, rfl⟩
  | some parent =>
    cases shape : shaped rule.kind block with
    | error cause => exact ⟨alike, rfl⟩
    | ok after =>
      have placed : place.unplaced = after.origin.unplaced := by
        rcases shaped_eq_ok shape with rfl | rfl
        · exact placed
        · exact placed
      have aliases : other.aliasesOf rule.hook (after.moved place)
          = w.aliasesOf rule.hook after := by
        unfold aliasesOf
        split
        · exact freeNames_alike alike inside _
        · rfl
      simp only [Except.map, aliases]
      cases w.aliasesOf rule.hook after with
      | error cause => exact ⟨alike, rfl⟩
      | ok names =>
        have added := alike.addChild parent (node_alike (.leaf rule.kind) placed)
          rule.kind.tag_ne_item
        exact ⟨runHook_alike added rule.hook parent after place names, rfl⟩

/-- **A leaf at another line** adds the same but for the lines, and ends with the same verdict. -/
theorem addLeaf_alike (alike : w.Alike other) (inside : w.Inside base)
    (placed : place.unplaced = block.origin.unplaced) :
    SameButLines (w.addLeaf block) (other.addLeaf (block.moved place)) := by
  unfold addLeaf
  simp only [alike.registry, Block.title_moved]
  split
  · exact addImage_alike alike _ placed
  · exact addImages_alike alike _ _ placed
  · split
    · exact addRegistered_alike alike inside _ placed
    · split
      · exact addWordList_alike alike _ placed
      · exact ⟨alike, rfl⟩

/-- **Leaves at other lines,** one after the other. -/
theorem foldl_addLeaf_alike (alike : w.Alike other) (inside : w.Inside base)
    {leaves leaves' : List Block} (same : leaves'.map Block.unplaced = leaves.map Block.unplaced) :
    (leaves.foldl (fun w leaf => settle leaf (w.addLeaf leaf)) w).Alike
      (leaves'.foldl (fun w leaf => settle leaf (w.addLeaf leaf)) other) := by
  induction leaves generalizing leaves' w other with
  | nil =>
    obtain rfl := List.map_eq_nil_iff.mp same
    exact alike
  | cons leaf rest ih =>
    obtain ⟨leaf', rest', rfl, here, later⟩ := List.map_eq_cons_iff.mp same
    obtain ⟨moved, placed⟩ := Block.eq_moved_of_unplaced here
    have first := settle_alike (addLeaf_alike alike inside placed) placed
    rw [← moved] at first
    exact ih first (inside.addLeaf leaf) later

/-- Closing the item. -/
theorem Alike.closeItem (alike : w.Alike other) (sound : w.Sound base) :
    w.closeItem.Alike other.closeItem := by
  unfold Walk.closeItem
  rw [alike.scope]
  cases opened : w.scope.item with
  | none => exact alike
  | some item =>
    have isItem := (Scope.Sound.item sound item opened).1.2
    refine { alike with scope := ?_ }
    simp only [Document.parent?, alike.document.items item isItem]

end Walk

end DocComments
