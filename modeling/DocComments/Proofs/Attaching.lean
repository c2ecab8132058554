/-
  Where a leaf goes while an item is open.

  The open item takes every image, every list of words and every registered block whose rule asks
  for no other parent (`itemTakes`).  Such a leaf is accounted for (`addLeaf_accounts`): its nodes
  are the last children of the item afterwards, or the log tells why there are none.

  There is one exception.  A plural block of images makes one image of each of its lines; where it
  has none it is accepted, and leaves neither a node nor an entry (`Block.Imageless`).
-/
import DocComments.Proofs.Links
import DocComments.Proofs.Refusal

namespace DocComments

/-! ## New last children -/

namespace Document

/-- The nodes have been added as the last children of the parent, in this order. -/
structure Adopts (doc after : Document) (parent : Nat) (nodes : List Node) : Prop where
  size : after.size = doc.size + nodes.length
  children : after.children parent
    = doc.children parent ++ List.range' doc.size nodes.length
  nodes : ∀ k node, nodes[k]? = some node →
    after.node? (doc.size + k) = some (fresh node (some parent))

namespace Adopts

variable {doc after : Document} {parent : Nat} {nodes : List Node}

theorem nil (doc : Document) (parent : Nat) : doc.Adopts doc parent [] :=
  ⟨rfl, by simp, nofun⟩

/-- One more last child. -/
theorem addChild (adopts : doc.Adopts after parent nodes) (lt : parent < doc.size) (last : Node) :
    doc.Adopts (after.addChild parent last) parent (nodes ++ [last]) := by
  have inside : parent < after.size := by
    have := adopts.size
    omega
  refine ⟨?_, ?_, fun k node found => ?_⟩
  · rw [size_addChild after inside, adopts.size, List.length_append, List.length_singleton]
    omega
  · rw [children_addChild after inside, adopts.children, adopts.size, List.length_append,
      List.length_singleton, List.range'_1_concat, List.append_assoc]
  · rw [node?_addChild after inside, adopts.size]
    rw [List.getElem?_append] at found
    split at found
    · have old : doc.size + k ≠ doc.size + nodes.length := by omega
      have other : parent ≠ doc.size + k := by omega
      rw [if_neg old, adopts.nodes k node found, Option.map_some, if_neg other]
    · -- the last of the nodes is the new one
      obtain ⟨place, rfl⟩ : k - nodes.length = 0 ∧ last = node := by
        cases rest : k - nodes.length <;> simp_all
      rw [if_pos (by omega)]

theorem foldl_addChild (adopts : doc.Adopts after parent nodes) (lt : parent < doc.size)
    (more : List Node) :
    doc.Adopts (more.foldl (·.addChild parent ·) after) parent (nodes ++ more) := by
  induction more generalizing after nodes with
  | nil => simpa using adopts
  | cons first rest ih => simpa using ih (adopts.addChild lt first)

/-- Information about the parent is no matter of its children. -/
theorem mapItem (adopts : doc.Adopts after parent nodes) (lt : parent < doc.size)
    (f : ItemInfo → ItemInfo) : doc.Adopts (after.mapItem parent f) parent nodes where
  size := by rw [Document.mapItem, size_mapKind, adopts.size]
  children := by rw [Document.mapItem, children_mapKind, adopts.children]
  nodes k node found := by
    have other : parent ≠ doc.size + k := by omega
    rw [Document.mapItem, node?_mapKind, adopts.nodes k node found]
    simp [other]

end Adopts

end Document

/-- The nodes that a leaf becomes: an image for each line of a plural block, and one node that
    carries title, options and place of any other. -/
def Block.Becomes (block : Block) (nodes : List Node) : Prop :=
  match LeafRole.ofTitle block.title with
  | .images title kind => nodes = Walk.imageNodes title kind block
  | _ => ∃ node : Node, nodes = [node] ∧ node.title = block.title
      ∧ node.options = block.options ∧ node.origin = block.origin

theorem Block.becomes_single {block : Block} {node : Node}
    (single : ∀ title kind, LeafRole.ofTitle block.title ≠ .images title kind)
    (title : node.title = block.title) (options : node.options = block.options)
    (origin : node.origin = block.origin) : block.Becomes [node] := by
  unfold Becomes
  split
  · rename_i title kind plural
    exact absurd plural (single title kind)
  · exact ⟨node, rfl, title, options, origin⟩

/-- The block is a plural one of images and has no lines to make images of. -/
structure Block.Imageless (block : Block) : Prop where
  plural : ∃ title kind, LeafRole.ofTitle block.title = .images title kind
  empty : block.body = []

/-- **Only a plural block of images without lines** becomes no node. -/
theorem Block.Becomes.eq_nil_iff {block : Block} {nodes : List Node}
    (becomes : block.Becomes nodes) : nodes = [] ↔ block.Imageless := by
  unfold Becomes at becomes
  split at becomes
  · rename_i title kind plural
    have lines : nodes = [] ↔ block.body = [] := by simp [becomes, Walk.imageNodes]
    exact lines.trans ⟨fun empty => ⟨⟨title, kind, plural⟩, empty⟩, fun none => none.empty⟩
  · rename_i other
    obtain ⟨node, rfl, -⟩ := becomes
    refine ⟨nofun, fun none => ?_⟩
    obtain ⟨title, kind, plural⟩ := none.plural
    exact absurd plural (other title kind)

namespace Walk

variable {base : Nat} {w after : Walk} {block : Block} {item : Nat}

/-- The open item takes a leaf with this title: images keep their meaning whatever is registered,
    and a rule may ask for a parent of another kind. -/
def itemTakes (w : Walk) (title : String) : Bool :=
  match LeafRole.ofTitle title with
  | .image _ | .images _ _ => true
  | _ => (w.registry.lookup? title).all fun rule => rule.parent = none || rule.parent = some .item

/-- What may become of a block that the open item takes. -/
inductive Accounts (w after : Walk) (item : Nat) (block : Block) : Prop
  /-- The log tells of a refusal at its place, and nothing else is disturbed. -/
  | refused (cause : Cause) (refused : w.Refused after block.title block.origin cause)
  /-- Its nodes, at least one, have become the last children of the item. -/
  | adopted (nodes : List Node) (some : nodes ≠ []) (becomes : block.Becomes nodes)
    (adopts : w.document.Adopts after.document item nodes)
  /-- There is nothing to become a node: nothing is added, and nothing is told. -/
  | imageless (imageless : block.Imageless) (same : after = w)

theorem runHook_adopts {doc : Document} {nodes : List Node} {parent : Nat}
    (adopts : doc.Adopts w.document parent nodes) (lt : parent < doc.size) (hook : Option Hook)
    (aliases : List String) :
    doc.Adopts (w.runHook hook parent block aliases).document parent nodes := by
  unfold runHook
  split
  · exact adopts
  · exact adopts.mapItem lt _
  · induction aliases generalizing w with
    | nil => exact adopts
    | cons name rest ih =>
      refine ih ?_
      unfold addAlias
      split
      · exact adopts
      · exact adopts.mapItem lt _

/-- The open item is the place of every registered block whose rule asks for no other. -/
theorem placeFor_of_item (sound : w.Sound base) (opened : w.scope.item = some item) {rule : Rule}
    (takes : rule.parent = none ∨ rule.parent = some .item) (origin : Origin) :
    w.placeFor rule origin = (w, some item) := by
  have parent := Scope.Sound.parent_of_item sound opened
  have held := (Scope.Sound.item sound item opened).1.2
  obtain ⟨node, found, tag⟩ := Option.map_eq_some_iff.mp held
  unfold placeFor
  rcases takes with free | asks
  · simp [parent, free]
  · simp [parent, asks, found, tag]

theorem addRegistered_adopts (sound : w.Sound base) (opened : w.scope.item = some item)
    {rule : Rule} (single : ∀ title kind, LeafRole.ofTitle block.title ≠ .images title kind)
    (takes : rule.parent = none ∨ rule.parent = some .item) :
    (∃ cause, (w.addRegistered rule block).2 = .rejected cause)
      ∨ ∃ nodes, block.Becomes nodes
          ∧ w.document.Adopts (w.addRegistered rule block).1.document item nodes := by
  have lt := Scope.Sound.item_lt sound opened
  simp only [addRegistered, placeFor_of_item sound opened takes]
  split
  · exact .inl ⟨_, rfl⟩
  · rename_i shapedBlock shape
    split
    · exact .inl ⟨_, rfl⟩
    · rename_i aliases examined
      refine .inr ⟨[shapedBlock.node (.leaf rule.kind)], ?_, ?_⟩
      · rcases shaped_eq_ok shape with rfl | rfl
        · exact Block.becomes_single single rfl rfl rfl
        · exact Block.becomes_single single rfl rfl rfl
      · exact runHook_adopts ((Document.Adopts.nil _ _).addChild lt _) lt _ _

/-- A leaf that the open item takes is refused, or its nodes are the item's last children. -/
theorem addLeaf_adopts (sound : w.Sound base) (opened : w.scope.item = some item)
    (takes : w.itemTakes block.title) :
    (∃ cause, (w.addLeaf block).2 = .rejected cause)
      ∨ ∃ nodes, block.Becomes nodes
          ∧ w.document.Adopts (w.addLeaf block).1.document item nodes := by
  have lt := Scope.Sound.item_lt sound opened
  have one : ∀ node, w.document.Adopts (w.document.addChild item node) item [node] :=
    fun node => (Document.Adopts.nil _ _).addChild lt node
  unfold itemTakes at takes
  cases role : LeafRole.ofTitle block.title with
  | image kind =>
    simp only [addLeaf, addImage, role, opened]
    exact .inr ⟨_, Block.becomes_single (by simp [role]) rfl rfl rfl, one _⟩
  | images title kind =>
    simp only [addLeaf, addImages, role, opened]
    refine .inr ⟨_, ?_, Document.Adopts.foldl_addChild (.nil _ _) lt _⟩
    simp only [Block.Becomes, role, List.nil_append]
  | words list =>
    simp only [addLeaf, role] at takes ⊢
    split
    · rename_i rule found
      exact addRegistered_adopts sound opened (by simp [role]) (by simpa [found] using takes)
    · simp only [addWordList, opened]
      exact .inr ⟨_, Block.becomes_single (by simp [role]) rfl rfl rfl, (one _).mapItem lt _⟩
  | plain =>
    simp only [addLeaf, role] at takes ⊢
    split
    · rename_i rule found
      exact addRegistered_adopts sound opened (by simp [role]) (by simpa [found] using takes)
    · exact .inl ⟨_, rfl⟩

/-- A plural block of images without lines is accepted, and leaves nothing. -/
theorem addLeaf_imageless (opened : w.scope.item = some item) (imageless : block.Imageless) :
    w.addLeaf block = (w, .accepted) := by
  obtain ⟨title, kind, plural⟩ := imageless.plural
  simp [addLeaf, plural, addImages, opened, imageNodes, imageless.empty]

/-- **A leaf that the open item takes** is accounted for. -/
theorem addLeaf_accounts (sound : w.Sound base) (opened : w.scope.item = some item)
    (takes : w.itemTakes block.title) : w.Accounts (settle block (w.addLeaf block)) item block := by
  rcases handled : w.addLeaf block with ⟨after, verdict⟩
  have adopts := addLeaf_adopts sound opened takes
  rw [handled] at adopts
  -- a leaf that is not refused becomes its nodes, or else is one that becomes none
  have accounted : ∀ nodes, block.Becomes nodes → w.document.Adopts after.document item nodes →
      w.Accounts after item block := by
    intro nodes becomes adopts
    by_cases none : nodes = []
    · have imageless := becomes.eq_nil_iff.mp none
      rw [addLeaf_imageless opened imageless] at handled
      exact .imageless imageless (Prod.mk.inj handled).1.symm
    · exact .adopted nodes none becomes adopts
  cases verdict with
  | rejected cause =>
    rw [addLeaf_rejected_eq handled]
    exact .refused cause (refused_fail (readyForLeaf_undisturbed w _ _) _ _ _)
  | accepted =>
    obtain ⟨nodes, becomes, adopts⟩ := adopts.resolve_left nofun
    exact accounted nodes becomes adopts
  | dropped =>
    obtain ⟨nodes, becomes, adopts⟩ := adopts.resolve_left nofun
    exact accounted nodes becomes adopts

end Walk

/-! ## At every header -/

namespace Visit

variable {v : Visit}

/-- The block of the header; an under-indented body is not read. -/
def block (v : Visit) : Block :=
  match Body.ofLines v.rest with
  | .error _ => v.header.block [] v.origin
  | .ok body => v.header.block body v.origin

/-- **A leaf that the open item takes** is accounted for, whatever its body. -/
theorem settled_accounts {base id : Nat} (sound : v.walk.Sound base)
    (opened : v.walk.scope.item = some id) (leaf : v.walk.takesLeaf v.header.title)
    (takes : v.walk.itemTakes v.header.title) : v.walk.Accounts v.settled id v.block := by
  cases extracted : Body.ofLines v.rest with
  | error n =>
    rw [settled, handled, block, extracted]
    exact .refused .underIndented (Walk.refused_fail ⟨.refl _, rfl⟩ _ _ _)
  | ok body =>
    rw [Walk.settled_ok extracted, block, extracted, Walk.dispatch_of_takesLeaf leaf]
    exact Walk.addLeaf_accounts sound opened takes

end Visit

end DocComments
