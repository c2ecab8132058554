/-
  The grammar of the tree.

  Each handler decides by itself where its node goes: files stand alone, sections go to the file,
  subsections to the section, items to the subsection or section, images and word lists to the open
  item, and every other leaf to whatever is the parent at the time.  What comes out is always the
  same small grammar (`KindTag.takes`), and both records of every link agree (`Document.Nested`).

  Where the parent is taken from the scope, the scope tells its kind (`Scope.Sound.parent_kind`);
  so a move needs no more than a sound scope to keep the grammar (`Move.nested`), whatever rules are
  in force and whether its block is accepted in the end.

    * `Nested.addRoot`, `Nested.addChild`, `Nested.mapKind`  the three ways to change a document;
    * `nesting_grammar`  what holds of every session that can be reached.
-/
import DocComments.Proofs.Appending
import DocComments.Proofs.Attaching
import DocComments.Proofs.Links

namespace DocComments

/-! ## The grammar -/

/-- The kinds of leaves that any container takes. -/
def KindTag.isPlainLeaf : KindTag → Bool
  | .text | .label | .list | .table | .sample | .figure | .generic => true
  | .file | .sect | .subsect | .item | .topics | .seeAlso => false

/-- The kinds of all leaves.  The word lists are those that only an item takes. -/
def KindTag.isLeaf (tag : KindTag) : Bool := tag.isPlainLeaf || tag = .topics || tag = .seeAlso

/-- What may stand directly under a node, by the kinds of both. -/
def KindTag.takes : KindTag → KindTag → Bool
  | .file, child => child = .sect || child.isPlainLeaf
  | .sect, child => child = .subsect || child = .item || child.isPlainLeaf
  | .subsect, child => child = .item || child.isPlainLeaf
  | .item, child => child.isLeaf
  | _, _ => false

namespace KindTag

theorem isPlainLeaf_tag (kind : LeafKind) : kind.tag.isPlainLeaf := by
  cases kind <;> rfl

/-- A leaf that a rule makes may stand under everything that can be open. -/
theorem takes_of_openable {tag : KindTag} (openable : tag ∈ KindTag.openable) (kind : LeafKind) :
    tag.takes kind.tag := by
  have plain := isPlainLeaf_tag kind
  simp only [KindTag.openable, List.mem_cons, List.not_mem_nil, or_false] at openable
  rcases openable with rfl | rfl | rfl | rfl <;> simp [takes, isLeaf, plain]

theorem takes_item {tag : KindTag} (h : tag = .sect ∨ tag = .subsect) : tag.takes .item := by
  rcases h with rfl | rfl <;> rfl

theorem not_takes_of_isLeaf {tag : KindTag} (leaf : tag.isLeaf) (child : KindTag) :
    tag.takes child = false := by
  cases tag with
  | file => simp [isLeaf, isPlainLeaf] at leaf
  | sect => simp [isLeaf, isPlainLeaf] at leaf
  | subsect => simp [isLeaf, isPlainLeaf] at leaf
  | item => simp [isLeaf, isPlainLeaf] at leaf
  | _ => rfl

/-- Nothing takes a file. -/
theorem not_takes_file (tag : KindTag) : tag.takes .file = false := by
  cases tag <;> rfl

/-- Only an item takes a word list. -/
theorem eq_item_of_takes {tag child : KindTag} (takes : tag.takes child)
    (words : child = .topics ∨ child = .seeAlso) : tag = .item := by
  rcases words with rfl | rfl <;> cases tag <;> simp_all [KindTag.takes, isPlainLeaf]

end KindTag

/-! ## Documents -/

namespace Document

/-- The numbers of the files, in order. -/
def files (doc : Document) : List Nat :=
  (List.range doc.size).filter fun id => doc.tag? id = some .file

/-- The document follows the grammar, and the roots and the children are what the parents say. -/
structure Nested (doc : Document) : Prop where
  roots : doc.roots = doc.files
  children : ∀ id, doc.children id = doc.under id
  root_iff : ∀ id, id < doc.size → (doc.parent? id = none ↔ doc.tag? id = some .file)
  takes : ∀ id parent, doc.parent? id = some parent →
    ∃ outer inner, doc.tag? parent = some outer ∧ doc.tag? id = some inner ∧ outer.takes inner
  named : ∀ id node, doc.node? id = some node → node.tag = .subsect ∨ node.tag = .item →
    node.subtitle ≠ ""

variable {doc : Document} {node : Node} {parent : Nat}

/-- Where the files are the nodes without parent, they are listed like these. -/
theorem files_eq_withParent
    (root_iff : ∀ id, id < doc.size → (doc.parent? id = none ↔ doc.tag? id = some .file)) :
    doc.files = doc.withParent none := by
  refine List.filter_congr fun id mem => ?_
  rw [decide_eq_decide]
  exact (root_iff id (List.mem_range.mp mem)).symm

/-- The grammar apart, a link is recorded at both ends. -/
theorem Nested.linked (nested : doc.Nested) : doc.Linked where
  roots := by rw [nested.roots, files_eq_withParent nested.root_iff]
  children := nested.children

/-- A linked document follows the grammar as soon as its nodes do. -/
theorem Linked.nested (linked : doc.Linked)
    (root_iff : ∀ id, id < doc.size → (doc.parent? id = none ↔ doc.tag? id = some .file))
    (takes : ∀ id parent, doc.parent? id = some parent →
      ∃ outer inner, doc.tag? parent = some outer ∧ doc.tag? id = some inner ∧ outer.takes inner)
    (named : ∀ id node, doc.node? id = some node → node.tag = .subsect ∨ node.tag = .item →
      node.subtitle ≠ "") : doc.Nested where
  roots := by rw [linked.roots, files_eq_withParent root_iff]
  children := linked.children
  root_iff := root_iff
  takes := takes
  named := named

namespace Nested

theorem empty : Nested Document.empty := by
  refine Linked.empty.nested ?_ ?_ ?_
  · intro id lt
    exact absurd lt (Nat.not_lt_zero id)
  · intro id parent up
    simp [parent?, node?, Document.empty] at up
  · intro id node found
    simp [node?, Document.empty] at found

/-- A new file. -/
theorem addRoot (nested : doc.Nested) (kind : node.tag = .file) : (doc.addRoot node).Nested := by
  refine (nested.linked.addRoot node).nested ?root_iff ?takes ?named
  case root_iff =>
    intro id lt
    rw [size_addRoot] at lt
    rw [parent?_addRoot, tag?_addRoot]
    by_cases new : id = doc.size
    · simp [new, kind]
    · rw [if_neg new, if_neg new]
      exact nested.root_iff id (by omega)
  case takes =>
    intro id parent up
    rw [parent?_addRoot] at up
    split at up
    · cases up
    · rename_i old
      have below := parent?_lt up
      have inside := lt_of_parent? up
      rw [tag?_addRoot, tag?_addRoot, if_neg (by omega), if_neg old]
      exact nested.takes id parent up
  case named =>
    intro id other found needs
    rw [node?_addRoot] at found
    split at found
    · -- the new node is a file, which needs no subtitle
      cases found
      have isFile : (fresh node none).tag = .file := kind
      rw [isFile] at needs
      rcases needs with needs | needs <;> cases needs
    · exact nested.named id other found needs

/-- A new last child of a node that takes its kind. -/
theorem addChild (nested : doc.Nested) {outer : KindTag} (held : doc.tag? parent = some outer)
    (takes : outer.takes node.tag)
    (named : node.tag = .subsect ∨ node.tag = .item → node.subtitle ≠ "") :
    (doc.addChild parent node).Nested := by
  have lt := lt_of_tag? held
  have other : node.tag ≠ .file := by
    intro isFile
    rw [isFile, KindTag.not_takes_file] at takes
    cases takes
  refine (nested.linked.addChild lt node).nested ?root_iff ?takes ?named
  case root_iff =>
    intro id inside
    rw [size_addChild doc lt] at inside
    rw [parent?_addChild doc lt, tag?_addChild doc lt]
    by_cases new : id = doc.size
    · simp [new, other]
    · rw [if_neg new, if_neg new]
      exact nested.root_iff id (by omega)
  case takes =>
    intro id above up
    rw [parent?_addChild doc lt] at up
    rw [tag?_addChild doc lt, tag?_addChild doc lt]
    split at up
    · rename_i new
      cases up
      rw [if_neg (Nat.ne_of_lt lt), if_pos new]
      exact ⟨outer, node.tag, held, rfl, takes⟩
    · rename_i old
      have below := parent?_lt up
      have inside := lt_of_parent? up
      rw [if_neg (by omega), if_neg old]
      exact nested.takes id above up
  case named =>
    intro id last found needs
    rw [node?_addChild doc lt] at found
    split at found
    · cases found
      exact named needs
    · -- an old node shows what it showed, whether it has a new child or not
      obtain ⟨before, there, rfl⟩ := Option.map_eq_some_iff.mp found
      have shown := nested.named id before there
      by_cases adopts : parent = id
      · rw [if_pos adopts] at needs ⊢
        exact shown needs
      · rw [if_neg adopts] at needs ⊢
        exact shown needs

/-- New information on a node of the same kind. -/
theorem mapKind (nested : doc.Nested) (id : Nat) {f : NodeKind → NodeKind}
    (kept : ∀ kind, (f kind).tag = kind.tag) : (doc.mapKind id f).Nested := by
  refine (nested.linked.mapKind id f).nested ?root_iff ?takes ?named
  case root_iff =>
    intro i lt
    rw [parent?_mapKind, tag?_mapKind doc id kept]
    exact nested.root_iff i (by rwa [size_mapKind] at lt)
  case takes =>
    intro i parent up
    rw [parent?_mapKind] at up
    rw [tag?_mapKind doc id kept, tag?_mapKind doc id kept]
    exact nested.takes i parent up
  case named =>
    intro i node found needs
    rw [node?_mapKind] at found
    obtain ⟨before, there, rfl⟩ := Option.map_eq_some_iff.mp found
    have old := nested.named i before there
    split at needs
    · rename_i same
      have needs : (f before.kind).tag = .subsect ∨ (f before.kind).tag = .item := needs
      rw [kept] at needs
      simp only [if_pos same]
      exact old needs
    · rename_i other
      simp only [if_neg other]
      exact old needs

end Nested

end Document

/-! ## Walks -/

namespace Walk

variable {here : Origin → Prop} {mine : String → Prop} {base : Nat} {w after : Walk}

/-- A leaf under the parent, and whatever it brings to the information of that parent. -/
theorem Sound.nested_leaf (sound : w.Sound base) (nested : w.document.Nested) {parent : Nat}
    (opened : w.scope.parent = some parent) {node : Node} {kind : LeafKind}
    (leaf : node.kind = .leaf kind) : (w.document.addChild parent node).Nested := by
  obtain ⟨tag, openable, held⟩ := Scope.Sound.parent_kind sound opened
  have plain : node.tag = kind.tag := by rw [Node.tag, leaf]; rfl
  refine nested.addChild held.2 (by rw [plain]; exact KindTag.takes_of_openable openable kind) ?_
  rw [plain]
  intro needs
  cases kind <;> rcases needs with needs | needs <;> cases needs

/-- **Every move keeps the grammar.** -/
theorem Move.nested (move : Move here mine w after) (sound : w.Sound base)
    (nested : w.document.Nested) : after.document.Nested := by
  cases move with
  | note entry place => exact nested
  | close =>
    rw [closeItem_toSession]
    exact nested
  | define title rule plain => exact nested
  | configure project => exact nested
  | file node shut place kind => exact nested.addRoot (by rw [Node.tag, kind]; rfl)
  | describe file f opened => exact nested.mapKind file (NodeKind.tag_mapFile f)
  | sect file node opened place kind =>
    have tag : node.tag = .sect := by rw [Node.tag, kind]; rfl
    refine nested.addChild (Scope.Sound.file sound file opened).2 (by rw [tag]; rfl) ?_
    rw [tag]
    rintro (needs | needs) <;> cases needs
  | subsect sect node opened place kind named =>
    have tag : node.tag = .subsect := by rw [Node.tag, kind]; rfl
    exact nested.addChild (Scope.Sound.sect sound sect opened).1.2 (by rw [tag]; rfl) fun _ => named
  | item container block opened place name named free =>
    obtain ⟨tag, kind, held⟩ := Scope.Sound.container_kind sound opened
    exact nested.addChild held.2 (KindTag.takes_item kind) fun _ => named
  | image item kind node opened place leaf =>
    exact sound.nested_leaf nested (Scope.Sound.parent_of_item sound opened) leaf
  | words item list block opened place =>
    have held := (Scope.Sound.item sound item opened).1.2
    have added : (w.document.addChild item (block.node (WordList.kind list))).Nested := by
      refine nested.addChild held (by cases list <;> rfl) ?_
      cases list <;> rintro (needs | needs) <;> cases needs
    exact added.mapKind item (NodeKind.tag_mapItem _)
  | leaf parent rule block opened found admits hook place =>
    exact sound.nested_leaf nested opened rfl
  | status parent rule block opened found admits hook place =>
    exact (sound.nested_leaf nested opened rfl).mapKind parent (NodeKind.tag_mapItem _)
  | aliases parent rule block names opened found admits hook place given owned free =>
    exact (sound.nested_leaf nested opened rfl).mapKind parent (NodeKind.tag_mapItem _)

theorem Moves.nested (moves : Moves here mine w after) (sound : w.Sound base)
    (nested : w.document.Nested) : after.document.Nested := by
  induction moves with
  | refl => exact nested
  | tail before move ih => exact move.nested (Moves.sound before sound) ih

end Walk

/-! ## Sessions -/

namespace Session

theorem Reachable.nested {s : Session} (reached : s.Reachable) : s.document.Nested := by
  refine reached.induction (fun mode => Document.Nested.empty) ?_ fun s nested => nested
  intro s file lines nested
  exact Walk.Moves.nested (walkUnit_moves_any s file lines) s.enter_sound nested

/-- **The grammar of the tree.**  In every session that can be reached, the nodes without parent are
    the files, and the roots list them in order; the children of a node are the nodes that name it
    as their parent, in order; a file takes sections and leaves, a section subsections, items and
    leaves, a subsection items and leaves, an item leaves only, and a leaf nothing; the word lists
    stand under items; subsections and items have a subtitle; and a call adds at most one file. -/
theorem nesting_grammar {s : Session} (reached : s.Reachable) :
    let doc := s.document
    (∀ id, id < doc.size → (doc.parent? id = none ↔ doc.tag? id = some .file))
      ∧ doc.roots = doc.files
      ∧ (∀ id, doc.children id = doc.under id)
      ∧ (∀ id child, child ∈ doc.children id →
          ∃ outer inner, doc.tag? id = some outer ∧ doc.tag? child = some inner
            ∧ outer.takes inner)
      ∧ (∀ id tag, doc.tag? id = some tag → tag.isLeaf → doc.children id = [])
      ∧ (∀ id tag, doc.tag? id = some tag → tag = .topics ∨ tag = .seeAlso →
          ∃ item, doc.parent? id = some item ∧ doc.tag? item = some .item)
      ∧ (∀ id node, doc.node? id = some node → node.tag = .subsect ∨ node.tag = .item →
          node.subtitle ≠ "")
      ∧ ∀ c, ∃ added : Option Nat, (s.call c).1.document.files = doc.files ++ added.toList := by
  intro doc
  have nested := reached.nested
  have takes : ∀ id child, child ∈ doc.children id →
      ∃ outer inner, doc.tag? id = some outer ∧ doc.tag? child = some inner
        ∧ outer.takes inner := by
    intro id child mem
    rw [nested.children, Document.under, List.mem_filter] at mem
    exact nested.takes child id (by simpa using mem.2)
  refine ⟨nested.root_iff, nested.roots, nested.children, takes, ?_, ?_, nested.named, ?_⟩
  · intro id tag found leaf
    rw [List.eq_nil_iff_forall_not_mem]
    intro child mem
    obtain ⟨outer, inner, isOuter, -, fits⟩ := takes id child mem
    obtain rfl : outer = tag := by simpa [isOuter] using found
    rw [KindTag.not_takes_of_isLeaf leaf] at fits
    cases fits
  · intro id tag found words
    have inside := Document.lt_of_tag? found
    have notRoot : doc.parent? id ≠ none := by
      intro orphan
      have isFile := (nested.root_iff id inside).mp orphan
      rw [found] at isFile
      rcases words with rfl | rfl <;> cases isFile
    obtain ⟨parent, up⟩ := Option.ne_none_iff_exists'.mp notRoot
    obtain ⟨outer, inner, isOuter, isInner, fits⟩ := nested.takes id parent up
    obtain rfl : inner = tag := Option.some.inj (isInner.symm.trans found)
    refine ⟨parent, up, ?_⟩
    rw [isOuter, KindTag.eq_item_of_takes fits words]
  · intro c
    have after : (s.call c).1.document.Nested := (reached.after [c]).nested
    have appends := walkUnit_appends s (c.source s.mode) c.lines
    refine ⟨(s.walkUnit (c.source s.mode) c.lines).scope.file, ?_⟩
    rw [← after.roots, ← nested.roots, (call_walk s c).1]
    exact appends.roots

/-- Two units, the second without a File block and with a refused block; the item takes a list of
    topics, and the section keeps a leaf of its own. -/
theorem nesting_grammar_two_units :
    let s := (start {}).after
      [.readLines ["// File: a", "// Section: S", "// Text: note", "// Subsection: T",
         "// Function: f()", "// Topics: x, y"] "a",
       .readLines ["// Subsection: T", "// Function: g()"] "b"]
    s.Reachable ∧ s.document.roots = s.document.files ∧ s.document.files = [0, 6]
      ∧ s.document.children 1 = s.document.under 1 ∧ s.document.under 1 = [2, 3]
      ∧ s.document.tag? 5 = some .topics
      ∧ ∃ item, s.document.parent? 5 = some item ∧ s.document.tag? item = some .item := by
  have reached : Reachable ((start {}).after
      [.readLines ["// File: a", "// Section: S", "// Text: note", "// Subsection: T",
         "// Function: f()", "// Topics: x, y"] "a",
       .readLines ["// Subsection: T", "// Function: g()"] "b"]) := ⟨{}, _, rfl⟩
  obtain ⟨-, roots, children, -, -, words, -⟩ := nesting_grammar reached
  have topics : ((start {}).after
      [.readLines ["// File: a", "// Section: S", "// Text: note", "// Subsection: T",
         "// Function: f()", "// Topics: x, y"] "a",
       .readLines ["// Subsection: T", "// Function: g()"] "b"]).document.tag? 5
        = some .topics := by decide +kernel
  exact ⟨reached, roots, by decide +kernel, children 1, by decide +kernel, topics,
    words 5 .topics topics (.inl rfl)⟩

end Session

end DocComments
