/-
  What an item tells of itself is what its children tell.

  Three lists of an item repeat what stands in its children: the topics, the cross-references and
  the further names.  Nothing in the program reads them off the children; a handler adds a node and
  lengthens a list, by two changes, and what it adds to the list it has computed from the block and
  not from the node.  A list ECHOES the children if the two changes always agree (`Echoes`), and
  then it mirrors them at every item, whatever has been read (`Moves.mirrors`).

  For the further names that is a matter of the rules.  A title that is defined anew loses its hook,
  so the children with that title no longer name anything; the rules have to have been left alone at
  `Alias` and `Aliases` (`RuleTable.KeepsAliases`).  A unit cannot take such a definition back, so it
  is enough to know the rules at its end (`Move.sorted`).

    * `Move.mirrors`            what a move adds to the children it adds to the list;
    * `items_mirror_children`   the three lists in every session, and blocks that are refused.
-/
import DocComments.Proofs.ClosedItems
import DocComments.Proofs.DefinedTitles
import DocComments.Proofs.Naming
import DocComments.Proofs.Nesting
import DocComments.Proofs.Strictness

namespace DocComments

/-! ## What the children tell -/

/-- The entries of a node: those of its subtitle, and then those of its body lines. -/
def Node.entries (node : Node) : List String :=
  Text.entriesOf node.subtitle ++ node.body.flatMap Text.entriesOf

/-- The entries of a node of a certain kind; other nodes have none. -/
def Node.entriesAs (kind : KindTag) (node : Node) : List String :=
  if node.tag = kind then node.entries else []

/-- The title is one of those that bring further names. -/
def IsAliasTitle (title : String) : Prop := title = "Alias" ∨ title = "Aliases"

instance (title : String) : Decidable (IsAliasTitle title) :=
  inferInstanceAs (Decidable (_ ∨ _))

/-- The further names that a node lists, each once. -/
def Node.furtherNames (node : Node) : List String :=
  if IsAliasTitle node.title then (Text.entriesOf node.subtitle).eraseDups else []

namespace Document

/-- What the nodes directly under a node tell, in order. -/
def gather (doc : Document) (told : Node → List String) (id : Nat) : List String :=
  (doc.childNodes id).flatMap fun child => told child.2

/-- What an item carries. -/
def info? (doc : Document) (id : Nat) : Option ItemInfo := (doc.node? id).bind (·.itemInfo?)

end Document

/-- What a node tells is a matter of its kind and of what was written. -/
def IsTold (told : Node → List String) : Prop :=
  ∀ node other : Node, node.block = other.block → node.tag = other.tag → told node = told other

/-- The entries of a node are told from its kind and from what was written. -/
theorem isTold_entriesAs (kind : KindTag) : IsTold (Node.entriesAs kind) := by
  intro node other written tag
  have entries : node.entries = other.entries := by
    have subtitle : node.subtitle = other.subtitle := congrArg Block.subtitle written
    have body : node.body = other.body := congrArg Block.body written
    rw [Node.entries, Node.entries, subtitle, body]
  rw [Node.entriesAs, Node.entriesAs, tag, entries]

theorem isTold_furtherNames : IsTold Node.furtherNames := by
  intro node other written _
  have title : node.title = other.title := congrArg Block.title written
  have subtitle : node.subtitle = other.subtitle := congrArg Block.subtitle written
  rw [Node.furtherNames, Node.furtherNames, title, subtitle]

namespace Document

variable {doc after : Document} {told : Node → List String} {id : Nat}

/-- What the node with a number tells. -/
def toldAt (doc : Document) (told : Node → List String) (id : Nat) : List String :=
  ((doc.node? id).map told).getD []

/-- What is gathered under a node, from its children one by one. -/
theorem gather_eq (doc : Document) (told : Node → List String) (id : Nat) :
    doc.gather told id = (doc.children id).flatMap (doc.toldAt told) := by
  rw [gather, childNodes]
  induction doc.children id with
  | nil => rfl
  | cons child rest ih =>
    cases found : doc.node? child with
    | none => simp [toldAt, found, ih]
    | some node => simp [toldAt, found, ih]

/-- A node of the same kind with the same text tells the same. -/
theorem toldAt_congr (isTold : IsTold told) (block : after.block? id = doc.block? id)
    (tag : after.tag? id = doc.tag? id) : after.toldAt told id = doc.toldAt told id := by
  rw [block?, block?] at block
  rw [tag?, tag?] at tag
  rw [toldAt, toldAt]
  cases found : doc.node? id with
  | none =>
    rw [found, Option.map_none, Option.map_eq_none_iff] at block
    rw [block]
  | some node =>
    rw [found, Option.map_some] at block tag
    obtain ⟨other, found', written⟩ := Option.map_eq_some_iff.mp block
    rw [found', Option.map_some, Option.some.injEq] at tag
    rw [found', Option.map_some, Option.map_some, isTold other node written tag]

/-- The same children with the same texts tell the same. -/
theorem gather_congr (isTold : IsTold told) (children : after.children id = doc.children id)
    (block : ∀ child, child < doc.size → after.block? child = doc.block? child)
    (tag : ∀ child, child < doc.size → after.tag? child = doc.tag? child) :
    after.gather told id = doc.gather told id := by
  rw [gather_eq, gather_eq, children]
  refine List.flatMap_congr fun child mem => ?_
  have lt := (lt_of_mem_children mem).2
  exact toldAt_congr isTold (block child lt) (tag child lt)

theorem gather_size (doc : Document) (told : Node → List String) :
    doc.gather told doc.size = [] := by
  rw [gather_eq, children_size]
  rfl

/-- A new root is gathered by nobody. -/
theorem gather_addRoot (isTold : IsTold told) (doc : Document) (node : Node) (id : Nat) :
    (doc.addRoot node).gather told id = doc.gather told id :=
  gather_congr isTold (children_addRoot node id) (fun _ lt => block?_addRoot doc node lt)
    fun child lt => (doc.grows_addRoot node).tag?_eq child lt

/-- One more child tells one thing more, to its parent. -/
theorem gather_addChild (isTold : IsTold told) (doc : Document) {parent : Nat}
    (lt : parent < doc.size) (node : Node) (id : Nat) :
    (doc.addChild parent node).gather told id
      = if id = parent then doc.gather told id ++ told node else doc.gather told id := by
  have block : ∀ child, child < doc.size →
      (doc.addChild parent node).block? child = doc.block? child :=
    fun child old => block?_addChild doc parent node old
  have tag := (doc.grows_addChild lt node).tag?_eq
  split
  · rename_i same
    subst same
    have last : (doc.addChild id node).toldAt told doc.size = told node := by
      rw [toldAt, node?_addChild doc lt, if_pos rfl]
      exact isTold _ _ rfl rfl
    have others : (doc.children id).flatMap ((doc.addChild id node).toldAt told)
        = (doc.children id).flatMap (doc.toldAt told) := by
      refine List.flatMap_congr fun child mem => ?_
      have old := (lt_of_mem_children mem).2
      exact toldAt_congr isTold (block child old) (tag child old)
    rw [gather_eq, gather_eq, children_addChild doc lt, List.flatMap_append, others,
      List.flatMap_singleton, last]
  · rename_i other
    exact gather_congr isTold (children_addChild_of_ne lt node (Ne.symm other)) block tag

theorem gather_mapKind (isTold : IsTold told) (doc : Document) (changed : Nat)
    {f : NodeKind → NodeKind} (kept : ∀ kind, (f kind).tag = kind.tag) (id : Nat) :
    (doc.mapKind changed f).gather told id = doc.gather told id :=
  gather_congr isTold (children_mapKind doc changed f id)
    (fun child _ => block?_mapKind doc changed f child)
    fun child _ => tag?_mapKind doc changed kept child

/-! ## What an item carries, after an operation -/

theorem tag?_of_info? {info : ItemInfo} (carried : doc.info? id = some info) :
    doc.tag? id = some .item := by
  obtain ⟨node, found, isItem⟩ := Option.bind_eq_some_iff.mp carried
  rw [Node.itemInfo?] at isItem
  split at isItem
  · rename_i kind
    rw [tag?, found, Option.map_some, Node.tag, kind]
    rfl
  · cases isItem

/-- A new root brings the information it carries. -/
theorem info?_addRoot (doc : Document) (node : Node) (id : Nat) :
    (doc.addRoot node).info? id = if id = doc.size then node.itemInfo? else doc.info? id := by
  rw [info?, node?_addRoot]
  split
  · rfl
  · rfl

theorem info?_addChild (doc : Document) {parent : Nat} (lt : parent < doc.size) (node : Node)
    (id : Nat) :
    (doc.addChild parent node).info? id
      = if id = doc.size then node.itemInfo? else doc.info? id := by
  rw [info?, node?_addChild doc lt]
  split
  · rfl
  · rw [info?]
    cases doc.node? id with
    | none => rfl
    | some old =>
      simp only [Option.map_some, Option.bind_some]
      split <;> rfl

/-- News of an item reach that item only. -/
theorem info?_mapItem (doc : Document) (item : Nat) (f : ItemInfo → ItemInfo) (id : Nat) :
    (doc.mapItem item f).info? id
      = if id = item then (doc.info? id).map f else doc.info? id := by
  rw [info?, info?, mapItem, node?_mapKind]
  cases doc.node? id with
  | none => simp
  | some old =>
    simp only [Option.map_some, Option.bind_some, eq_comm]
    split
    · simp only [Node.itemInfo?]
      cases old.kind <;> rfl
    · rfl

theorem info?_mapFile (doc : Document) (file : Nat) (f : FileInfo → FileInfo) (id : Nat) :
    (doc.mapFile file f).info? id = doc.info? id := by
  rw [info?, info?, mapFile, node?_mapKind]
  cases doc.node? id with
  | none => rfl
  | some old =>
    simp only [Option.map_some, Option.bind_some]
    split
    · simp only [Node.itemInfo?]
      cases old.kind <;> rfl
    · rfl

/-! ## A list that mirrors the children -/

/-- At every item, the list is what the children tell. -/
def Mirrors (doc : Document) (list : ItemInfo → List String) (told : Node → List String) : Prop :=
  ∀ id info, doc.info? id = some info → list info = doc.gather told id

namespace Mirrors

variable {list : ItemInfo → List String}

theorem addRoot (mirrors : doc.Mirrors list told) (isTold : IsTold told) {node : Node}
    (plain : node.itemInfo? = none) : (doc.addRoot node).Mirrors list told := by
  intro id info carried
  rw [info?_addRoot] at carried
  rw [gather_addRoot isTold]
  split at carried
  · rw [plain] at carried
    cases carried
  · exact mirrors id info carried

/-- A new item has nothing on its list; a child that tells something has no item as parent. -/
theorem addChild (mirrors : doc.Mirrors list told) (isTold : IsTold told) {parent : Nat}
    (lt : parent < doc.size) {node : Node} (new : ∀ info, node.itemInfo? = some info → list info = [])
    (silent : ∀ info, doc.info? parent = some info → told node = []) :
    (doc.addChild parent node).Mirrors list told := by
  intro id info carried
  rw [info?_addChild doc lt] at carried
  rw [gather_addChild isTold doc lt]
  split at carried
  · rename_i last
    rw [if_neg (by omega), last, gather_size, new info carried]
  · rw [← mirrors id info carried]
    split
    · rename_i same
      rw [silent info (same ▸ carried), List.append_nil]
    · rfl

/-- A child that tells something, where the list takes it up. -/
theorem addChild_mapItem (mirrors : doc.Mirrors list told) (isTold : IsTold told) {parent : Nat}
    (lt : parent < doc.size) {node : Node} (plain : node.itemInfo? = none)
    {f : ItemInfo → ItemInfo} (takesUp : ∀ info, list (f info) = list info ++ told node) :
    ((doc.addChild parent node).mapItem parent f).Mirrors list told := by
  intro id info carried
  rw [mapItem, gather_mapKind isTold _ _ (NodeKind.tag_mapItem f), gather_addChild isTold doc lt]
  have old : ∀ info, (doc.addChild parent node).info? id = some info →
      list info = doc.gather told id := by
    intro info carried
    rw [info?_addChild doc lt, plain] at carried
    split at carried
    · cases carried
    · exact mirrors id info carried
  rw [info?_mapItem] at carried
  split at carried
  · rename_i same
    obtain ⟨before, found, rfl⟩ := Option.map_eq_some_iff.mp carried
    rw [if_pos same, takesUp, old before found]
  · rename_i other
    rw [if_neg other, old info carried]

end Mirrors

end Document

/-! ## Lists that echo -/

/-- No definition stands in the place of the rules that bring further names. -/
def RuleTable.KeepsAliases (table : RuleTable) : Prop :=
  ∀ title rule, IsAliasTitle title → table.lookup? title = some rule → rule.hook = some .aliases

/-- A definition that takes one of the titles is still there after the next one. -/
theorem RuleTable.KeepsAliases.of_insert {table : RuleTable} {title : String} {rule : Rule}
    (plain : rule.hook = none) (kept : (table.insert title rule).KeepsAliases) :
    table.KeepsAliases := by
  intro other found isTitle lookup
  by_cases same : other = title
  · have taken := kept other rule isTitle (same ▸ lookup?_insert_self table title rule)
    rw [plain] at taken
    cases taken
  · exact kept other found isTitle ((lookup?_insert_of_ne table rule same).trans lookup)

/-- **A list echoes the children**: whatever a block adds to it, under rules of a certain sort, its
    node tells. -/
structure Echoes (sort : RuleTable → Prop) (list : ItemInfo → List String)
    (told : Node → List String) : Prop where
  isTold : IsTold told
  /-- No definition leads to rules of the sort. -/
  undefined : ∀ (table : RuleTable) (title : String) (rule : Rule), rule.hook = none →
    sort (table.insert title rule) → sort table
  new : list {} = []
  image : ∀ (node : Node) (kind : LeafKind), node.kind = .leaf kind →
    node.title = "Example" ∨ node.title = "Figure" → told node = []
  words : ∀ (words : WordList) (block : Block) (info : ItemInfo),
    LeafRole.ofTitle block.title = .words words →
    list (Walk.addWords words (Walk.wordsOf block) info)
      = list info ++ told (block.node (Walk.WordList.kind words))
  status : ∀ (deprecated : Bool) (info : ItemInfo),
    list (Walk.setDeprecated deprecated info) = list info
  /-- A registered block without further names. -/
  plain : ∀ (table : RuleTable) (block : Block) (rule : Rule), sort table →
    table.lookup? block.title = some rule → rule.hook ≠ some .aliases →
    told (block.node (.leaf rule.kind)) = []
  aliases : ∀ (block : Block) (rule : Rule) (info : ItemInfo), IsAliasTitle block.title →
    list (Walk.addAliases (Text.entriesOf block.subtitle).eraseDups info)
      = list info ++ told (block.node (.leaf rule.kind))

/-- The list of an item that a word list belongs to. -/
def ItemInfo.words (info : ItemInfo) : WordList → List String
  | .topics => info.topics
  | .seeAlso => info.seeAlso

/-- A leaf of a rule or an image is no list of words, and has no entries of one. -/
theorem entriesAs_leaf (words : WordList) {node : Node} {kind : LeafKind}
    (leaf : node.kind = .leaf kind) :
    node.entriesAs (Walk.WordList.kind words).tag = [] := by
  have other : node.tag ≠ (Walk.WordList.kind words).tag := by
    rw [Node.tag, leaf]
    cases words <;> cases kind <;> simp [NodeKind.tag, LeafKind.tag, Walk.WordList.kind]
  rw [Node.entriesAs, if_neg other]

/-- **A word list echoes** the children of its kind, whatever the rules. -/
theorem echoes_words (words : WordList) :
    Echoes (fun _ => True) (·.words words) (Node.entriesAs (Walk.WordList.kind words).tag) where
  isTold := isTold_entriesAs _
  undefined _ _ _ _ _ := trivial
  new := by cases words <;> rfl
  image node kind leaf _ := entriesAs_leaf words leaf
  words given block info _ := by
    have mine : (block.node (Walk.WordList.kind given)).entriesAs (Walk.WordList.kind words).tag
        = if given = words then Walk.wordsOf block else [] := by
      cases given <;> cases words <;> rfl
    rw [mine]
    cases given <;> cases words <;> simp [ItemInfo.words, Walk.addWords]
  status deprecated info := by cases words <;> rfl
  plain table block rule _ _ _ := entriesAs_leaf words rfl
  aliases block rule info _ := by
    rw [entriesAs_leaf words rfl, List.append_nil]
    cases words <;> rfl

/-- **The further names echo** the children with the titles of further names, where no definition
    has taken these titles. -/
theorem echoes_aliases : Echoes RuleTable.KeepsAliases (·.aliases) Node.furtherNames where
  isTold := isTold_furtherNames
  undefined table title rule plain kept := kept.of_insert plain
  new := rfl
  image node kind _ titled := by
    have other : ¬ IsAliasTitle node.title := by
      rcases titled with title | title <;> rw [title] <;> decide
    rw [Node.furtherNames, if_neg other]
  words given block info role := by
    have other : ¬ IsAliasTitle block.title := by
      rintro (title | title) <;> simp [title, LeafRole.ofTitle] at role
    have none : (block.node (Walk.WordList.kind given)).furtherNames = [] := if_neg other
    rw [none, List.append_nil]
    cases given <;> rfl
  status deprecated info := rfl
  plain table block rule kept found noNames := by
    have other : ¬ IsAliasTitle block.title :=
      fun title => noNames (kept _ rule title found)
    exact if_neg other
  aliases block rule info title := by
    have own : (block.node (.leaf rule.kind)).furtherNames
        = (Text.entriesOf block.subtitle).eraseDups := if_pos title
    rw [own]
    rfl

/-! ## Along a walk -/

namespace Walk

variable {here : Origin → Prop} {mine : String → Prop} {base : Nat} {w after : Walk}
  {sort : RuleTable → Prop} {list : ItemInfo → List String} {told : Node → List String}

/-- Rules of the sort have been of the sort before the move. -/
theorem Move.sorted (echoes : Echoes sort list told) (move : Move here mine w after)
    (sorted : sort after.registry.active) : sort w.registry.active := by
  cases move with
  | close => rwa [closeItem_toSession] at sorted
  | define title rule plain => exact echoes.undefined _ _ _ plain sorted
  | _ => exact sorted

/-- **Every move keeps the list a mirror of the children.**  It adds one child or none, and to the
    list it adds what the child tells. -/
theorem Move.mirrors (echoes : Echoes sort list told) (move : Move here mine w after)
    (sound : w.Sound base) (built : w.registry.active.HooksBuiltIn)
    (sorted : sort w.registry.active) (mirrors : w.document.Mirrors list told) :
    after.document.Mirrors list told := by
  have isTold := echoes.isTold
  -- a container of another kind has no list to add to
  have noList : ∀ {id : Nat} {tag : KindTag}, w.document.tag? id = some tag → tag ≠ .item →
      ∀ {told : List String} info, w.document.info? id = some info → told = [] := by
    intro id tag tagged other told info carried
    have isItem := Document.tag?_of_info? carried
    rw [tagged, Option.some.injEq] at isItem
    exact absurd isItem other
  cases move with
  | note entry place => exact mirrors
  | close => rwa [closeItem_toSession]
  | define title rule plain => exact mirrors
  | configure project => exact mirrors
  | file node shut place kind => exact mirrors.addRoot isTold (by rw [Node.itemInfo?, kind])
  | describe file f opened =>
    intro id info carried
    rw [Document.info?_mapFile] at carried
    rw [Document.mapFile, Document.gather_mapKind isTold _ _ (NodeKind.tag_mapFile f)]
    exact mirrors id info carried
  | sect file node opened place kind =>
    have held := Scope.Sound.file sound file opened
    refine mirrors.addChild isTold (Scope.Sound.file_lt sound opened) ?_
      (noList held.2 (by decide))
    simp [Node.itemInfo?, kind]
  | subsect sect node opened place kind named =>
    have held := (Scope.Sound.sect sound sect opened).1
    refine mirrors.addChild isTold (Scope.Sound.sect_lt sound opened) ?_
      (noList held.2 (by decide))
    simp [Node.itemInfo?, kind]
  | item container block opened place name named free =>
    obtain ⟨tag, kind, held⟩ := Scope.Sound.container_kind sound opened
    have other : tag ≠ .item := by rintro rfl; simp at kind
    refine mirrors.addChild isTold (Scope.Sound.container_lt sound opened) ?_
      (noList held.2 other)
    rintro _ ⟨⟩
    exact echoes.new
  | image item kind node opened place leaf titled =>
    refine mirrors.addChild isTold (Scope.Sound.item_lt sound opened) ?_ fun info carried => ?_
    · simp [Node.itemInfo?, leaf]
    · exact echoes.image node kind leaf titled
  | words item words block opened place role =>
    refine mirrors.addChild_mapItem isTold (Scope.Sound.item_lt sound opened) ?_ ?_
    · cases words <;> rfl
    · exact fun info => echoes.words words block info role
  | leaf parent rule block opened found admits hook place =>
    refine mirrors.addChild isTold (Scope.Sound.parent_lt sound opened) (fun _ item => by cases item)
      fun info carried => ?_
    exact echoes.plain _ block rule sorted found (by simp [hook])
  | status parent rule block opened found admits hook place =>
    refine mirrors.addChild_mapItem isTold (Scope.Sound.parent_lt sound opened) rfl fun info => ?_
    rw [echoes.status, echoes.plain _ block rule sorted found (by simp [hook]), List.append_nil]
  | aliases parent rule block names opened found admits hook place given owned free =>
    refine mirrors.addChild_mapItem isTold (Scope.Sound.parent_lt sound opened) rfl fun info => ?_
    rw [given, echoes.aliases block rule info (built.aliases found hook).1]

/-- **A list that echoes stays a mirror,** if the rules at the end are of the right sort. -/
theorem Moves.mirrors (echoes : Echoes sort list told) (moves : Moves here mine w after)
    (sound : w.Sound base) (built : w.registry.active.HooksBuiltIn)
    (sorted : sort after.registry.active) (mirrors : w.document.Mirrors list told) :
    after.document.Mirrors list told := by
  induction moves with
  | refl => exact mirrors
  | tail before move ih =>
    have sorted := move.sorted echoes sorted
    exact move.mirrors echoes (Moves.sound before sound) ((Moves.rules before).2 built) sorted
      (ih sorted)

end Walk

/-! ## Every session -/

/-- The unit of the call redefines the title. -/
def Call.Redefines (mode : Mode) (c : Call) (title : String) : Prop :=
  ∃ rule, (title, rule) ∈ definitionsIn (c.source mode) c.lines

theorem Call.not_redefines {mode : Mode} {c : Call}
    (plain : definitionsIn (c.source mode) c.lines = []) (title : String) :
    ¬ c.Redefines mode title := by
  rintro ⟨rule, defined⟩
  rw [plain] at defined
  cases defined

namespace Session

variable {s : Session} {sort : RuleTable → Prop} {list : ItemInfo → List String}
  {told : Node → List String} {file : String} {lines : List String}

/-- There is nothing to mirror in the empty document. -/
theorem mirrors_empty (list : ItemInfo → List String) (told : Node → List String) :
    Document.empty.Mirrors list told := by
  intro id info carried
  simp [Document.info?, Document.node?, Document.empty] at carried

theorem Consistent.mirrors (consistent : s.Consistent) (echoes : Echoes sort list told)
    (sorted : sort (s.walkUnit file lines).registry.active)
    (mirrors : s.document.Mirrors list told) :
    (s.walkUnit file lines).document.Mirrors list told :=
  Walk.Moves.mirrors echoes (walkUnit_moves_any s file lines) s.enter_sound consistent.baseline
    sorted mirrors

/-- **The word lists** of the items mirror the children in every session. -/
theorem Reachable.mirrors_words (reached : s.Reachable) (words : WordList) :
    s.document.Mirrors (·.words words) (Node.entriesAs (Walk.WordList.kind words).tag) := by
  have both : s.Consistent
      ∧ s.document.Mirrors (·.words words) (Node.entriesAs (Walk.WordList.kind words).tag) := by
    refine reached.induction (fun mode => ?_) (fun s file lines known => ?_) fun s known => ?_
    · exact ⟨consistent_fresh mode, mirrors_empty _ _⟩
    · obtain ⟨consistent, mirrors⟩ := known
      exact ⟨consistent.walkUnit file lines,
        consistent.mirrors (echoes_words words) trivial mirrors⟩
    · obtain ⟨consistent, mirrors⟩ := known
      exact ⟨⟨consistent.active, consistent.active, consistent.named⟩, mirrors⟩
  exact both.2

/-- A unit that does not redefine the titles of further names keeps their rules. -/
theorem keepsAliases_of_not_mem {table : RuleTable} (kept : table.KeepsAliases)
    {definitions : List (String × Rule)}
    (spared : ∀ title rule, IsAliasTitle title → (title, rule) ∉ definitions) :
    (table.override definitions).KeepsAliases := by
  intro title rule isTitle found
  rw [RuleTable.lookup?_override_of_not_mem table fun other => spared title other isTitle] at found
  exact kept title rule isTitle found

/-- The further names of the items mirror the children, and the next unit finds the rules of their
    titles as they were. -/
structure MirrorsAliases (s : Session) : Prop where
  consistent : s.Consistent
  kept : s.registry.baseline.KeepsAliases
  mirrors : s.document.Mirrors (·.aliases) Node.furtherNames

/-- Whether the rules of the unit are to last or not. -/
theorem MirrorsAliases.walkUnit (known : s.MirrorsAliases)
    (spared : ∀ title rule, IsAliasTitle title → (title, rule) ∉ definitionsIn file lines) :
    (s.walkUnit file lines).toSession.MirrorsAliases
      ∧ (s.walkUnit file lines).toSession.commit.MirrorsAliases := by
  obtain ⟨-, -, rules⟩ := s.walkUnit_rules file lines
  have active : (s.walkUnit file lines).registry.active.KeepsAliases := by
    rw [congrArg Registry.active rules]
    exact keepsAliases_of_not_mem known.kept spared
  have baseline : (s.walkUnit file lines).registry.baseline.KeepsAliases := by
    rw [congrArg Registry.baseline rules]
    exact known.kept
  have consistent := known.consistent.walkUnit file lines
  have mirrors := known.consistent.mirrors echoes_aliases active known.mirrors
  exact ⟨⟨consistent, baseline, mirrors⟩,
    ⟨⟨consistent.active, consistent.active, consistent.named⟩, active, mirrors⟩⟩

theorem MirrorsAliases.after (known : s.MirrorsAliases) {calls : List Call}
    (spared : ∀ c ∈ calls, ∀ title, IsAliasTitle title → ¬ c.Redefines s.mode title) :
    (s.after calls).MirrorsAliases := by
  refine after_of_units (fun s file lines known spared => known.walkUnit spared) known ?_
  exact fun c mem title rule isTitle defined => spared c mem title isTitle ⟨rule, defined⟩

/-- The default definitions are of three titles. -/
theorem not_mem_defaults {title : String} (other : title ∉ ["Text", "Description", "Usage"])
    (rule : Rule) : (title, rule) ∉ definitionsIn defaultsSource defaultDefinitions := by
  have titles : (definitionsIn defaultsSource defaultDefinitions).map (·.1)
      = ["Text", "Description", "Usage"] := by
    decide +kernel
  rw [← titles] at other
  exact fun mem => other (List.mem_map.mpr ⟨_, mem, rfl⟩)

theorem mirrorsAliases_start (mode : Mode) : (start mode).MirrorsAliases := by
  have builtin : RuleTable.KeepsAliases Registry.builtinRules := by
    rintro title rule (rfl | rfl) found <;> cases found <;> rfl
  have spared : ∀ title rule, IsAliasTitle title →
      (title, rule) ∉ definitionsIn defaultsSource defaultDefinitions := by
    rintro title rule (rfl | rfl) <;> exact not_mem_defaults (by decide) rule
  have fresh : MirrorsAliases { mode } := ⟨consistent_fresh mode, builtin, mirrors_empty _ _⟩
  exact (fresh.walkUnit spared).2

end Session

/-! ## Blocks that are refused -/

/-- The items are the same nodes, with the same children and the same information. -/
def Document.KeepsItemNodes (doc after : Document) : Prop :=
  ∀ id node, node.tag = .item → (after.node? id = some node ↔ doc.node? id = some node)

namespace Walk

variable {base id : Nat} {w : Walk}

theorem readyFor_sameItem (sound : w.Sound base) (isItem : w.document.tag? id = some .item)
    (title : String) (origin : Origin) : w.SameItem (w.readyFor title origin) id := by
  unfold readyFor
  split
  · exact prepareItem_sameItem sound isItem origin
  · split
    · unfold readyForLeaf placeFor
      split
      · exact .refl w id
      · split
        · exact .refl w id
        · exact .refl w id
        · exact ensureFile_sameItem isItem origin
        · exact .refl w id
    · exact .refl w id

/-- Opening containers ahead adds no item and no child of one. -/
theorem readyFor_keepsItemNodes (sound : w.Sound base) (title : String) (origin : Origin) :
    w.document.KeepsItemNodes (w.readyFor title origin).document := by
  intro id node isItem
  have same : w.document.tag? id = some .item →
      (w.readyFor title origin).document.node? id = w.document.node? id :=
    fun old => (readyFor_sameItem sound old title origin).node
  constructor
  · intro found
    have tagged : (w.readyFor title origin).document.tag? id = some .item := by
      rw [Document.tag?, found, Option.map_some, isItem]
    cases before : w.document.node? id with
    | none =>
      -- the nodes that have been added are no items
      have new : w.document.size ≤ id := List.getElem?_eq_none_iff.mp before
      rcases readyFor_added sound new tagged with file | sect
      · cases file
      · cases sect
    | some old =>
      obtain ⟨children, kept⟩ := (readyFor_undisturbed w title origin).1.nodes id old before
      have oldTag : w.document.tag? id = some .item := by
        rw [Document.tag?, kept, Option.map_some] at tagged
        rw [Document.tag?, before, Option.map_some]
        exact tagged
      rw [← before, ← same oldTag, found]
  · intro found
    have tagged : w.document.tag? id = some .item := by
      rw [Document.tag?, found, Option.map_some, isItem]
    rw [same tagged, found]

end Walk

/-- Under an open item a leaf has nothing opened for it. -/
theorem Walk.readyForLeaf_of_item {w : Walk} {base item : Nat} (sound : w.Sound base)
    (opened : w.scope.item = some item) (title : String) (origin : Origin) :
    w.readyForLeaf title origin = w := by
  have parent := Scope.Sound.parent_of_item sound opened
  unfold readyForLeaf
  split
  · rfl
  · exact placeFor_of_place (fun shut => by simp [parent] at shut) origin

/-- **A header that is refused** leaves every item with its children and its lists. -/
theorem Visit.keepsItemNodes_of_rejected {v : Visit} {cause : Cause} {base : Nat}
    (sound : v.walk.Sound base) (refused : v.verdict = .rejected cause) :
    v.walk.document.KeepsItemNodes v.settled.document := by
  rw [v.settled_of_rejected refused, Visit.ready]
  cases Body.ofLines v.rest with
  | error n => exact fun id node isItem => Iff.rfl
  | ok body => exact Walk.readyFor_keepsItemNodes sound v.header.title v.origin

/-! ## Items and their children -/

namespace Session

/-- **The lists of an item mirror its children.**  In every session the topics of an item are the
    entries of its children of kind Topics, in order, and its cross-references those of its children
    of kind SeeAlso.  If none of the units has redefined `Alias` or `Aliases`, its further names are
    those that its children with these titles list, each child every name once.  A header or a
    heading that is refused leaves every item as it is, with its children and its lists, and adds
    none. -/
theorem items_mirror_children (mode : Mode) (calls : List Call) :
    let s := (start mode).after calls
    (∀ id node info, s.document.node? id = some node → node.itemInfo? = some info →
        info.topics = s.document.gather (Node.entriesAs .topics) id
          ∧ info.seeAlso = s.document.gather (Node.entriesAs .seeAlso) id
          ∧ ((∀ c ∈ calls, ∀ title, IsAliasTitle title → ¬ c.Redefines mode title) →
              info.aliases = s.document.gather Node.furtherNames id))
      ∧ ∀ file lines, ∀ v ∈ s.visits file lines,
          (∀ cause, v.verdict = .rejected cause →
              v.walk.document.KeepsItemNodes v.settled.document)
            ∧ ∀ h ∈ v.headings, ∀ cause, h.verdict = .rejected cause →
                h.walk.document.KeepsItemNodes h.settled.document := by
  intro s
  have reached : s.Reachable := (reachable_start mode).after calls
  refine ⟨fun id node info found isItem => ?_, fun file lines v met => ⟨?_, ?_⟩⟩
  · have carried : s.document.info? id = some info := by
      rw [Document.info?, found, Option.bind_some, isItem]
    refine ⟨reached.mirrors_words .topics id info carried,
      reached.mirrors_words .seeAlso id info carried, fun spared => ?_⟩
    have spared : ∀ c ∈ calls, ∀ title, IsAliasTitle title →
        ¬ c.Redefines (start mode).mode title := by
      rwa [(start_settings mode).1]
    exact ((mirrorsAliases_start mode).after spared).mirrors id info carried
  · exact fun cause refused => Visit.keepsItemNodes_of_rejected (visit_sound met) refused
  · intro h mem cause refused
    obtain ⟨inner, item, -, opened⟩ := Visit.of_mem_headings (visit_sound met) mem
    rw [h.settled_of_rejected refused, Walk.readyForLeaf_of_item inner opened]
    exact fun id node isItem => Iff.rfl

/-- A name that is given twice counts once, and the list with a name that is taken not at all. -/
theorem items_mirror_children_refused_alias :
    let s := (start {}).after [.readLines
      ["// Function: f()", "// Topics: a, b", "//   c", "// Aliases: g, g, h", "// Alias: i, f()",
       "// Topics: d"] "a"]
    ∃ info, s.document.info? 2 = some info
      ∧ info.topics = ["a", "b", "c", "d"]
      ∧ info.topics = s.document.gather (Node.entriesAs .topics) 2
      ∧ info.aliases = ["g", "h"]
      ∧ info.aliases = s.document.gather Node.furtherNames 2 := by
  intro s
  have facts : s.document.info? 2
      = some { aliases := ["g", "h"], topics := ["a", "b", "c", "d"] } := by decide +kernel
  obtain ⟨node, found, isItem⟩ := Option.bind_eq_some_iff.mp facts
  obtain ⟨topics, -, aliases⟩ := (items_mirror_children {} _).1 2 node _ found isItem
  refine ⟨_, facts, rfl, topics, rfl, aliases ?_⟩
  have none : definitionsIn "a" ["// Function: f()", "// Topics: a, b", "//   c",
      "// Aliases: g, g, h", "// Alias: i, f()", "// Topics: d"] = [] := by decide +kernel
  rintro c mem title - ⟨rule, defined⟩
  obtain rfl := List.mem_singleton.mp mem
  have defined : (title, rule) ∈ definitionsIn "a" ["// Function: f()", "// Topics: a, b", "//   c",
      "// Aliases: g, g, h", "// Alias: i, f()", "// Topics: d"] := defined
  rw [none] at defined
  cases defined

end Session

end DocComments
