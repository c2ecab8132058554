/-
  The index and the items agree on every name.

  `Named` states the agreement: a name leads to a node exactly when the node is an item that carries
  it, as its subtitle or as one of its further names.  Names get into the index on two ways, with an
  item and with a block that lists further names, and in both cases the name is examined before the
  node is added; `Named.enroll` treats the two as one.

  That further names always belong to an item is a matter of the rules: only built-in rules have a
  hook (`HooksBuiltIn`), definitions cannot make one, and the built-in ones ask for an item as
  parent.
-/
import DocComments.Proofs.Calls
import DocComments.Proofs.Reading

namespace DocComments

/-! ## Rules with a hook -/

/-- Every rule with a hook is a built-in one, at its own title. -/
def RuleTable.HooksBuiltIn (table : RuleTable) : Prop :=
  ∀ title rule, table.lookup? title = some rule → rule.hook ≠ none →
    Registry.builtinRules.lookup? title = some rule

/-- A rule without a hook can be added. -/
theorem RuleTable.HooksBuiltIn.insert {table : RuleTable} (built : table.HooksBuiltIn)
    (title : String) {rule : Rule} (plain : rule.hook = none) :
    (table.insert title rule).HooksBuiltIn := by
  intro other found lookup hooked
  by_cases same : other = title
  · subst same
    rw [RuleTable.lookup?_insert_self] at lookup
    cases lookup
    exact absurd plain hooked
  · rw [RuleTable.lookup?_insert_of_ne table rule same] at lookup
    exact built other found lookup hooked

/-- A rule that lists further names is that of `Alias` or `Aliases`, and asks for an item. -/
theorem RuleTable.HooksBuiltIn.aliases {table : RuleTable} (built : table.HooksBuiltIn)
    {title : String} {rule : Rule} (found : table.lookup? title = some rule)
    (hook : rule.hook = some .aliases) :
    (title = "Alias" ∨ title = "Aliases") ∧ rule.parent = some .item := by
  have lookup := built title rule found (by simp [hook])
  -- the built-in rules, one by one
  simp only [Registry.builtinRules, RuleTable.lookup?, List.lookup_cons, List.lookup_nil] at lookup
  split at lookup
  · cases lookup
    simp at hook
  · split at lookup
    · rename_i same
      cases lookup
      exact ⟨.inl (by simpa using same), rfl⟩
    · split at lookup
      · rename_i same
        cases lookup
        exact ⟨.inr (by simpa using same), rfl⟩
      · split at lookup
        · cases lookup
          simp at hook
        · simp at lookup

/-! ## The names of a node -/

/-- The names that a node carries: an item has its subtitle and its further names. -/
def Node.names (node : Node) : List String :=
  match node.kind with
  | .item info => node.subtitle :: info.aliases
  | _ => []

/-- The tag of an item is that of no other kind. -/
theorem Node.kind_of_tag {node : Node} (h : node.tag = .item) : ∃ info, node.kind = .item info := by
  rw [Node.tag] at h
  cases kind : node.kind with
  | item info => exact ⟨info, rfl⟩
  | leaf leaf => cases leaf <;> simp [kind, NodeKind.tag, LeafKind.tag] at h
  | _ => simp [kind, NodeKind.tag] at h

namespace Document

/-- The names that the node with a number carries. -/
def namesOf (doc : Document) (id : Nat) : List String := ((doc.node? id).map (·.names)).getD []

/-- The number after the last node has no names yet. -/
theorem namesOf_size (doc : Document) : doc.namesOf doc.size = [] := by
  rw [namesOf, node?_eq_none (Nat.le_refl _)]
  rfl

/-- A new root brings its own names. -/
theorem namesOf_addRoot (doc : Document) (node : Node) (id : Nat) :
    (doc.addRoot node).namesOf id = if id = doc.size then node.names else doc.namesOf id := by
  rw [namesOf, node?_addRoot]
  split
  · rfl
  · rfl

/-- A new child brings its own names, and takes none from its parent. -/
theorem namesOf_addChild (doc : Document) {parent : Nat} (h : parent < doc.size) (node : Node)
    (id : Nat) :
    (doc.addChild parent node).namesOf id
      = if id = doc.size then node.names else doc.namesOf id := by
  rw [namesOf, node?_addChild doc h]
  split
  · rfl
  · rw [namesOf, Option.map_map]
    congr 2
    funext old
    simp only [Function.comp_apply]
    split <;> rfl

/-- A node that is no item changes the names of none. -/
theorem namesOf_addChild_of_nameless (doc : Document) {parent : Nat} (h : parent < doc.size)
    {node : Node} (nameless : node.names = []) (id : Nat) :
    (doc.addChild parent node).namesOf id = doc.namesOf id := by
  rw [namesOf_addChild doc h, nameless]
  split
  · rename_i last
    rw [last, namesOf_size]
  · rfl

theorem namesOf_mapFile (doc : Document) (file : Nat) (f : FileInfo → FileInfo) (id : Nat) :
    (doc.mapFile file f).namesOf id = doc.namesOf id := by
  rw [namesOf, namesOf, mapFile, node?_mapKind, Option.map_map]
  congr 2
  funext node
  simp only [Function.comp_apply]
  split
  · simp only [Node.names]
    cases node.kind <;> rfl
  · rfl

/-- New information that leaves the further names alone. -/
theorem namesOf_mapItem (doc : Document) (item : Nat) {f : ItemInfo → ItemInfo}
    (keeps : ∀ info, (f info).aliases = info.aliases) (id : Nat) :
    (doc.mapItem item f).namesOf id = doc.namesOf id := by
  rw [namesOf, namesOf, mapItem, node?_mapKind, Option.map_map]
  congr 2
  funext node
  simp only [Function.comp_apply]
  split
  · simp only [Node.names]
    cases node.kind <;> simp [NodeKind.mapItem, keeps]
  · rfl

/-- Further names for an item. -/
theorem namesOf_addAliases (doc : Document) {item : Nat} (kind : doc.tag? item = some .item)
    (names : List String) (id : Nat) :
    (doc.mapItem item (Walk.addAliases names)).namesOf id
      = if id = item then doc.namesOf id ++ names else doc.namesOf id := by
  obtain ⟨node, found, tagged⟩ := Option.map_eq_some_iff.mp kind
  obtain ⟨info, isItem⟩ := Node.kind_of_tag tagged
  rw [namesOf, namesOf, mapItem, node?_mapKind]
  by_cases same : id = item
  · subst same
    simp [found, Node.names, isItem, NodeKind.mapItem, Walk.addAliases]
  · simp only [if_neg (Ne.symm same), Option.map_id', if_neg same]

end Document

/-! ## The agreement -/

/-- **The index and the items agree.** -/
structure Named (doc : Document) (index : NameIndex) : Prop where
  nodup : index.names.Nodup
  mem_names : ∀ name, name ∈ index.names ↔ ∃ id, index.lookup? name = some id
  lookup_iff : ∀ name id, index.lookup? name = some id ↔ name ∈ doc.namesOf id
  distinct : ∀ id, (doc.namesOf id).Nodup

namespace Named

variable {doc after : Document} {index : NameIndex}

/-- Nothing is named in the empty document. -/
theorem empty : Named Document.empty {} where
  nodup := List.nodup_nil
  mem_names name := by simp [NameIndex.lookup?]
  lookup_iff name id := by
    simp [NameIndex.lookup?, Document.namesOf, Document.node?, Document.empty]
  distinct id := by simp [Document.namesOf, Document.node?, Document.empty]

/-- A change that touches no names. -/
theorem same (named : Named doc index) (h : ∀ id, after.namesOf id = doc.namesOf id) :
    Named after index where
  nodup := named.nodup
  mem_names := named.mem_names
  lookup_iff name id := by rw [h, named.lookup_iff]
  distinct id := by rw [h]; exact named.distinct id

/-- Free names, each given once, go into the index and onto one node. -/
theorem enroll (named : Named doc index) {names : List String} (nodup : names.Nodup)
    (free : ∀ name ∈ names, index.lookup? name = none) {item : Nat}
    (carried : ∀ id, after.namesOf id
      = if id = item then doc.namesOf id ++ names else doc.namesOf id) :
    Named after (index.enroll names item) where
  nodup := by
    refine List.nodup_append.mpr ⟨named.nodup, nodup, ?_⟩
    rintro old there name new rfl
    obtain ⟨id, taken⟩ := (named.mem_names old).mp there
    simp [free old new] at taken
  mem_names name := by
    rw [NameIndex.lookup?_enroll]
    simp only [NameIndex.enroll, List.mem_append, named.mem_names]
    by_cases new : name ∈ names <;> simp [new]
  lookup_iff name id := by
    rw [NameIndex.lookup?_enroll, carried]
    by_cases new : name ∈ names
    · -- a free name is carried by no node yet
      have unheld : ∀ id, name ∉ doc.namesOf id := by
        intro id held
        have := (named.lookup_iff name id).mpr held
        simp [free name new] at this
      by_cases same : id = item
      · simp [new, same]
      · simp [new, same, unheld id, Ne.symm same]
    · rw [if_neg new, named.lookup_iff]
      split
      · simp [new]
      · rfl
  distinct id := by
    rw [carried]
    split
    · refine List.nodup_append.mpr ⟨named.distinct id, nodup, ?_⟩
      rintro old there name new rfl
      have taken := (named.lookup_iff old id).mpr there
      simp [free old new] at taken
    · exact named.distinct id

end Named

/-! ## Along a walk -/

namespace Walk

variable {here : Origin → Prop} {mine : String → Prop} {base : Nat} {w after : Walk}

/-- A unit changes the rules of no other, and makes no hook. -/
theorem Move.rules (move : Move here mine w after) :
    after.registry.baseline = w.registry.baseline
      ∧ (w.registry.active.HooksBuiltIn → after.registry.active.HooksBuiltIn) := by
  cases move with
  | define title rule plain => exact ⟨rfl, fun built => built.insert _ plain⟩
  | close =>
    rw [closeItem_toSession]
    exact ⟨rfl, fun built => built⟩
  | _ => exact ⟨rfl, fun built => built⟩

/-- No move touches the baseline, and none adds a hook to the rules. -/
theorem Moves.rules (moves : Moves here mine w after) :
    after.registry.baseline = w.registry.baseline
      ∧ (w.registry.active.HooksBuiltIn → after.registry.active.HooksBuiltIn) := by
  induction moves with
  | refl => exact ⟨rfl, fun built => built⟩
  | tail _ move ih => exact ⟨move.rules.1.trans ih.1, fun built => move.rules.2 (ih.2 built)⟩

/-- **Every move keeps the index and the items in agreement.**  Two of them bring names; the others
    leave the names of every node as they are. -/
theorem Move.named (move : Move here mine w after) (sound : w.Sound base)
    (built : w.registry.active.HooksBuiltIn) (named : Named w.document w.index) :
    Named after.document after.index := by
  cases move with
  | note entry place => exact named
  | close =>
    rw [closeItem_toSession]
    exact named
  | define title rule plain => exact named
  | configure project => exact named
  | file node shut place kind =>
    refine named.same fun id => ?_
    have nameless : node.names = [] := by rw [Node.names, kind]
    simp only [Document.namesOf_addRoot, nameless]
    split
    · rename_i last
      rw [last, Document.namesOf_size]
    · rfl
  | describe file f opened => exact named.same fun id => Document.namesOf_mapFile _ file f id
  | sect file node opened place kind =>
    have lt := Scope.Sound.file_lt sound opened
    exact named.same fun id =>
      Document.namesOf_addChild_of_nameless _ lt (by rw [Node.names, kind]) id
  | subsect sect node opened place kind nonempty =>
    have lt := Scope.Sound.sect_lt sound opened
    exact named.same fun id =>
      Document.namesOf_addChild_of_nameless _ lt (by rw [Node.names, kind]) id
  | item container block opened place name nonempty free =>
    have lt := Scope.Sound.container_lt sound opened
    rw [addItem_eq free]
    refine named.enroll (by simp) (by simpa using free) fun id => ?_
    simp only [Document.namesOf_addChild _ lt]
    split
    · rename_i last
      rw [last, Document.namesOf_size]
      rfl
    · rfl
  | image item kind node opened place leaf =>
    have lt := Scope.Sound.item_lt sound opened
    exact named.same fun id =>
      Document.namesOf_addChild_of_nameless _ lt (by rw [Node.names, leaf]) id
  | words item list block opened place =>
    have lt := Scope.Sound.item_lt sound opened
    refine named.same fun id => ?_
    rw [Document.namesOf_mapItem _ item (fun info => by cases list <;> rfl),
      Document.namesOf_addChild_of_nameless _ lt (by cases list <;> rfl)]
  | leaf parent rule block opened found admits hook place =>
    exact named.same fun id =>
      Document.namesOf_addChild_of_nameless _ (Scope.Sound.parent_lt sound opened) rfl id
  | status parent rule block opened found admits hook place =>
    refine named.same fun id => ?_
    rw [Document.namesOf_mapItem _ parent (f := setDeprecated _) (fun _ => rfl),
      Document.namesOf_addChild_of_nameless _ (Scope.Sound.parent_lt sound opened) rfl]
  | aliases parent rule block names opened found admits hook place given owned free =>
    have lt := Scope.Sound.parent_lt sound opened
    -- the hook is a built-in one, so the parent is an item and can carry the names
    have kind : (w.document.addChild parent (block.node (.leaf rule.kind))).tag? parent
        = some .item := by
      rw [(w.document.grows_addChild lt _).tag?_eq parent lt]
      exact admits _ (built.aliases found hook).2
    refine named.enroll (given ▸ nodup_eraseDups _) free fun id => ?_
    rw [Document.namesOf_addAliases _ kind, Document.namesOf_addChild_of_nameless _ lt rfl]

/-- **Every move** keeps the index and the document in step. -/
theorem Moves.named (moves : Moves here mine w after) (sound : w.Sound base)
    (built : w.registry.active.HooksBuiltIn) (named : Named w.document w.index) :
    Named after.document after.index := by
  induction moves with
  | refl => exact named
  | tail before move ih =>
    exact move.named (Moves.sound before sound) ((Moves.rules before).2 built) ih

end Walk

/-! ## Every session -/

/-- The rules of the session make no hook that is not built in, and its index and its items
    agree. -/
structure Session.Consistent (s : Session) : Prop where
  baseline : s.registry.baseline.HooksBuiltIn
  active : s.registry.active.HooksBuiltIn
  named : Named s.document s.index

/-- **A unit** leaves the session consistent. -/
theorem Session.Consistent.walkUnit {s : Session} (consistent : s.Consistent) (file : String)
    (lines : List String) : (s.walkUnit file lines).Consistent := by
  have moves := walkUnit_moves_any s file lines
  obtain ⟨kept, hooks⟩ := Walk.Moves.rules moves
  have built : s.enter.registry.active.HooksBuiltIn := consistent.baseline
  exact ⟨kept ▸ consistent.baseline, hooks built,
    Walk.Moves.named moves s.enter_sound built consistent.named⟩

theorem Session.consistent_fresh (mode : Mode) : Session.Consistent { mode } := by
  have builtin : RuleTable.HooksBuiltIn Registry.builtinRules := fun _ _ found _ => found
  exact ⟨builtin, builtin, Named.empty⟩

/-- **Every session that can be reached** is consistent. -/
theorem Session.Reachable.consistent {s : Session} (reached : s.Reachable) : s.Consistent := by
  refine reached.induction Session.consistent_fresh
    (fun s file lines consistent => consistent.walkUnit file lines) fun s consistent => ?_
  exact ⟨consistent.active, consistent.active, consistent.named⟩

/-- The node is an item, and the name is its subtitle or one of its further names. -/
def Document.Carries (doc : Document) (id : Nat) (name : String) : Prop :=
  ∃ node info, doc.node? id = some node ∧ node.itemInfo? = some info
    ∧ (name = node.subtitle ∨ name ∈ info.aliases)

/-- The names of a node are those it carries. -/
theorem Document.mem_namesOf {doc : Document} {id : Nat} {name : String} :
    name ∈ doc.namesOf id ↔ doc.Carries id name := by
  rw [namesOf, Carries]
  cases found : doc.node? id with
  | none => simp
  | some node =>
    rw [Option.map_some, Option.getD_some, Node.names]
    cases kind : node.kind <;> simp [Node.itemInfo?, kind]

/-- **The names of every session.**  The index holds each name once; it leads to exactly the items
    that carry the name, so no two items share one, and no item gives a name twice. -/
theorem Session.names_of_reachable {s : Session} (reached : s.Reachable) :
    s.index.names.Nodup
      ∧ (∀ name, name ∈ s.index.names ↔ ∃ id, s.index.lookup? name = some id)
      ∧ (∀ name id, s.index.lookup? name = some id ↔ s.document.Carries id name)
      ∧ (∀ name id other, s.document.Carries id name → s.document.Carries other name → id = other)
      ∧ ∀ id node info, s.document.node? id = some node → node.itemInfo? = some info →
          info.aliases.Nodup ∧ node.subtitle ∉ info.aliases := by
  have named := reached.consistent.named
  have leads : ∀ name id, s.index.lookup? name = some id ↔ s.document.Carries id name :=
    fun name id => (named.lookup_iff name id).trans Document.mem_namesOf
  refine ⟨named.nodup, named.mem_names, leads, ?_, ?_⟩
  · intro name id other held also
    have first := (leads name id).mpr held
    rw [(leads name other).mpr also] at first
    exact (Option.some.inj first).symm
  · intro id node info found isItem
    have distinct := named.distinct id
    have kind : node.kind = .item info := by
      rw [Node.itemInfo?] at isItem
      split at isItem
      · rename_i kind
        rw [kind, Option.some.inj isItem]
      · simp at isItem
    rw [Document.namesOf, found, Option.map_some, Option.getD_some, Node.names, kind] at distinct
    obtain ⟨own, further⟩ := List.nodup_cons.mp distinct
    exact ⟨further, own⟩

/-- An item with two further names.  The next item asks for one of them and is refused. -/
theorem Session.names_of_reachable_aliases :
    let s := (start {}).after
      [.readLines ["// Function: f()", "// Alias: g, h", "// Function: g"] "a"]
    s.index.names = ["f()", "g", "h"] ∧ s.index.names.Nodup ∧ s.document.Carries 2 "h" := by
  have reached : Reachable ((start {}).after
      [.readLines ["// Function: f()", "// Alias: g, h", "// Function: g"] "a"]) :=
    ⟨{}, _, rfl⟩
  obtain ⟨nodup, -, leads, -⟩ := names_of_reachable reached
  exact ⟨by decide +kernel, nodup, (leads "h" 2).mp (by decide +kernel)⟩

end DocComments
