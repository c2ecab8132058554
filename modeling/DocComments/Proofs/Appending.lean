/-
  Reading only appends.

  What a unit adds to a document is told by `Document.Unit`: the old nodes are untouched, in all
  their fields, and every new node hangs below the first new one.  `Walk.Appends` adds the roots,
  the names and the log; every move keeps it (`Move.appends`), because every number that a move
  changes is an open container of the unit.

  At the end of a unit (`walkUnit_appends`) it tells what the outcome of a call reports: the root is
  the first new node, and the names and the entries are all that the index and the log have got.
-/
import DocComments.Proofs.Calls
import DocComments.Proofs.Reading

namespace DocComments

/-! ## Documents -/

/-- The document has grown out of the old one by one unit: the old nodes are as they were, and the
    new ones stand below the first of them and name places of the unit. -/
structure Document.Unit (here : Origin → Prop) (old doc : Document) : Prop where
  kept : ∀ id, id < old.size → doc.node? id = old.node? id
  added : ∀ id node, old.size ≤ id → doc.node? id = some node →
    doc.rootOf id = old.size ∧ here node.origin

namespace Document.Unit

variable {here : Origin → Prop} {old doc : Document}

theorem refl (here : Origin → Prop) (doc : Document) : Document.Unit here doc doc where
  kept _ _ := rfl
  added _ _ le found := absurd (lt_of_node? found) (Nat.not_lt.mpr le)

/-- The first node of a unit. -/
theorem addRoot (unit : Document.Unit here old doc) (none : doc.size = old.size) {node : Node}
    (place : here node.origin) : Document.Unit here old (doc.addRoot node) where
  kept id below := by rw [node?_addRoot, if_neg (by omega), unit.kept id below]
  added id new from_ found := by
    have lt := lt_of_node? found
    rw [size_addRoot] at lt
    obtain rfl : id = doc.size := by omega
    rw [node?_addRoot, if_pos rfl] at found
    cases found
    exact ⟨by rw [rootOf_eq_self (by rw [parent?_addRoot, if_pos rfl]), none], place⟩

/-- A further node below a node of the unit. -/
theorem addChild (unit : Document.Unit here old doc) {parent : Nat} (le : old.size ≤ parent)
    (lt : parent < doc.size) {node : Node} (place : here node.origin) :
    Document.Unit here old (doc.addChild parent node) where
  kept id below := by
    have ne : parent ≠ id := by omega
    rw [node?_addChild doc lt, if_neg (by omega), ← unit.kept id below]
    simp [ne]
  added id new from_ found := by
    have grows := doc.grows_addChild lt node
    rw [node?_addChild doc lt] at found
    split at found
    · rename_i last
      cases found
      -- the way up from the new node leads through `parent`, a node of the unit
      obtain ⟨root, -⟩ := unit.added parent _ le (List.getElem?_eq_getElem lt)
      refine ⟨?_, place⟩
      have up : (doc.addChild parent node).parent? id = some parent := by
        rw [parent?_addChild doc lt, if_pos last]
      rw [rootOf_eq_rootOf up, rootOf_of_grows grows parent lt, root]
    · obtain ⟨before, there, rfl⟩ := Option.map_eq_some_iff.mp found
      obtain ⟨root, origin⟩ := unit.added id before from_ there
      refine ⟨?_, ?_⟩
      · rw [rootOf_of_grows grows id (lt_of_node? there), root]
      · split <;> exact origin

/-- New information on a node of the unit. -/
theorem mapKind (unit : Document.Unit here old doc) {id : Nat} (le : old.size ≤ id)
    (f : NodeKind → NodeKind) (grows : doc.Grows (doc.mapKind id f)) :
    Document.Unit here old (doc.mapKind id f) where
  kept i below := by
    have ne : id ≠ i := by omega
    rw [node?_mapKind, ← unit.kept i below]
    simp [ne]
  added i node from_ found := by
    rw [node?_mapKind] at found
    obtain ⟨before, there, rfl⟩ := Option.map_eq_some_iff.mp found
    obtain ⟨root, origin⟩ := unit.added i before from_ there
    refine ⟨?_, ?_⟩
    · rw [rootOf_of_grows grows i (lt_of_node? there), root]
    · split <;> exact origin

end Document.Unit

/-! ## Walks -/

namespace Walk

/-- What a walk has added since it entered its unit from the session. -/
structure Appends (here : Origin → Prop) (s : Session) (w : Walk) : Prop where
  unit : Document.Unit here s.document w.document
  roots : w.document.roots = s.document.roots ++ w.scope.file.toList
  closed : w.scope.file = none → w.document.size = s.document.size
  first : ∀ file, w.scope.file = some file → file = s.document.size
  names : s.index.names <+: w.index.names
  entries : s.log.entries <+: w.log.entries

variable {here : Origin → Prop} {mine : String → Prop} {s : Session} {w after : Walk}

/-- Changes that leave the document and the file alone. -/
theorem Appends.aside (appends : w.Appends here s) (document : after.document = w.document)
    (file : after.scope.file = w.scope.file) (names : w.index.names <+: after.index.names)
    (entries : w.log.entries <+: after.log.entries) : after.Appends here s where
  unit := document ▸ appends.unit
  roots := by rw [document, file, appends.roots]
  closed h := by rw [document, appends.closed (file ▸ h)]
  first id h := appends.first id (file ▸ h)
  names := appends.names.trans names
  entries := appends.entries.trans entries

/-- Changes of the document below an open file. -/
theorem Appends.below (appends : w.Appends here s) {file : Nat} (opened : w.scope.file = some file)
    (unit : Document.Unit here s.document after.document)
    (roots : after.document.roots = w.document.roots) (same : after.scope.file = w.scope.file)
    (names : w.index.names <+: after.index.names)
    (entries : after.log = w.log) : after.Appends here s where
  unit := unit
  roots := by rw [roots, same, appends.roots]
  closed h := by simp [same, opened] at h
  first id h := appends.first id (same ▸ h)
  names := appends.names.trans names
  entries := entries ▸ appends.entries

/-- A new child below an open container, with whatever it brings to the information of that
    container. -/
theorem Appends.child (appends : w.Appends here s) {parent : Nat} {tag : KindTag}
    (held : w.document.Holds s.document.size parent tag) (node : Node)
    (place : here node.origin) (f : ItemInfo → ItemInfo) :
    Document.Unit here s.document (w.document.addChild parent node)
      ∧ Document.Unit here s.document ((w.document.addChild parent node).mapItem parent f)
      ∧ ∃ file, w.scope.file = some file := by
  have unit := appends.unit.addChild held.1 (Document.lt_of_tag? held.2) place
  refine ⟨unit, unit.mapKind held.1 _ (Document.grows_mapItem ..), ?_⟩
  cases opened : w.scope.file with
  | some file => exact ⟨file, rfl⟩
  | none =>
    -- a unit without a file has no node, and `parent` is one
    have size := appends.closed opened
    have lt := Document.lt_of_tag? held.2
    have := held.1
    omega

/-- **Every move only appends.** -/
theorem Move.appends (move : Move here mine w after) (sound : w.Sound s.document.size)
    (appends : w.Appends here s) : after.Appends here s := by
  cases move with
  | note entry place =>
    exact appends.aside rfl rfl (List.prefix_refl _) (List.prefix_append ..)
  | close =>
    unfold closeItem
    split
    · exact appends
    · exact appends.aside rfl rfl (List.prefix_refl _) (List.prefix_refl _)
  | define title rule plain =>
    exact appends.aside rfl rfl (List.prefix_refl _) (List.prefix_refl _)
  | configure project => exact appends.aside rfl rfl (List.prefix_refl _) (List.prefix_refl _)
  | file node shut place kind =>
    have size := appends.closed shut
    refine ⟨appends.unit.addRoot size place, ?_, nofun, ?_, appends.names, appends.entries⟩
    · simp [appends.roots, shut]
    · rintro _ ⟨⟩
      exact size
  | describe file f opened =>
    have held := Scope.Sound.file sound file opened
    exact appends.below opened (appends.unit.mapKind held.1 _ (Document.grows_mapFile ..)) rfl rfl
      (List.prefix_refl _) rfl
  | sect file node opened place kind =>
    obtain ⟨unit, -⟩ := appends.child (Scope.Sound.file sound file opened) node place id
    exact appends.below opened unit (Document.roots_addChild ..) rfl (List.prefix_refl _) rfl
  | subsect sect node opened place kind named =>
    obtain ⟨unit, -, file, there⟩ :=
      appends.child (Scope.Sound.sect sound sect opened).1 node place id
    exact appends.below there unit (Document.roots_addChild ..) rfl (List.prefix_refl _) rfl
  | item container block opened place name named free =>
    obtain ⟨tag, held⟩ := Scope.Sound.container_holds sound opened
    obtain ⟨unit, -, file, there⟩ :=
      appends.child held (block.node (.item {})) place id
    rw [addItem_eq free]
    exact appends.below there unit (Document.roots_addChild ..) rfl (List.prefix_append ..) rfl
  | image item kind node opened place leaf =>
    obtain ⟨unit, -, file, there⟩ :=
      appends.child (Scope.Sound.item sound item opened).1 node place id
    exact appends.below there unit (Document.roots_addChild ..) rfl (List.prefix_refl _) rfl
  | words item list block opened place =>
    obtain ⟨-, unit, file, there⟩ :=
      appends.child (Scope.Sound.item sound item opened).1
        (block.node (WordList.kind list)) place (addWords list (wordsOf block))
    exact appends.below there unit (Document.roots_addChild ..) rfl (List.prefix_refl _) rfl
  | leaf parent rule block opened found admits hook place =>
    obtain ⟨tag, held⟩ := Scope.Sound.parent_holds sound opened
    obtain ⟨unit, -, file, there⟩ :=
      appends.child held (block.node (.leaf rule.kind)) place id
    exact appends.below there unit (Document.roots_addChild ..) rfl (List.prefix_refl _) rfl
  | status parent rule block opened found admits hook place =>
    obtain ⟨tag, held⟩ := Scope.Sound.parent_holds sound opened
    obtain ⟨-, unit, file, there⟩ :=
      appends.child held (block.node (.leaf rule.kind)) place
        (setDeprecated (Text.contains block.subtitle "DEPRECATED"))
    exact appends.below there unit (Document.roots_addChild ..) rfl (List.prefix_refl _) rfl
  | aliases parent rule block names opened found admits hook place given owned free =>
    obtain ⟨tag, held⟩ := Scope.Sound.parent_holds sound opened
    obtain ⟨-, unit, file, there⟩ :=
      appends.child held (block.node (.leaf rule.kind)) place (addAliases names)
    exact appends.below there unit (Document.roots_addChild ..) rfl (List.prefix_append ..) rfl

theorem Moves.appends (moves : Moves here mine w after) (sound : w.Sound s.document.size)
    (appends : w.Appends here s) : after.Appends here s := by
  induction moves with
  | refl => exact appends
  | tail before move ih => exact move.appends (Moves.sound before sound) ih

end Walk

/-! ## Calls -/

namespace Session

theorem enter_appends (here : Origin → Prop) (s : Session) : s.enter.Appends here s where
  unit := Document.Unit.refl here s.document
  roots := (List.append_nil _).symm
  closed _ := rfl
  first _ opened := nomatch opened
  names := List.prefix_refl _
  entries := List.prefix_refl _

/-- **A unit only appends**, and what it appends names places of the unit. -/
theorem walkUnit_appends (s : Session) (file : String) (lines : List String) :
    (s.walkUnit file lines).Appends (fun origin => origin.file = file) s :=
  Walk.Moves.appends (walkUnit_moves (fun _ _ => rfl) fun _ _ => registers_any _ _) s.enter_sound
    (s.enter_appends _)

theorem walkUnit_sound (s : Session) (file : String) (lines : List String) :
    (s.walkUnit file lines).Sound s.document.size :=
  Walk.Moves.sound (walkUnit_moves_any s file lines) s.enter_sound

/-- **Reading only appends.**  The nodes that were there are untouched.  No node is added without a
    root; otherwise the new nodes are those from the root on, the root is the one new file, and
    every new node stands below it and names the unit.  The names and the log entries that the
    outcome reports are all that the index and the log have got. -/
theorem call_appends (s : Session) (c : Call) :
    let after := (s.call c).1
    let outcome := (s.call c).2
    (∀ id, id < s.document.size → after.document.node? id = s.document.node? id)
      ∧ (outcome.root = none ↔ after.document.size = s.document.size)
      ∧ (outcome.root = none → after.document.roots = s.document.roots)
      ∧ (∀ root, outcome.root = some root →
          root = s.document.size ∧ root < after.document.size
            ∧ after.document.roots = s.document.roots ++ [root]
            ∧ ∀ id, root ≤ id → id < after.document.size →
                after.document.rootOf id = root
                  ∧ ∃ node, after.document.node? id = some node
                    ∧ node.origin.file = c.source s.mode)
      ∧ after.index.names = s.index.names ++ outcome.names
      ∧ after.log.entries = s.log.entries ++ outcome.entries := by
  have appends := walkUnit_appends s (c.source s.mode) c.lines
  have sound := walkUnit_sound s (c.source s.mode) c.lines
  obtain ⟨document, index, log⟩ := call_walk s c
  simp only [document, index, log, (call_eq s c).1, readLines, NameIndex.since, Log.since]
  generalize s.walkUnit (c.source s.mode) c.lines = w at appends sound
  refine ⟨appends.unit.kept, ⟨appends.closed, fun size => ?_⟩, fun shut => ?_, ?_, ?_, ?_⟩
  · cases opened : w.scope.file with
    | none => rfl
    | some file =>
      -- the file is itself a new node
      have lt := Scope.Sound.file_lt sound opened
      have first := appends.first file opened
      omega
  · simpa [shut] using appends.roots
  · intro file opened
    have lt := Scope.Sound.file_lt sound opened
    have first := appends.first file opened
    refine ⟨first, lt, by simpa [opened] using appends.roots, fun id from_ below => ?_⟩
    have found := List.getElem?_eq_getElem (l := w.document.nodes) below
    obtain ⟨top, place⟩ := appends.unit.added id _ (first ▸ from_) found
    exact ⟨top.trans first.symm, _, found, place⟩
  · exact (List.prefix_iff_eq_append.mp appends.names).symm
  · exact (List.prefix_iff_eq_append.mp appends.entries).symm

end Session

end DocComments
