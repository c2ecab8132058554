/-
  An item that is not open is never changed again.

  All that a unit does to an item, it does through the scope: what is added to an item, said about
  it or named after it goes to the item that is open.  So an item that is there and not open stays
  as it is (`Move.closed`), in its node and in its names, and no move opens it again; along any walk
  it is frozen (`Moves.closed`).

  An item header that is refused leaves no item open, so all items before it are frozen
  (`frozen_of_closed`).  One refusal is different: where the body is under-indented the header is not
  handled at all, and an item that is open stays open (`items_of_refused`).
-/
import DocComments.Proofs.Refusal

namespace DocComments.Walk

variable {here : Origin → Prop} {mine : String → Prop} {base id : Nat} {w after : Walk}

/-- The node is an item, and it is not the open one. -/
structure Closed (w : Walk) (id : Nat) : Prop where
  isItem : w.document.tag? id = some .item
  shut : w.scope.item ≠ some id

/-- The item is the same in both walks: the node with all its fields, and the names that lead to
    it. -/
structure SameItem (w after : Walk) (id : Nat) : Prop where
  node : after.document.node? id = w.document.node? id
  names : ∀ name, after.index.lookup? name = some id ↔ w.index.lookup? name = some id

theorem SameItem.refl (w : Walk) (id : Nat) : w.SameItem w id := ⟨rfl, fun _ => Iff.rfl⟩

theorem SameItem.trans {mid : Walk} (first : w.SameItem mid id) (second : mid.SameItem after id) :
    w.SameItem after id :=
  ⟨second.node.trans first.node, fun name => (second.names name).trans (first.names name)⟩

/-! ## What other nodes do to an item -/

theorem node?_addChild_of_ne (doc : Document) {parent : Nat} (lt : id < doc.size)
    (other : parent ≠ id) (node : Node) : (doc.addChild parent node).node? id = doc.node? id := by
  by_cases there : parent < doc.size
  · rw [Document.node?_addChild doc there, if_neg (Nat.ne_of_lt lt)]
    simp [other]
  · rw [Document.addChild, dif_neg there]

theorem node?_mapKind_of_ne (doc : Document) {changed : Nat} (other : changed ≠ id)
    (f : NodeKind → NodeKind) : (doc.mapKind changed f).node? id = doc.node? id := by
  rw [Document.node?_mapKind]
  simp [other]

/-- New names for another node lead to no item that was there. -/
theorem lookup?_enroll_of_ne {index : NameIndex} {names : List String}
    (free : ∀ name ∈ names, index.lookup? name = none) {owner : Nat} (other : owner ≠ id)
    (name : String) :
    (index.enroll names owner).lookup? name = some id ↔ index.lookup? name = some id := by
  rw [NameIndex.lookup?_enroll]
  split
  · rename_i mem
    simp [free name mem, other]
  · rfl

namespace Closed

variable {parent : Nat} {tag : KindTag}

theorem lt (closed : w.Closed id) : id < w.document.size := Document.lt_of_tag? closed.isItem

/-- A container of another kind is another node. -/
theorem ne_of_tag (closed : w.Closed id) (held : w.document.Holds base parent tag)
    (kind : tag ≠ .item) : parent ≠ id := by
  rintro rfl
  have same := closed.isItem
  rw [held.2] at same
  exact kind (Option.some.inj same)

theorem ne_of_container (closed : w.Closed id) (sound : w.Sound base)
    (opened : w.scope.subsect.or w.scope.sect = some parent) : parent ≠ id := by
  cases sub : w.scope.subsect with
  | some other =>
    obtain rfl : other = parent := by simpa [sub] using opened
    exact closed.ne_of_tag (Scope.Sound.subsect sound other sub).1 (by decide)
  | none =>
    have sect : w.scope.sect = some parent := by simpa [sub] using opened
    exact closed.ne_of_tag (Scope.Sound.sect sound parent sect).1 (by decide)

/-- The parent is the open item, or no item. -/
theorem ne_of_parent (closed : w.Closed id) (sound : w.Sound base)
    (opened : w.scope.parent = some parent) : parent ≠ id := by
  rw [Scope.Sound.parent_eq sound, Scope.innermost] at opened
  cases item : w.scope.item with
  | some other =>
    obtain rfl : other = parent := by simpa [item] using opened
    rintro rfl
    exact closed.shut item
  | none =>
    cases container : w.scope.subsect.or w.scope.sect with
    | some other =>
      obtain rfl : other = parent := by
        rw [item, Option.none_or, ← Option.or_assoc, container] at opened
        simpa using opened
      exact closed.ne_of_container sound container
    | none =>
      rw [item, Option.none_or, ← Option.or_assoc, container] at opened
      exact closed.ne_of_tag (Scope.Sound.file sound parent (by simpa using opened)) (by decide)

/-- The walk goes on with another document and another scope, in which the item is the same. -/
theorem keep (closed : w.Closed id) (node : after.document.node? id = w.document.node? id)
    (names : ∀ name, after.index.lookup? name = some id ↔ w.index.lookup? name = some id)
    (shut : after.scope.item ≠ some id) : after.Closed id ∧ w.SameItem after id :=
  ⟨⟨by rw [Document.tag?, node]; exact closed.isItem, shut⟩, node, names⟩

end Closed

/-! ## Frozen along every walk -/

/-- **No move touches an item that is not open,** or opens it. -/
theorem Move.closed (move : Move here mine w after) (sound : w.Sound base) (closed : w.Closed id) :
    after.Closed id ∧ w.SameItem after id := by
  have new : some w.document.size ≠ some id := fun same => by
    have := closed.lt
    simp only [Option.some.injEq] at same
    omega
  have child : ∀ {parent : Nat}, parent ≠ id → ∀ node f,
      ((w.document.addChild parent node).mapItem parent f).node? id = w.document.node? id := by
    intro parent other node f
    rw [Document.mapItem, node?_mapKind_of_ne _ other, node?_addChild_of_ne _ closed.lt other]
  cases move with
  | note entry place => exact closed.keep rfl (fun _ => Iff.rfl) closed.shut
  | close =>
    refine closed.keep (by rw [closeItem_toSession]) (fun name => by rw [closeItem_toSession]) ?_
    rw [closeItem_eq sound]
    simp [Scope.shutItem]
  | define title rule plain => exact closed.keep rfl (fun _ => Iff.rfl) closed.shut
  | configure project => exact closed.keep rfl (fun _ => Iff.rfl) closed.shut
  | file node shut place kind =>
    refine closed.keep ?_ (fun _ => Iff.rfl) (by simp)
    rw [Document.node?_addRoot, if_neg (Nat.ne_of_lt closed.lt)]
  | describe file f opened =>
    have other := closed.ne_of_tag (Scope.Sound.file sound file opened) (by decide)
    exact closed.keep (node?_mapKind_of_ne _ other _) (fun _ => Iff.rfl) closed.shut
  | sect file node opened place kind =>
    have other := closed.ne_of_tag (Scope.Sound.file sound file opened) (by decide)
    exact closed.keep (node?_addChild_of_ne _ closed.lt other node) (fun _ => Iff.rfl) (by simp)
  | subsect sect node opened place kind named =>
    have other := closed.ne_of_tag (Scope.Sound.sect sound sect opened).1 (by decide)
    exact closed.keep (node?_addChild_of_ne _ closed.lt other node) (fun _ => Iff.rfl) (by simp)
  | item container block opened place name named free =>
    have other := closed.ne_of_container sound opened
    rw [addItem_eq free]
    refine closed.keep (node?_addChild_of_ne _ closed.lt other _) (fun name => ?_) new
    exact lookup?_enroll_of_ne (by simpa using free) (fun same => new (congrArg some same)) name
  | image item kind node opened place leaf =>
    have other := closed.ne_of_parent sound (Scope.Sound.parent_of_item sound opened)
    exact closed.keep (node?_addChild_of_ne _ closed.lt other node) (fun _ => Iff.rfl) closed.shut
  | words item list block opened place =>
    have other := closed.ne_of_parent sound (Scope.Sound.parent_of_item sound opened)
    exact closed.keep (child other _ _) (fun _ => Iff.rfl) closed.shut
  | leaf parent rule block opened found admits hook place =>
    have other := closed.ne_of_parent sound opened
    exact closed.keep (node?_addChild_of_ne _ closed.lt other _) (fun _ => Iff.rfl) closed.shut
  | status parent rule block opened found admits hook place =>
    have other := closed.ne_of_parent sound opened
    exact closed.keep (child other _ _) (fun _ => Iff.rfl) closed.shut
  | aliases parent rule block names opened found admits hook place given owned free =>
    have other := closed.ne_of_parent sound opened
    exact closed.keep (child other _ _) (lookup?_enroll_of_ne free other) closed.shut

/-- **An item that is not open is frozen.** -/
theorem Moves.closed (moves : Moves here mine w after) (sound : w.Sound base)
    (closed : w.Closed id) : after.Closed id ∧ w.SameItem after id := by
  induction moves with
  | refl => exact ⟨closed, .refl w id⟩
  | tail before move ih =>
    obtain ⟨still, same⟩ := move.closed (Moves.sound before sound) ih.1
    exact ⟨still, ih.2.trans same⟩

/-- The children of an item change only while the item is open. -/
theorem Moves.item_of_children (moves : Moves here mine w after) (sound : w.Sound base)
    (isItem : w.document.tag? id = some .item)
    (changed : after.document.children id ≠ w.document.children id) : w.scope.item = some id := by
  refine Decidable.byContradiction fun shut => ?_
  have same := (moves.closed sound ⟨isItem, shut⟩).2.node
  exact changed (by rw [Document.children, Document.children, same])

/-! ## Containers that are opened for an item -/

theorem ensureFile_sameItem (isItem : w.document.tag? id = some .item) (origin : Origin) :
    w.SameItem (w.ensureFile origin).1 id := by
  unfold ensureFile
  split
  · exact .refl w id
  · refine ⟨?_, fun _ => Iff.rfl⟩
    rw [Document.node?_addRoot, if_neg (Nat.ne_of_lt (Document.lt_of_tag? isItem))]

/-- The containers that an item has opened for it are added elsewhere, whichever item is open. -/
theorem prepareItem_sameItem (sound : w.Sound base) (isItem : w.document.tag? id = some .item)
    (origin : Origin) : w.SameItem (w.prepareItem origin).1 id := by
  have filed := ensureFile_sameItem isItem origin
  obtain ⟨leads, opened⟩ := ensureFile_leads sound origin
  have held := Scope.Sound.file (leads.sound sound) _ opened
  have lt : id < (w.ensureFile origin).1.document.size :=
    Nat.lt_of_lt_of_le (Document.lt_of_tag? isItem) (leads.grows sound).size_le
  simp only [prepareItem, ensureSect]
  split
  · exact ⟨filed.node, filed.names⟩
  · refine ⟨(node?_addChild_of_ne _ lt ?_ _).trans filed.node, filed.names⟩
    -- a File is no item
    intro same
    have kind : w.document.tag? id = some .file := by
      rw [← held.2, same, Document.tag?, Document.tag?, filed.node]
    rw [isItem] at kind
    exact absurd kind (by decide)

end DocComments.Walk

namespace DocComments

/-! ## A refused item header -/

namespace Visit

variable {v : Visit} {cause : Cause} {base : Nat}

/-- What a refused item header does to the items: all are as before, and one is open only where
    the body is under-indented. -/
theorem items_of_refused (sound : v.walk.Sound base)
    (role : TitleRole.ofTitle v.header.title = .item)
    (plain : v.walk.registry.contains v.header.title = false)
    (refused : v.verdict = .rejected cause) :
    (∀ id, v.settled.scope.item = some id
        ↔ (∃ n, Body.ofLines v.rest = .error n) ∧ v.walk.scope.item = some id)
      ∧ ∀ id, v.walk.document.tag? id = some .item → v.walk.SameItem v.settled id := by
  rw [v.settled_of_rejected refused, ready]
  cases extracted : Body.ofLines v.rest with
  | error n =>
    simp only [Except.error.injEq, exists_eq', true_and]
    exact ⟨fun _ => Iff.rfl, fun id _ => ⟨rfl, fun _ => Iff.rfl⟩⟩
  | ok body =>
    simp only [reduceCtorEq, exists_false, false_and, iff_false]
    cases awaits : v.walk.awaitsFile with
    | true =>
      -- strict mode: before a File is open, nothing is
      have ready : v.walk.readyFor v.header.title v.origin = v.walk := by
        simp [Walk.readyFor, Walk.takesItem, Walk.takesLeaf, awaits]
      have shut : v.walk.scope.file = none := by simp_all [Walk.awaitsFile]
      rw [ready]
      refine ⟨fun id => ?_, fun id _ => ⟨rfl, fun _ => Iff.rfl⟩⟩
      show v.walk.scope.item ≠ some id
      rw [Scope.Sound.eq_closed sound shut]
      simp
    | false =>
      have ready : v.walk.readyFor v.header.title v.origin = (v.walk.prepareItem v.origin).1 :=
        if_pos (by simp [Walk.takesItem, role, plain, awaits])
      rw [ready]
      refine ⟨fun id => by simp [Walk.fail, Walk.prepareItem], fun id isItem => ?_⟩
      obtain ⟨node, names⟩ := Walk.prepareItem_sameItem sound isItem v.origin
      exact ⟨node, names⟩

/-- Where reading goes on, nothing but the scope may be another. -/
theorem left_toSession (v : Visit) : v.left.toSession = v.settled.toSession := by
  unfold left
  split
  · rfl
  · split
    · rfl
    · exact Walk.closeItem_toSession _

end Visit

namespace Session

variable {s : Session} {file : String} {lines : List String} {past future : List Visit} {v : Visit}

/-- An item that is there when a header has been read, and not open, is the same at every later
    header and at the end. -/
theorem frozen_of_closed (met : s.visits file lines = past ++ v :: future) {id : Nat}
    (closed : v.left.Closed id) :
    (∀ u ∈ future, u.walk.scope.item ≠ some id ∧ v.left.SameItem u.settled id)
      ∧ v.left.SameItem (s.walkUnit file lines) id := by
  have sound : v.walk.Sound s.document.size := visit_sound (by rw [met]; simp)
  have after : v.left.Sound s.document.size :=
    v.left_leads.sound ((Visit.settled_leads sound).sound sound)
  obtain ⟨-, -, -, -, -, later⟩ := visits_split met
  constructor
  · intro u mem
    have leads : v.left.Leads u.walk := Walk.visitsFrom_leads after (later ▸ mem)
    obtain ⟨still, same⟩ := leads.closed after closed
    have settling := Visit.settled_leads (leads.sound after)
    exact ⟨still.shut, same.trans (settling.closed (leads.sound after) still).2⟩
  · have leads : v.left.Leads (s.walkUnit file lines) := by
      rw [walkUnit_eq_of_visit met]
      exact (Walk.readFrom_leads after _ _ _).tail .close
    exact (leads.closed after closed).2

/-- **An item header that is refused ends the scope of the items before it,** unless its body is
    under-indented: then the item that was open is left open.  An item that is not left open is the
    same at every later header and at the end of the unit. -/
theorem items_frozen_by_refusal (met : s.visits file lines = past ++ v :: future)
    (role : TitleRole.ofTitle v.header.title = .item)
    (plain : v.walk.registry.contains v.header.title = false) {cause : Cause}
    (refused : v.verdict = .rejected cause) {id : Nat}
    (isItem : v.walk.document.tag? id = some .item) :
    (v.left.scope.item = some id
        ↔ (∃ n, Body.ofLines v.rest = .error n) ∧ v.walk.scope.item = some id)
      ∧ (v.left.scope.item ≠ some id →
          (∀ u ∈ future, u.walk.scope.item ≠ some id ∧ v.walk.SameItem u.settled id)
            ∧ v.walk.SameItem (s.walkUnit file lines) id) := by
  have sound : v.walk.Sound s.document.size := visit_sound (by rw [met]; simp)
  obtain ⟨opened, same⟩ := Visit.items_of_refused sound role plain refused
  have same := same id isItem
  have left : v.walk.SameItem v.left id := by
    have names := v.left_toSession
    exact same.trans ⟨by rw [names], fun name => by rw [names]⟩
  refine ⟨⟨fun still => (opened id).mp ((v.item_left id).mp still).1, ?_⟩, fun shut => ?_⟩
  · rintro ⟨⟨n, under⟩, before⟩
    rw [Visit.left, under]
    exact (opened id).mpr ⟨⟨n, under⟩, before⟩
  · have closed : v.left.Closed id := ⟨by rw [Document.tag?, left.node]; exact isItem, shut⟩
    obtain ⟨later, last⟩ := frozen_of_closed met closed
    exact ⟨fun u mem => ⟨(later u mem).1, left.trans (later u mem).2⟩, left.trans last⟩

/-- A second item of the same name ends the scope of the first, which is open until then; the alias
    after it does not reach the first item. -/
theorem items_frozen_by_refusal_redeclared :
    let lines := ["// Function: f()", "// Function: f()", "// Alias: a"]
    ∃ v, (({} : Session).visits "a" lines)[1]? = some v ∧ v.walk.scope.item = some 2
      ∧ v.verdict = .rejected (.redeclared "f()" ⟨"a", 1⟩)
      ∧ v.walk.SameItem (({} : Session).walkUnit "a" lines) 2 := by
  intro lines
  have items : (({} : Session).visits "a" lines)[1]?.map
      (fun v => (v.walk.document.tag? 2, v.walk.scope.item, v.left.scope.item))
      = some (some .item, some 2, none) := by decide +kernel
  have header : (({} : Session).visits "a" lines)[1]?.map
      (fun v => (TitleRole.ofTitle v.header.title, v.walk.registry.contains v.header.title,
        v.verdict)) = some (.item, false, .rejected (.redeclared "f()" ⟨"a", 1⟩)) := by
    decide +kernel
  obtain ⟨v, found, items⟩ := Option.map_eq_some_iff.mp items
  simp only [found, Option.map_some, Option.some.injEq, Prod.mk.injEq] at items header
  obtain ⟨isItem, opened, left⟩ := items
  obtain ⟨role, plain, refused⟩ := header
  obtain ⟨-, frozen⟩ :=
    items_frozen_by_refusal (visits_eq_of_getElem? found) role plain refused isItem
  exact ⟨v, found, opened, refused, (frozen (by simp [left])).2⟩

/-- An alias reaches the item before an under-indented item header. -/
theorem under_indented_item_leaves_item_open :
    let lines := ["// Function: f()", "// Function: g()", "//     deep", "//   shallow",
      "// Alias: a"]
    (({} : Session).visits "a" lines).map (·.verdict)
        = [.accepted, .rejected .underIndented, .accepted]
      ∧ (({} : Session).walkUnit "a" lines).index.lookup? "a" = some 2
      ∧ ((({} : Session).walkUnit "a" lines).document.node? 2).map (·.subtitle) = some "f()" := by
  decide +kernel

end Session

end DocComments
