/-
  The same walk, with a part of the unit further down.

  A unit is read twice, and the second time everything from the line `start` on stands `k` lines
  further down.  `Walk.Lowered` relates the two walks.  They agree on mode, project, rules, names
  and open containers, and on the nodes that were there before the unit.  The nodes of the unit are
  equal but for their lines, and those at `start` or after it are `k` lines further down
  (`Document.Lowered`).

  The log is told entry by entry (`LogEntry.Retold`).  Besides the line of an entry one cause quotes
  a line, that of a name that is taken; whether it is lowered depends on the owner of the name, which
  may be a node of the unit or an older one (`Cause.Retold`).  A name keeps its owner, so what was
  retold stays so (`Cause.Retold.mono`).
-/
import Mathlib.Data.List.Forall2
import DocComments.Session.Reading

namespace DocComments

/-! ## Lines further down -/

/-- The place, `k` lines further down if it is at `start` or after it. -/
def Origin.lowered (start k : Nat) (origin : Origin) : Origin :=
  if start ≤ origin.line then { origin with line := origin.line + k } else origin

/-- The node with its place further down. -/
def Node.lowered (start k : Nat) (node : Node) : Node :=
  { node with origin := node.origin.lowered start k }

/-- The block with its place further down. -/
def Block.lowered (start k : Nat) (block : Block) : Block :=
  { block with origin := block.origin.lowered start k }

namespace Block

variable (start k : Nat) (block : Block)

@[simp] theorem title_lowered : (block.lowered start k).title = block.title := rfl

@[simp] theorem subtitle_lowered : (block.lowered start k).subtitle = block.subtitle := rfl

@[simp] theorem body_lowered : (block.lowered start k).body = block.body := rfl

@[simp] theorem origin_lowered :
    (block.lowered start k).origin = block.origin.lowered start k := rfl

end Block

namespace Origin

variable {start k : Nat} {origin : Origin}

/-- What is at `start` or after it goes down. -/
theorem lowered_of_le (after : start ≤ origin.line) :
    origin.lowered start k = ⟨origin.file, origin.line + k⟩ := if_pos after

/-- What is before `start` stays. -/
theorem lowered_of_lt (before : origin.line < start) : origin.lowered start k = origin :=
  if_neg (Nat.not_le.mpr before)

@[simp] theorem file_lowered (start k : Nat) (origin : Origin) :
    (origin.lowered start k).file = origin.file := by
  unfold lowered
  split <;> rfl

/-- Lines of one stretch, which `start` does not cut, stay together. -/
theorem lowered_add {n m : Nat} (beside : origin.line + m < start ∨ start ≤ origin.line)
    (within : n ≤ m) :
    Origin.lowered start k ⟨origin.file, origin.line + n⟩
      = ⟨origin.file, (origin.lowered start k).line + n⟩ := by
  rcases beside with before | after
  · rw [lowered_of_lt (show origin.line + n < start by omega), lowered_of_lt (by omega)]
  · rw [lowered_of_le (show start ≤ origin.line + n by omega), lowered_of_le after]
    simp only [Origin.mk.injEq, true_and]
    omega

end Origin

/-- The lines of the block do not stand on both sides of `start`. -/
def Block.Beside (start : Nat) (block : Block) : Prop :=
  block.origin.line + block.body.length < start ∨ start ≤ block.origin.line

/-! ## Causes, entries and verdicts -/

/-- The cause quotes no place. -/
def Cause.plain : Cause → Bool
  | .redeclared _ _ => false
  | _ => true

/-- The same cause as told of the second unit.  A name that is taken is told with the place of its
    owner, which has been lowered if the owner is one of the nodes from `base` on. -/
inductive Cause.Retold (base start k : Nat) (index : NameIndex) : Cause → Cause → Prop
  | same {cause : Cause} (plain : cause.plain) : Retold base start k index cause cause
  | older {name : String} {place : Origin} {id : Nat} (owner : index.lookup? name = some id)
      (before : id < base) :
    Retold base start k index (.redeclared name place) (.redeclared name place)
  | own {name : String} {place : Origin} {id : Nat} (owner : index.lookup? name = some id)
      (added : base ≤ id) :
    Retold base start k index (.redeclared name place) (.redeclared name (place.lowered start k))

/-- The same entry as told of the second unit. -/
inductive LogEntry.Retold (base start k : Nat) (index : NameIndex) : LogEntry → LogEntry → Prop
  | warning (origin : Origin) (message : String) :
    Retold base start k index ⟨origin, .warning, message⟩
      ⟨origin.lowered start k, .warning, message⟩
  | failure (origin : Origin) (title : String) {cause other : Cause}
      (told : cause.Retold base start k index other) :
    Retold base start k index ⟨origin, .failure, Rejection.message ⟨title, cause⟩⟩
      ⟨origin.lowered start k, .failure, Rejection.message ⟨title, other⟩⟩

/-- The same verdict on the block of the second unit. -/
inductive Verdict.Retold (base start k : Nat) (index : NameIndex) : Verdict → Verdict → Prop
  | accepted : Retold base start k index .accepted .accepted
  | dropped : Retold base start k index .dropped .dropped
  | rejected {cause other : Cause} (told : cause.Retold base start k index other) :
    Retold base start k index (.rejected cause) (.rejected other)

/-- The later index has all names of the earlier one, with the same owners. -/
def NameIndex.Keeps (index after : NameIndex) : Prop :=
  ∀ name id, index.lookup? name = some id → after.lookup? name = some id

namespace NameIndex

variable {index after : NameIndex}

theorem Keeps.refl (index : NameIndex) : index.Keeps index := fun _ _ owner => owner

/-- A name that is registered was free, so it is none of those that had an owner. -/
theorem keeps_register {name : String} {id : Nat} (registered : index.register name id = .ok after) :
    index.Keeps after := by
  intro other owner had
  have free := (register_eq_ok_iff.mp registered).1
  have ne : other ≠ name := by
    rintro rfl
    rw [free] at had
    cases had
  rw [lookup?_register_of_ne registered ne, had]

end NameIndex

variable {base start k : Nat} {index after : NameIndex}

/-- A cause that was retold stays so, for names keep their owners. -/
theorem Cause.Retold.mono (keeps : index.Keeps after) {cause other : Cause}
    (told : cause.Retold base start k index other) : cause.Retold base start k after other := by
  cases told with
  | same plain => exact .same plain
  | older owner before => exact .older (keeps _ _ owner) before
  | own owner added => exact .own (keeps _ _ owner) added

/-- An entry that was retold stays so, as its cause does. -/
theorem LogEntry.Retold.mono (keeps : index.Keeps after) {entry other : LogEntry}
    (told : entry.Retold base start k index other) : entry.Retold base start k after other := by
  cases told with
  | warning origin message => exact .warning origin message
  | failure origin title told => exact .failure origin title (told.mono keeps)

/-! ## Documents -/

namespace Document

/-- The nodes from `base` on are lowered in the other document; the others are the same. -/
structure Lowered (base start k : Nat) (doc other : Document) : Prop where
  base_le : base ≤ doc.size
  size : other.size = doc.size
  roots : other.roots = doc.roots
  node : ∀ id, other.node? id
    = (doc.node? id).map fun node => if id < base then node else node.lowered start k

namespace Lowered

variable {doc other : Document}

/-- Places are no matter of the links. -/
theorem parent? (lowered : doc.Lowered base start k other) (id : Nat) :
    other.parent? id = doc.parent? id := by
  rw [Document.parent?, Document.parent?, lowered.node]
  cases doc.node? id with
  | none => rfl
  | some node =>
    simp only [Option.map_some, Option.bind_some]
    split <;> rfl

/-- Places are no matter of the kinds. -/
theorem tagged (lowered : doc.Lowered base start k other) (id : Nat) (tag : KindTag) :
    (other.node? id).any (·.tag = tag) = (doc.node? id).any (·.tag = tag) := by
  rw [lowered.node]
  cases doc.node? id with
  | none => rfl
  | some node =>
    simp only [Option.map_some, Option.any_some]
    split <;> rfl

/-- **A root on both sides,** its place told for each. -/
theorem addRoot (lowered : doc.Lowered base start k other) (node : Node) :
    (doc.addRoot node).Lowered base start k (other.addRoot (node.lowered start k)) where
  base_le := by
    rw [size_addRoot]
    exact Nat.le_succ_of_le lowered.base_le
  size := by rw [size_addRoot, size_addRoot, lowered.size]
  roots := by rw [roots_addRoot, roots_addRoot, lowered.roots, lowered.size]
  node id := by
    rw [node?_addRoot, node?_addRoot, lowered.size, lowered.node]
    by_cases new : id = doc.size
    · have notOld : ¬ id < base := by
        have := lowered.base_le
        omega
      rw [if_pos new, if_pos new, Option.map_some, if_neg notOld]
      rfl
    · rw [if_neg new, if_neg new]

theorem addChild (lowered : doc.Lowered base start k other) (parent : Nat) (node : Node) :
    (doc.addChild parent node).Lowered base start k
      (other.addChild parent (node.lowered start k)) := by
  by_cases lt : parent < doc.size
  · have lt' : parent < other.size := by rwa [lowered.size]
    refine ⟨?_, ?_, ?_, fun id => ?_⟩
    · rw [size_addChild doc lt]
      exact Nat.le_succ_of_le lowered.base_le
    · rw [size_addChild doc lt, size_addChild other lt', lowered.size]
    · rw [roots_addChild, roots_addChild, lowered.roots]
    · rw [node?_addChild doc lt, node?_addChild other lt', lowered.size, lowered.node]
      by_cases new : id = doc.size
      · have notOld : ¬ id < base := by
          have := lowered.base_le
          omega
        rw [if_pos new, if_pos new, Option.map_some, if_neg notOld]
        rfl
      · -- the parent takes the child whether it has been lowered or not
        rw [if_neg new, if_neg new, Option.map_map, Option.map_map]
        congr 1
        funext old
        simp only [Function.comp_apply]
        split <;> split <;> rfl
  · rw [Document.addChild, dif_neg lt, Document.addChild, dif_neg (by rwa [lowered.size])]
    exact lowered

theorem foldl_addChild (lowered : doc.Lowered base start k other) (parent : Nat)
    (nodes : List Node) :
    (nodes.foldl (·.addChild parent ·) doc).Lowered base start k
      ((nodes.map (Node.lowered start k)).foldl (·.addChild parent ·) other) := by
  induction nodes generalizing doc other with
  | nil => exact lowered
  | cons first rest ih => exact ih (lowered.addChild parent first)

/-- **A change of kind on both sides.** -/
theorem mapKind (lowered : doc.Lowered base start k other) (id : Nat) (f : NodeKind → NodeKind) :
    (doc.mapKind id f).Lowered base start k (other.mapKind id f) where
  base_le := by
    rw [size_mapKind]
    exact lowered.base_le
  size := by rw [size_mapKind, size_mapKind, lowered.size]
  roots := lowered.roots
  node i := by
    rw [node?_mapKind, node?_mapKind, lowered.node, Option.map_map, Option.map_map]
    congr 1
    funext node
    simp only [Function.comp_apply]
    split <;> split <;> rfl

end Lowered

end Document

/-! ## Walks -/

namespace Walk

/-- The second walk has come to the same point of the unit, with everything from `start` on `k`
    lines further down; both entered the unit from the session `s`. -/
structure Lowered (s : Session) (start k : Nat) (w v : Walk) : Prop where
  start_pos : 0 < start
  mode : v.mode = w.mode
  project : v.project = w.project
  registry : v.registry = w.registry
  index : v.index = w.index
  scope : v.scope = w.scope
  document : w.document.Lowered s.document.size start k v.document
  entries : ∃ added told, w.log.entries = s.log.entries ++ added
    ∧ v.log.entries = s.log.entries ++ told
    ∧ List.Forall₂ (LogEntry.Retold s.document.size start k w.index) added told

variable {s : Session} {w v : Walk}

namespace Lowered

/-- Both walks enter the unit. -/
theorem enter (s : Session) (positive : 0 < start) (k : Nat) :
    Lowered s start k s.enter s.enter where
  start_pos := positive
  mode := rfl
  project := rfl
  registry := rfl
  index := rfl
  scope := rfl
  document := by
    refine ⟨Nat.le_refl _, rfl, rfl, fun id => ?_⟩
    show s.document.node? id = (s.document.node? id).map _
    -- the unit has no nodes yet
    cases found : s.document.node? id with
    | none => rfl
    | some node => rw [Option.map_some, if_pos (Document.lt_of_node? found)]
  entries := ⟨[], [], (List.append_nil _).symm, (List.append_nil _).symm, .nil⟩

theorem item (lowered : Lowered s start k w v) : v.scope.item = w.scope.item := by
  rw [lowered.scope]

/-- A name is told with the place of its owner. -/
theorem originOf (lowered : Lowered s start k w v) (id : Nat) :
    v.originOf id
      = if id < s.document.size then w.originOf id else (w.originOf id).lowered start k := by
  rw [Walk.originOf, Walk.originOf, lowered.document.node]
  cases w.document.node? id with
  | some node =>
    simp only [Option.map_some, Option.getD_some]
    split <;> rfl
  | none =>
    have top : Origin.lowered start k default = default :=
      Origin.lowered_of_lt (show 0 < start from lowered.start_pos)
    simp [top]

/-- Whoever asks for a taken name is told of its owner. -/
theorem redeclared (lowered : Lowered s start k w v) {name : String} {id : Nat}
    (owner : w.index.lookup? name = some id) :
    Cause.Retold s.document.size start k w.index (.redeclared name (w.originOf id))
      (.redeclared name (v.originOf id)) := by
  rw [lowered.originOf]
  split
  · rename_i before
    exact .older owner before
  · rename_i added
    exact .own owner (Nat.not_lt.mp added)

/-- The same entry in both logs. -/
theorem note (lowered : Lowered s start k w v) {entry other : LogEntry}
    (told : entry.Retold s.document.size start k w.index other) :
    Lowered s start k { w with log := w.log.add entry } { v with log := v.log.add other } := by
  obtain ⟨added, retold, left, right, all⟩ := lowered.entries
  refine { lowered with entries := ⟨added ++ [entry], retold ++ [other], ?_, ?_, ?_⟩ }
  · simp [Log.add, left]
  · simp [Log.add, right]
  · exact List.rel_append all (.cons told .nil)

/-- More names in both indexes. -/
theorem reindex (lowered : Lowered s start k w v) {index : NameIndex} (keeps : w.index.Keeps index) :
    Lowered s start k { w with index } { v with index } := by
  obtain ⟨added, told, left, right, all⟩ := lowered.entries
  exact { lowered with
    index := rfl
    entries := ⟨added, told, left, right, all.imp fun _ _ => LogEntry.Retold.mono keeps⟩ }

/-- News of the same item on both sides. -/
theorem mapItem (lowered : Lowered s start k w v) (id : Nat) (f : ItemInfo → ItemInfo) :
    Lowered s start k { w with document := w.document.mapItem id f }
      { v with document := v.document.mapItem id f } :=
  { lowered with document := lowered.document.mapKind id _ }

theorem addChild (lowered : Lowered s start k w v) (parent : Nat) (node : Node) :
    Lowered s start k { w with document := w.document.addChild parent node }
      { v with document := v.document.addChild parent (node.lowered start k) } :=
  { lowered with document := lowered.document.addChild parent node }

/-- Both walks close the item together, and with the same parent left. -/
theorem closeItem (lowered : Lowered s start k w v) :
    Lowered s start k w.closeItem v.closeItem := by
  unfold Walk.closeItem
  rw [lowered.scope]
  cases w.scope.item with
  | none => exact lowered
  | some item => exact { lowered with scope := by simp only [lowered.document.parent?] }

end Lowered

end Walk

end DocComments
