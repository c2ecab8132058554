/-
  The order in which the files are listed.

  A priority list names files by their subtitles.  The program goes through the names, one after the
  other, and picks up the files of each name; then it goes through all files.  A file is listed at
  the first place where it is met, so a name that is repeated, a name that no file has, and a name
  that several files have all need an answer.  The answer is the RANK of a file: the first place of
  its subtitle in the list, and the length of the list where it is not named.  The listing is the
  roots sorted by rank, files of one rank in the order in which they were added.

  The crux is that one name takes its files off the list for good (`listing_cons`): the files of the
  first name stand in front, and what follows is the listing of the other files by the other names.
  So the ranks go up along the listing (`listing_inRank`), and a list with that property is the
  only one that has the same members (`eq_of_inRank`); the stable sort of the library has it too
  (`sortedByRank_inRank`).

    * `prioritized_is_stable_sort`   the listing of every document, and of every session.
-/
import Mathlib.Data.List.Nodup
import DocComments.Proofs.StableSort
import DocComments.Proofs.TreeText

namespace DocComments

/-! ## Lists without repetition -/

/-- A list that repeats nothing has nothing to lose. -/
theorem eraseDups_of_nodup {α : Type} [BEq α] [LawfulBEq α] {xs : List α} (nodup : xs.Nodup) :
    xs.eraseDups = xs := by
  induction xs with
  | nil => rfl
  | cons x rest ih =>
    obtain ⟨fresh, nodup⟩ := List.nodup_cons.mp nodup
    have others : rest.filter (fun y => !y == x) = rest := by
      rw [List.filter_eq_self]
      intro y mem
      have ne : y ≠ x := fun same => fresh (same ▸ mem)
      simpa using ne
    rw [List.eraseDups_cons, others, ih nodup]

/-- In an increasing list the smaller of two members stands in front. -/
theorem pair_sublist_of_lt {xs : List Nat} (increasing : xs.Pairwise (· < ·)) {a b : Nat}
    (memA : a ∈ xs) (memB : b ∈ xs) (lt : a < b) : [a, b].Sublist xs := by
  obtain ⟨front, back, rfl⟩ := List.append_of_mem memA
  have beforeA : ∀ x ∈ front, x < a := by
    intro x mem
    exact (List.pairwise_append.mp increasing).2.2 x mem a List.mem_cons_self
  have later : b ∈ back := by
    rcases List.mem_append.mp memB with early | late
    · have := beforeA b early
      omega
    · rcases List.mem_cons.mp late with same | late
      · omega
      · exact late
  have pair : [a, b].Sublist (a :: back) := (List.singleton_sublist.mpr later).cons_cons a
  exact pair.trans (List.sublist_append_right front (a :: back))

namespace Document

/-- The roots are listed in the order in which they were added, and they are there. -/
theorem Built.roots {doc : Document} (built : doc.Built) :
    doc.roots.Pairwise (· < ·) ∧ ∀ id ∈ doc.roots, id < doc.size :=
  ⟨built.linked.increasing_roots, fun _ mem => (built.linked.mem_roots.mp mem).1⟩

/-! ## Ranks -/

variable {doc : Document} {priority : List String}

/-- The node has the name as its subtitle. -/
def hasName (doc : Document) (name : String) (id : Nat) : Bool :=
  (doc.node? id).any (·.subtitle = name)

/-- The rank of a file under a priority list: the first place at which its subtitle stands there,
    and the length of the list if it stands nowhere. -/
def rank (doc : Document) (priority : List String) (id : Nat) : Nat :=
  priority.findIdx (doc.hasName · id)

/-- The files stand in the order of their ranks, and under one rank in the order in which they were
    added. -/
def InRank (doc : Document) (priority : List String) (ids : List Nat) : Prop :=
  ids.Pairwise fun a b =>
    doc.rank priority a < doc.rank priority b
      ∨ doc.rank priority a = doc.rank priority b ∧ a < b

theorem rank_cons_of_hasName {name : String} {rest : List String} {id : Nat}
    (named : doc.hasName name id = true) : doc.rank (name :: rest) id = 0 := by
  rw [rank, List.findIdx_cons, named]
  rfl

theorem rank_cons_of_not_hasName {name : String} {rest : List String} {id : Nat}
    (other : doc.hasName name id = false) :
    doc.rank (name :: rest) id = doc.rank rest id + 1 := by
  rw [rank, List.findIdx_cons, other]
  rfl

/-- The rank of a file in the words of the list. -/
theorem rank_spec {id : Nat} {node : Node} (found : doc.node? id = some node)
    (priority : List String) :
    doc.rank priority id = priority.idxOf node.subtitle := by
  have same : (doc.hasName · id) = (· == node.subtitle) := by
    funext name
    show (doc.node? id).any (·.subtitle = name) = (name == node.subtitle)
    rw [found, Option.any_some, Bool.eq_iff_iff, decide_eq_true_iff, beq_iff_eq]
    exact eq_comm
  rw [rank, same]
  rfl

/-! ## The listing, name by name -/

/-- Some files in the order of a priority list. -/
def listing (doc : Document) (priority : List String) (ids : List Nat) : List Nat :=
  ((priority.flatMap fun name => ids.filter (doc.hasName name)) ++ ids).eraseDups

/-- **The first name takes its files,** and the other names share the others. -/
theorem listing_cons {ids : List Nat} (nodup : ids.Nodup) (name : String) (rest : List String) :
    doc.listing (name :: rest) ids
      = ids.filter (doc.hasName name)
          ++ doc.listing rest (ids.filter fun id => !doc.hasName name id) := by
  have named : (ids.filter (doc.hasName name)).eraseDups = ids.filter (doc.hasName name) :=
    eraseDups_of_nodup (nodup.filter _)
  -- among the files, those that have not been listed yet are those of other names
  have left : ∀ {part : List Nat}, (∀ id ∈ part, id ∈ ids) →
      part.removeAll (ids.filter (doc.hasName name))
        = part.filter fun id => !doc.hasName name id := by
    intro part inside
    refine List.filter_congr fun id mem => ?_
    simp [inside id mem]
  have inside : ∀ id ∈ (rest.flatMap fun name => ids.filter (doc.hasName name)) ++ ids,
      id ∈ ids := by
    intro id mem
    rcases List.mem_append.mp mem with picked | all
    · obtain ⟨other, -, picked⟩ := List.mem_flatMap.mp picked
      exact (List.mem_filter.mp picked).1
    · exact all
  have picked : ((rest.flatMap fun other => ids.filter (doc.hasName other)).filter
        fun id => !doc.hasName name id)
      = rest.flatMap fun other =>
          (ids.filter fun id => !doc.hasName name id).filter (doc.hasName other) := by
    rw [List.filter_flatMap]
    congr 1
    funext other
    rw [List.filter_filter, List.filter_filter]
    congr 1
    funext id
    exact Bool.and_comm _ _
  rw [listing, List.flatMap_cons, List.append_assoc, List.eraseDups_append, named, left inside,
    List.filter_append, picked]
  rfl

theorem mem_listing {ids : List Nat} {id : Nat} :
    id ∈ doc.listing priority ids ↔ id ∈ ids := by
  rw [listing, List.mem_eraseDups, List.mem_append, List.mem_flatMap]
  constructor
  · rintro (⟨name, -, mem⟩ | mem)
    · exact (List.mem_filter.mp mem).1
    · exact mem
  · intro mem
    exact .inr mem

theorem listing_perm (doc : Document) (priority : List String) {ids : List Nat}
    (nodup : ids.Nodup) : (doc.listing priority ids).Perm ids :=
  (List.perm_ext_iff_of_nodup (Walk.nodup_eraseDups _) nodup).mpr fun _ => mem_listing

/-- **Along the listing the ranks go up,** whatever the names. -/
theorem listing_inRank (doc : Document) (priority : List String) {ids : List Nat}
    (increasing : ids.Pairwise (· < ·)) : doc.InRank priority (doc.listing priority ids) := by
  have nodup : ids.Nodup := increasing.imp Nat.ne_of_lt
  induction priority generalizing ids with
  | nil =>
    show List.Pairwise _ ids.eraseDups
    rw [eraseDups_of_nodup nodup]
    exact increasing.imp fun lt => .inr ⟨rfl, lt⟩
  | cons name rest ih =>
    have first : ∀ id ∈ ids.filter (doc.hasName name), doc.rank (name :: rest) id = 0 :=
      fun id mem => rank_cons_of_hasName (List.mem_filter.mp mem).2
    have later : ∀ id ∈ doc.listing rest (ids.filter fun id => !doc.hasName name id),
        doc.rank (name :: rest) id = doc.rank rest id + 1 := by
      intro id mem
      have other := (List.mem_filter.mp (mem_listing.mp mem)).2
      exact rank_cons_of_not_hasName (by simpa using other)
    rw [listing_cons nodup]
    refine List.pairwise_append.mpr ⟨?_, ?_, ?_⟩
    · -- files of the first name
      refine (increasing.filter _).imp_of_mem fun memA memB lt => .inr ⟨?_, lt⟩
      rw [first _ memA, first _ memB]
    · -- files of other names: their ranks are those under the other names, each one more
      refine (ih (increasing.filter _) (nodup.filter _)).imp_of_mem fun memA memB before => ?_
      rw [later _ memA, later _ memB]
      omega
    · intro a memA b memB
      rw [first a memA, later b memB]
      exact .inl (Nat.succ_pos _)

/-! ## One list in the order of the ranks -/

/-- The order of the ranks leaves no choice. -/
theorem eq_of_inRank {ids others : List Nat} (perm : ids.Perm others)
    (ordered : doc.InRank priority ids) (ordered' : doc.InRank priority others) :
    ids = others := by
  refine List.Perm.eq_of_pairwise (fun a b _ _ before after => ?_) ordered ordered' perm
  omega

/-- The comparison of two files by rank. -/
def rankLE (doc : Document) (priority : List String) (a b : Nat) : Bool :=
  doc.rank priority a ≤ doc.rank priority b

/-- The files sorted by rank; the sort is stable. -/
def sortedByRank (doc : Document) (priority : List String) (ids : List Nat) : List Nat :=
  ids.mergeSort (doc.rankLE priority)

theorem sortedByRank_eq_sortedBy (doc : Document) (priority : List String) (ids : List Nat) :
    doc.sortedByRank priority ids = StableSort.sortedBy (doc.rank priority) ids := rfl

theorem sortedByRank_perm (doc : Document) (priority : List String) (ids : List Nat) :
    (doc.sortedByRank priority ids).Perm ids :=
  StableSort.sortedBy_perm (doc.rank priority) ids

/-- **The stable sort puts the files in the order of the ranks.** -/
theorem sortedByRank_inRank (doc : Document) (priority : List String) {ids : List Nat}
    (increasing : ids.Pairwise (· < ·)) :
    doc.InRank priority (doc.sortedByRank priority ids) := by
  rw [sortedByRank_eq_sortedBy]
  refine (StableSort.sortedBy_ordered (doc.rank priority) ids).imp fun {a b} ⟨low, tied⟩ => ?_
  rcases Nat.lt_or_eq_of_le low with less | tie
  · exact .inl less
  · exact .inr ⟨tie, List.pairwise_iff_forall_sublist.mp increasing (tied tie)⟩

/-- **The listing is the stable sort.** -/
theorem listing_eq_sortedByRank (doc : Document) (priority : List String) {ids : List Nat}
    (increasing : ids.Pairwise (· < ·)) :
    doc.listing priority ids = doc.sortedByRank priority ids := by
  have listed := doc.listing_perm priority (increasing.imp Nat.ne_of_lt)
  exact eq_of_inRank (listed.trans (doc.sortedByRank_perm priority ids).symm)
    (listing_inRank doc priority increasing) (sortedByRank_inRank doc priority increasing)

end Document

/-! ## Sessions build documents -/

namespace Walk

variable {here : Origin → Prop} {mine : String → Prop} {w after : Walk}

theorem Move.built (move : Move here mine w after) (built : w.document.Built) :
    after.document.Built := by
  cases move with
  | note entry place => exact built
  | close => rwa [closeItem_toSession]
  | define title rule plain => exact built
  | configure project => exact built
  | file node shut place kind => exact built.addRoot node
  | describe file f opened => exact built.mapKind file _
  | sect file node opened place kind => exact built.addChild file node
  | subsect sect node opened place kind named => exact built.addChild sect node
  | item container block opened place name named free => exact built.addChild container _
  | image item kind node opened place leaf titled => exact built.addChild item node
  | words item list block opened place role => exact (built.addChild item _).mapKind item _
  | leaf parent rule block opened found admits hook place => exact built.addChild parent _
  | status parent rule block opened found admits hook place =>
    exact (built.addChild parent _).mapKind parent _
  | aliases parent rule block names opened found admits hook place given owned free =>
    exact (built.addChild parent _).mapKind parent _

theorem Moves.built (moves : Moves here mine w after) (built : w.document.Built) :
    after.document.Built := by
  induction moves with
  | refl => exact built
  | tail _ move ih => exact move.built ih

end Walk

theorem Session.Reachable.built {s : Session} (reached : s.Reachable) : s.document.Built := by
  refine reached.induction (fun _ => .empty) (fun s file lines built => ?_) fun _ built => built
  exact Walk.Moves.built (walkUnit_moves_any s file lines) built

/-! ## Every document -/

/-- **The files are listed in a stable sort by priority.**  Take any document, built in any way, and
    any priority list, with names that are repeated, that no file has, or that several files have.
    The listing is a permutation of the roots without repetition, and it is the roots sorted by
    rank: the rank of a file is the first place of its subtitle in the priority list, or the length
    of the list.  Files of the same rank, and so the files that are not named, which come last, keep
    the order of the roots.  A session lists its files by the priority list of its project. -/
theorem Document.prioritized_is_stable_sort :
    (∀ doc : Document, doc.Built → ∀ priority : List String,
        let files := doc.prioritized priority
        files.Perm doc.roots ∧ files.Nodup
          ∧ files = doc.roots.mergeSort
              (fun a b => doc.rank priority a ≤ doc.rank priority b)
          ∧ files.Pairwise (fun a b => doc.rank priority a < doc.rank priority b
              ∨ doc.rank priority a = doc.rank priority b ∧ [a, b].Sublist doc.roots)
          ∧ ∀ id ∈ doc.roots, ∃ node, doc.node? id = some node
              ∧ doc.rank priority id = priority.idxOf node.subtitle)
      ∧ ∀ s : Session, s.Reachable →
          s.document.Built ∧ s.filesPrioritized = s.document.prioritized s.project.priority := by
  refine ⟨fun doc built priority => ?_, fun s reached => ⟨reached.built, rfl⟩⟩
  obtain ⟨increasing, inside⟩ := built.roots
  have perm : (doc.prioritized priority).Perm doc.roots :=
    doc.listing_perm priority (increasing.imp Nat.ne_of_lt)
  refine ⟨perm, Walk.nodup_eraseDups _, doc.listing_eq_sortedByRank priority increasing, ?_, ?_⟩
  · have ordered : doc.InRank priority (doc.prioritized priority) :=
      doc.listing_inRank priority increasing
    refine ordered.imp_of_mem fun memA memB before => before.imp_right fun ⟨tie, lt⟩ => ⟨tie, ?_⟩
    exact pair_sublist_of_lt increasing (perm.mem_iff.mp memA) (perm.mem_iff.mp memB) lt
  · intro id mem
    obtain ⟨node, found⟩ := doc.exists_node? (inside id mem)
    exact ⟨node, found, Document.rank_spec found priority⟩

/-- One name is given twice, one is of no file, and one of two files. -/
theorem Document.prioritized_is_stable_sort_shared_names :
    let names := ["c", "z", "a", "c"]
    let s := (Session.start {}).after [
      .readLines ["// PrioritizeFiles: c", "//   z", "//   a", "//   c"] ".docsgen_rc",
      .readLines ["// File: a"] "1", .readLines ["// File: b"] "2", .readLines ["// File: a"] "3",
      .readLines ["// File: c"] "4", .readLines ["// File: d"] "5"]
    s.document.roots = [0, 1, 2, 3, 4] ∧ s.filesPrioritized = [3, 0, 2, 1, 4]
      ∧ s.filesPrioritized = s.document.roots.mergeSort
          (fun a b => s.document.rank names a ≤ s.document.rank names b)
      ∧ s.document.roots.map (s.document.rank names) = [2, 4, 2, 0, 4] := by
  intro names s
  have reached : s.Reachable := (Session.reachable_start _).after _
  obtain ⟨built, listed⟩ := prioritized_is_stable_sort.2 s reached
  have priority : s.project.priority = names := by decide +kernel
  rw [priority] at listed
  obtain ⟨-, -, sorted, -, -⟩ := prioritized_is_stable_sort.1 s.document built names
  refine ⟨by decide +kernel, ?_, listed.trans sorted, by decide +kernel⟩
  rw [listed]
  decide +kernel

end DocComments
