/-
  The index of names under any history of requests.

  An index is asked to take names: the own names of items, and further names of them.  The first
  request for a name gets it, and nothing that comes later takes it away or adds to it.  So what the
  index answers can be told from the history alone, without the index: the owner of a name is the
  item of the first request for it (`lookup?_after`).

  The two records of the index, the owners and the names in order, are kept in step: `InStep` says
  how, one request keeps it (`InStep.perform`), and so does a history.

    * `lookup?_perform`            one request: a name that has an owner keeps it;
    * `sorted_eq_sortedBy`         the listing is a stable sort by the key of the names;
    * `first_request_keeps_name`   all of it, for every history.
-/
import DocComments.NameIndex
import DocComments.Proofs.StableSort

namespace DocComments.NameIndex

/-! ## Requests -/

/-- What an index is asked for: to take the own name of an item, or one more name of it. -/
inductive Request where
  | own (name : String) (id : Nat)
  | further (name : String) (id : Nat)
deriving Repr, DecidableEq

/-- The name that is asked for. -/
def Request.name : Request → String
  | own name _ => name
  | further name _ => name

/-- The item that is to have it. -/
def Request.id : Request → Nat
  | own _ id => id
  | further _ id => id

/-- What a request does to an index, and the answer.  All names are kept alike, so that further
    names are registered as own ones are. -/
def perform (index : NameIndex) (request : Request) : NameIndex × Except Nat Unit :=
  match index.register request.name request.id with
  | .ok after => (after, .ok ())
  | .error owner => (index, .error owner)

/-- The index after a history of requests, the first of them made to an empty index. -/
def after (history : List Request) : NameIndex :=
  history.foldl (fun index request => (index.perform request).1) {}

variable {index : NameIndex} {request : Request} {name : String}

/-! ## One request -/

/-- A name that is taken stays with its owner, and the index as it is. -/
theorem perform_taken {owner : Nat} (taken : index.lookup? request.name = some owner) :
    index.perform request = (index, .error owner) := by
  rw [perform, register, taken]

/-- A free name goes into both records. -/
theorem perform_free (free : index.lookup? request.name = none) :
    index.perform request
      = (⟨(request.name, request.id) :: index.owners, index.names ++ [request.name]⟩, .ok ()) := by
  rw [perform, register, free]

/-- A request succeeds exactly if the name has no owner. -/
theorem perform_ok_iff : (index.perform request).2 = .ok () ↔ index.lookup? request.name = none := by
  cases owned : index.lookup? request.name with
  | none => simp [perform_free owned]
  | some owner => simp [perform_taken owned]

/-- **One request** changes no owner that there is. -/
theorem lookup?_perform (index : NameIndex) (request : Request) (name : String) :
    (index.perform request).1.lookup? name
      = (index.lookup? name).or (if request.name = name then some request.id else none) := by
  cases owned : index.lookup? request.name with
  | some owner =>
    rw [perform_taken owned]
    by_cases same : request.name = name
    · subst same
      rw [owned, Option.some_or]
    · rw [if_neg same, Option.or_none]
  | none =>
    rw [perform_free owned, lookup?, List.lookup_cons]
    by_cases same : request.name = name
    · subst same
      rw [beq_self_eq_true, owned, if_pos rfl, Option.none_or]
    · have other : (name == request.name) = false := by simpa using Ne.symm same
      rw [other, if_neg same, Option.or_none]
      rfl

/-- The owners and the names are told in step: the same names, each once, the last one first among
    the owners. -/
structure InStep (index : NameIndex) : Prop where
  owned : index.owners.map (·.1) = index.names.reverse
  nodup : index.names.Nodup

theorem InStep.contains_iff (inStep : index.InStep) :
    index.contains name = true ↔ name ∈ index.names := by
  rw [contains, lookup?, List.lookup_isSome_iff, ← List.mem_reverse, ← inStep.owned, List.mem_map]
  refine exists_congr fun entry => and_congr_right fun _ => ?_
  rw [beq_iff_eq]
  exact eq_comm

theorem InStep.perform (inStep : index.InStep) (request : Request) :
    (index.perform request).1.InStep := by
  cases owned : index.lookup? request.name with
  | some owner => rwa [perform_taken owned]
  | none =>
    have fresh : request.name ∉ index.names := by
      rw [← inStep.contains_iff, NameIndex.contains, owned]
      simp
    rw [perform_free owned]
    constructor
    · simp [inStep.owned]
    · refine List.nodup_append.mpr ⟨inStep.nodup, List.pairwise_singleton _ _, ?_⟩
      rintro old mem last isLast rfl
      exact fresh (List.mem_singleton.mp isLast ▸ mem)

/-- A request leaves the names before it in front. -/
theorem names_perform (index : NameIndex) (request : Request) :
    index.names <+: (index.perform request).1.names := by
  cases owned : index.lookup? request.name with
  | some owner =>
    have kept : (index.perform request).1 = index := congrArg Prod.fst (perform_taken owned)
    exact kept.symm ▸ List.prefix_rfl
  | none =>
    rw [perform_free owned]
    exact List.prefix_append _ _

/-! ## A history -/

/-- A history is its first requests and then the others. -/
theorem after_append (before later : List Request) :
    after (before ++ later)
      = later.foldl (fun index request => (index.perform request).1) (after before) :=
  List.foldl_append

/-- The names that came first stay in front, whatever comes later. -/
theorem names_after_append (before later : List Request) :
    (after before).names <+: (after (before ++ later)).names := by
  rw [after_append]
  generalize after before = index
  induction later generalizing index with
  | nil => exact List.prefix_rfl
  | cons request later ih => exact (names_perform index request).trans (ih _)

theorem lookup?_foldl (index : NameIndex) (history : List Request) (name : String) :
    (history.foldl (fun index request => (index.perform request).1) index).lookup? name
      = (index.lookup? name).or ((history.find? (·.name = name)).map (·.id)) := by
  induction history generalizing index with
  | nil => exact Option.or_none.symm
  | cons request history ih =>
    rw [List.foldl_cons, ih, lookup?_perform, Option.or_assoc, List.find?_cons]
    congr 1
    by_cases same : request.name = name
    · simp [same]
    · simp [same]

/-- **The owner of a name** is the item of the first request for it. -/
theorem lookup?_after (history : List Request) (name : String) :
    (after history).lookup? name = (history.find? (·.name = name)).map (·.id) := by
  rw [after, lookup?_foldl]
  rfl

theorem inStep_after (history : List Request) : (after history).InStep := by
  have start : InStep {} := ⟨rfl, .nil⟩
  unfold after
  generalize ({} : NameIndex) = index at start ⊢
  induction history generalizing index with
  | nil => exact start
  | cons request history ih => exact ih _ (start.perform request)

/-! ## The listing -/

/-- The listing is the names sorted by their keys. -/
theorem sorted_eq_sortedBy (index : NameIndex) :
    index.sorted = StableSort.sortedBy sortKey index.names := by
  have paired := List.map_mergeSort (l := index.names)
    (r := fun a b => decide (sortKey a ≤ sortKey b))
    (s := fun a b : String × String => decide (a.1 ≤ b.1)) (f := fun name => (sortKey name, name))
    fun _ _ _ _ => rfl
  rw [sorted, ← paired, List.map_map]
  exact List.map_id _

/-- **The first request for a name keeps it.**  After any history of requests to an empty index:
      the owners and the names in order are the same names, each once;
      the owner of a name is the item of the first request for it, and there is none without one;
      a request that succeeds now has given its item the name forever;
      a request for a name that is taken is answered with the owner and changes nothing;
      the names since a mark are the names in order without so many in front, and since now they
        are those that are new later;
      the listing is the one arrangement of the names that goes up by key, names with the same key
        in the order of their registration. -/
theorem first_request_keeps_name (history : List Request) :
    let index := after history
    (index.owners.map (·.1) = index.names.reverse ∧ index.names.Nodup
        ∧ ∀ name, index.contains name = true ↔ name ∈ index.names)
      ∧ (∀ name, index.lookup? name = (history.find? (·.name = name)).map (·.id))
      ∧ (∀ request later, (index.perform request).2 = .ok () →
          (after (history ++ request :: later)).lookup? request.name = some request.id)
      ∧ (∀ request owner, index.lookup? request.name = some owner →
          index.perform request = (index, .error owner))
      ∧ (∀ mark, index.names.take mark ++ index.since mark = index.names)
      ∧ (∀ later, index.names ++ (after (history ++ later)).since index.size
          = (after (history ++ later)).names)
      ∧ index.sorted.Perm index.names
      ∧ StableSort.Ordered sortKey index.names index.sorted
      ∧ ∀ listing : List String, listing.Perm index.names →
          StableSort.Ordered sortKey index.names listing → listing = index.sorted := by
  intro index
  have inStep : index.InStep := inStep_after history
  have perm : index.sorted.Perm index.names := by
    rw [sorted_eq_sortedBy]
    exact StableSort.sortedBy_perm sortKey index.names
  have ordered : StableSort.Ordered sortKey index.names index.sorted := by
    rw [sorted_eq_sortedBy]
    exact StableSort.sortedBy_ordered sortKey index.names
  refine ⟨⟨inStep.owned, inStep.nodup, fun _ => inStep.contains_iff⟩, lookup?_after history, ?_,
    fun _ _ => perform_taken, fun mark => List.take_append_drop mark index.names, ?_, perm, ordered,
    fun listing perm' ordered' =>
      StableSort.eq_of_ordered inStep.nodup (perm'.trans perm.symm) ordered' ordered⟩
  · intro request later succeeds
    have free := perform_ok_iff.mp succeeds
    rw [after_append, List.foldl_cons, lookup?_foldl, lookup?_perform, free, if_pos rfl]
    rfl
  · intro later
    obtain ⟨new, added⟩ := names_after_append history later
    show index.names ++ (after (history ++ later)).names.drop index.names.length = _
    rw [← added, List.drop_left]

/-- Names that differ in case only, a further name that comes before an own name and one that is
    taken: the second request for `B` fails and leaves it to item 0, and among the names of one key
    the earlier stands first. -/
theorem first_request_keeps_name_any_case :
    let history : List Request := [.own "B" 0, .further "a" 0, .own "b" 1, .further "B" 1,
      .further "A" 1]
    let index := after history
    index.names = ["B", "a", "b", "A"] ∧ index.sorted = ["a", "A", "B", "b"]
      ∧ (∀ later, (after (history ++ .own "c" 2 :: later)).lookup? "c" = some 2)
      ∧ index.perform (.own "B" 1) = (index, .error 0) := by
  intro history index
  obtain ⟨-, -, forever, taken, -, -, -, -, only⟩ := first_request_keeps_name history
  have names : index.names = ["B", "a", "b", "A"] := by decide +kernel
  refine ⟨names, ?_, fun later => ?_, ?_⟩
  · refine (only _ ?_ ?_).symm
    · rw [names]
      decide
    · rw [names, StableSort.Ordered]
      decide +kernel
  · exact forever (.own "c" 2) later (perform_ok_iff.mpr (by decide +kernel))
  · exact taken (.own "B" 1) 0 (by decide +kernel)

end DocComments.NameIndex
