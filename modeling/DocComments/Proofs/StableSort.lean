/-
  Sorting by a key that many entries may share.

  The merge sort of the library is stable: entries with one key keep the order in which they were
  given.  Here that is said pair by pair (`sortedBy_ordered`): of two entries of the result, the
  first has the smaller key, or the same key and the earlier place in the list that was sorted.  In a
  list that repeats nothing this order leaves no choice (`eq_of_ordered`), so it tells the result.
-/

namespace DocComments.StableSort

variable {α β : Type} [LE β] {key : α → β} {xs : List α}

/-- The entries go up by key, and those of one key stand in the order of the list `xs`. -/
def Ordered (key : α → β) (xs ys : List α) : Prop :=
  ys.Pairwise fun a b => key a ≤ key b ∧ (key a = key b → [a, b].Sublist xs)

/-! ## The order leaves no choice -/

/-- Two entries of a list without repetition stand in one order only. -/
theorem eq_of_pair_sublists {a b : α} (nodup : xs.Nodup) (before : [a, b].Sublist xs)
    (after : [b, a].Sublist xs) : a = b := by
  induction xs with
  | nil => cases before
  | cons x xs ih =>
    obtain ⟨fresh, nodup⟩ := List.nodup_cons.mp nodup
    rcases List.sublist_cons_iff.mp before with inner | ⟨rest, same, there⟩
    · rcases List.sublist_cons_iff.mp after with inner' | ⟨rest, same, there⟩
      · exact ih nodup inner inner'
      · -- `b` stands first and once more behind `a`
        obtain ⟨rfl, rfl⟩ := List.cons.inj same
        exact absurd (inner.subset (by simp)) fresh
    · obtain ⟨rfl, rfl⟩ := List.cons.inj same
      rcases List.sublist_cons_iff.mp after with inner | ⟨rest, same, -⟩
      · exact absurd (inner.subset (by simp)) fresh
      · exact (List.cons.inj same).1.symm

/-- Two arrangements of the same entries that both have the order are one. -/
theorem eq_of_ordered [Std.Antisymm fun a b : β => a ≤ b] {ys zs : List α} (nodup : xs.Nodup)
    (perm : ys.Perm zs) (ordered : Ordered key xs ys) (ordered' : Ordered key xs zs) : ys = zs := by
  refine List.Perm.eq_of_pairwise (fun a b _ _ before after => ?_) ordered ordered' perm
  have tie : key a = key b := Std.le_antisymm before.1 after.1
  exact eq_of_pair_sublists nodup (before.2 tie) (after.2 tie.symm)

/-! ## The stable sort has it -/

variable [DecidableLE β]

/-- The entries sorted by their keys. -/
def sortedBy (key : α → β) (xs : List α) : List α := xs.mergeSort fun a b => decide (key a ≤ key b)

theorem sortedBy_perm (key : α → β) (xs : List α) : (sortedBy key xs).Perm xs :=
  List.mergeSort_perm xs _

variable [Std.IsLinearOrder β]

theorem keyLE_trans (key : α → β) (a b c : α) (first : decide (key a ≤ key b) = true)
    (second : decide (key b ≤ key c) = true) : decide (key a ≤ key c) = true := by
  rw [decide_eq_true_iff] at first second ⊢
  exact Std.le_trans first second

theorem keyLE_total (key : α → β) (a b : α) :
    (decide (key a ≤ key b) || decide (key b ≤ key a)) = true := by
  rw [Bool.or_eq_true, decide_eq_true_iff, decide_eq_true_iff]
  exact Std.le_total

/-- The entries with one key stay in the order in which they were given. -/
theorem filter_sortedBy [DecidableEq β] (key : α → β) (xs : List α) (k : β) :
    (sortedBy key xs).filter (key · = k) = xs.filter (key · = k) := by
  have tied : (xs.filter (key · = k)).Pairwise fun a b => decide (key a ≤ key b) = true := by
    refine List.pairwise_of_forall_mem_list fun a memA b memB => ?_
    have keyA : key a = k := by simpa using (List.mem_filter.mp memA).2
    have keyB : key b = k := by simpa using (List.mem_filter.mp memB).2
    rw [decide_eq_true_iff, keyA, keyB]
    exact Std.le_refl k
  have kept : (xs.filter (key · = k)).Sublist (sortedBy key xs) :=
    List.sublist_mergeSort (keyLE_trans key) (keyLE_total key) tied List.filter_sublist
  have inside := kept.filter (key · = k)
  simp only [List.filter_filter, Bool.and_self] at inside
  have perm := (sortedBy_perm key xs).filter (key · = k)
  exact (inside.eq_of_length perm.length_eq.symm).symm

/-- **The sort is stable.** -/
theorem sortedBy_ordered [DecidableEq β] (key : α → β) (xs : List α) :
    Ordered key xs (sortedBy key xs) := by
  have sorted := List.pairwise_mergeSort (keyLE_trans key) (keyLE_total key) xs
  refine List.pairwise_iff_forall_sublist.mpr fun {a b} before => ?_
  have low := List.pairwise_iff_forall_sublist.mp sorted before
  rw [decide_eq_true_iff] at low
  refine ⟨low, fun tie => ?_⟩
  -- the two stand in this order among the entries of their key, and so among all of them
  have there := before.filter (key · = key b)
  rw [filter_sortedBy] at there
  have both : [a, b].filter (key · = key b) = [a, b] := by simp [tie]
  rw [both] at there
  exact there.trans List.filter_sublist

end DocComments.StableSort
