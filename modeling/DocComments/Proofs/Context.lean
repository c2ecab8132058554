/-
  The open containers before and after every block.

  Each handler of a container sets the five numbers of the scope by hand, and one of them, the
  parent, is restored through the document when an item is closed.  They always agree: at every stop
  of every unit, and also inside a block, after the lines before its header have been skipped and
  after its dispatch, whatever the block is and however it ends.

  A refused block leaves the scope as it was, or no item open (`scope_of_rejected`): the number of a
  node that was not added is never in it.
-/
import DocComments.Proofs.Reading

namespace DocComments.Walk

variable {base : Nat} {w after : Walk} {block : Block} {cause : Cause}

/-! ## What a refusal leaves open -/

/-- The scope is as it was, or no item is open. -/
def KeepsOrCloses (w after : Walk) : Prop := after.scope = w.scope ∨ after.scope.item = none

theorem KeepsOrCloses.refl (w : Walk) : KeepsOrCloses w w := .inl rfl

/-- Where a File is made up nothing was open, so no item is. -/
theorem ensureFile_keepsOrCloses (sound : w.Sound base) (origin : Origin) :
    KeepsOrCloses w (w.ensureFile origin).1 := by
  unfold ensureFile
  split
  · exact .refl w
  · rename_i shut
    have closed := Scope.Sound.eq_closed sound shut
    exact .inr (by rw [closed])

/-- A refused block with a rule has at most made up a File. -/
theorem addRegistered_rejected {rule : Rule} (sound : w.Sound base)
    (h : w.addRegistered rule block = (after, .rejected cause)) : KeepsOrCloses w after := by
  have placed : KeepsOrCloses w (w.placeFor rule block.origin).1 := by
    unfold placeFor
    split
    · exact .refl w
    · exact .refl w
    · exact ensureFile_keepsOrCloses sound block.origin
    · exact .refl w
  unfold addRegistered at h
  generalize w.placeFor rule block.origin = place at placed h
  obtain ⟨w', parent⟩ := place
  cases parent with
  | none => simp at h
  | some parent =>
    simp only at h placed
    split at h
    · cases h
      exact placed
    · split at h
      · cases h
        exact placed
      · simp at h

/-- Of the blocks in an item, only those with a rule or without a known title are refused. -/
theorem addLeaf_rejected (sound : w.Sound base)
    (h : w.addLeaf block = (after, .rejected cause)) : KeepsOrCloses w after := by
  unfold addLeaf at h
  split at h
  · unfold addImage at h
    split at h <;> simp at h
  · unfold addImages at h
    split at h <;> simp at h
  · split at h
    · exact addRegistered_rejected sound h
    · split at h
      · unfold addWordList at h
        split at h <;> simp at h
      · cases h
        exact .refl w

/-- **A refused item** leaves none open: the last one ends before the name is looked at. -/
theorem openItem_rejected (h : w.openItem block = (after, .rejected cause)) :
    after.scope.item = none := by
  have shut : (w.prepareItem block.origin).1.scope.item = none := rfl
  unfold openItem at h
  generalize w.prepareItem block.origin = prepared at shut h
  obtain ⟨w', container⟩ := prepared
  simp only at h shut
  split at h
  · cases h
    exact shut
  · simp at h

/-- **A refused block** leaves the scope as it was, or no item open. -/
theorem scope_of_rejected (sound : w.Sound base)
    (h : w.dispatch block = (after, .rejected cause)) : KeepsOrCloses w after := by
  unfold dispatch at h
  split at h
  · unfold define at h
    split at h
    · cases h
      exact .refl w
    · split at h
      · cases h
        exact .refl w
      · simp at h
  · unfold configure at h
    split at h
    · cases h
      exact .refl w
    · split at h
      · cases h
        exact .refl w
      · simp at h
  · unfold openFile at h
    split at h
    · cases h
      exact .refl w
    · simp at h
  · split at h
    · cases h
      exact .refl w
    · unfold placeBlock at h
      split at h
      · simp [openSect] at h
      · unfold openSubsect at h
        split at h
        · cases h
          exact .refl w
        · split at h
          · cases h
            exact .refl w
          · simp at h
      · unfold describeFile at h
        split at h
        · cases h
          exact .refl w
        · simp at h
      · split at h
        · exact addLeaf_rejected sound h
        · exact .inr (openItem_rejected h)
      · exact addLeaf_rejected sound h

end DocComments.Walk

namespace DocComments.Session

open Walk

variable {s : Session} {file : String} {lines rest : List String} {w : Walk} {line : Nat}

/-! ## At every stop -/

/-- The moves to a stop, whatever they name. -/
theorem Stops.moves_any (stop : s.Stops file lines w line rest) :
    Moves (fun _ => True) (fun _ => True) s.enter w :=
  stop.moves (fun _ _ => trivial) fun _ _ => registers_any _ _

theorem Stops.sound (stop : s.Stops file lines w line rest) : w.Sound s.document.size :=
  Moves.sound stop.moves_any s.enter_sound

/-- Closing the item of a sound scope leads to the innermost container that is left. -/
theorem closeItem_scope {base : Nat} (sound : w.Sound base) :
    w.closeItem.scope = w.scope.shutItem := by
  rw [closeItem_eq sound]

/-- **No block spoils the scope**, however it ends. -/
theorem dispatch_sound {base : Nat} (sound : w.Sound base) (block : Block) :
    (w.dispatch block).1.Sound base := by
  have moves : Moves (fun _ => True) (fun _ => True) w (w.dispatch block).1 :=
    dispatch_moves sound (fun _ _ => trivial) (fun _ _ => trivial) fun _ _ _ _ _ => trivial
  exact Moves.sound moves sound

/-- **The open containers agree at every stop.**  The scope is sound there, it is empty as long as
    no file is open, and closing the item leads to the innermost container that is left.  All of it
    holds inside the next block as well, where the skipped lines lead and after the dispatch of
    any block; one that is refused leaves the scope as it was, or no item open. -/
theorem scope_at_stops (stop : s.Stops file lines w line rest) :
    w.Sound s.document.size
      ∧ (w.scope.file = none → w.scope = {})
      ∧ w.closeItem.scope = w.scope.shutItem
      ∧ (w.skipLines line rest).1.Sound s.document.size
      ∧ ∀ block : Block,
          let before := (w.skipLines line rest).1
          let after := (before.dispatch block).1
          after.Sound s.document.size
            ∧ (after.scope.file = none → after.scope = {})
            ∧ after.closeItem.scope = after.scope.shutItem
            ∧ ∀ cause, (before.dispatch block).2 = .rejected cause →
                after.scope = before.scope ∨ after.scope.item = none := by
  have sound := stop.sound
  have moves : Moves (fun _ => True) (fun _ => True) w (w.skipLines line rest).1 :=
    skipLines_moves w line rest
  have skipped := Moves.sound moves sound
  refine ⟨sound, Scope.Sound.eq_closed sound, closeItem_scope sound, skipped, fun block => ?_⟩
  have handled := dispatch_sound skipped block
  refine ⟨handled, Scope.Sound.eq_closed handled, closeItem_scope handled, fun cause h => ?_⟩
  exact scope_of_rejected skipped (Prod.ext rfl h)

/-- An item stands open at the second stop of this unit, under the section that it implied. -/
theorem scope_at_stops_open_item :
    let w := (({} : Session).enter.readBlock "a" 1 ["// Function: f()", "// Example:"]).1
    w.Sound 0 ∧ w.scope.item = some 2 ∧ w.closeItem.scope.parent = some 1 := by
  have stop : Session.Stops {} "a" ["// Function: f()", "// Example:"] _ _ _ :=
    .next .start (by decide)
  obtain ⟨sound, -, closed, -⟩ := scope_at_stops stop
  exact ⟨sound, by decide, (congrArg Scope.parent closed).trans (by decide)⟩

end DocComments.Session
