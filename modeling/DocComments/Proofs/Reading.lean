/-
  A unit, block by block.

  `Session.Stops` lists the walks before and after each block of a unit, with the number of the
  next line and the lines that are left; the last stop has no line left, and the walk through the
  unit is that stop with its item closed (`exists_last_stop`).

  A block is a sequence of moves again (`readBlock_moves`), so a stop is reached from the start of
  the unit by moves alone (`Stops.moves`).  What may be named on the way is told of the lines: the
  places are theirs, and the names are those that their headers give or list (`Registers`).
-/
import DocComments.Proofs.Handlers
import DocComments.Session.Reading

namespace DocComments

/-- Whatever the rules of the registry, the headers among the lines give and list names that may be
    registered. -/
def Registers (mine : String → Prop) (registry : Registry) (lines : List String) : Prop :=
  ∀ text ∈ lines, ∀ header, Header.ofLine? text = some header →
    (TitleRole.ofTitle header.title = .item → header.subtitle ≠ "" → mine header.subtitle)
      ∧ ∀ rule, registry.lookup? header.title = some rule → rule.hook = some .aliases →
          ∀ name ∈ Text.entriesOf header.subtitle, mine name

/-- A unit that may register anything registers what it may. -/
theorem registers_any (registry : Registry) (lines : List String) :
    Registers (fun _ => True) registry lines :=
  fun _ _ _ _ => ⟨fun _ _ => trivial, fun _ _ _ _ _ => trivial⟩

namespace Walk

variable {here : Origin → Prop} {mine : String → Prop} {base : Nat}

/-! ## One block -/

theorem skipLines_moves (w : Walk) (line : Nat) (lines : List String) :
    Moves here mine w (w.skipLines line lines).1 := by
  induction lines generalizing w line with
  | nil => exact .single .close
  | cons text rest ih =>
    have first : Moves here mine w (if Body.isComment text then w else w.closeItem) := by
      split
      · exact .refl
      · exact .single .close
    rw [skipLines]
    split
    · exact first
    · exact first.trans (ih _ _)

/-- Skipping takes lines off the front, and counts them. -/
theorem skipLines_rest (w : Walk) (line : Nat) (lines : List String) :
    (w.skipLines line lines).2.2 <:+ lines
      ∧ (w.skipLines line lines).2.1 + (w.skipLines line lines).2.2.length
          = line + lines.length := by
  induction lines generalizing w line with
  | nil => exact ⟨List.suffix_refl [], rfl⟩
  | cons text rest ih =>
    rw [skipLines]
    split
    · exact ⟨List.suffix_refl _, rfl⟩
    · obtain ⟨suffix, count⟩ := ih (if Body.isComment text then w else w.closeItem) (line + 1)
      refine ⟨suffix.trans (List.suffix_cons ..), ?_⟩
      rw [count, List.length_cons]
      omega

/-- Skipping is a matter of the scope alone. -/
theorem skipLines_toSession (w : Walk) (line : Nat) (lines : List String) :
    (w.skipLines line lines).1.toSession = w.toSession := by
  induction lines generalizing w line with
  | nil => rw [skipLines, closeItem_toSession]
  | cons text rest ih =>
    have first : (if Body.isComment text then w else w.closeItem).toSession = w.toSession := by
      split
      · rfl
      · exact closeItem_toSession w
    rw [skipLines]
    split
    · exact first
    · rw [ih, first]

theorem skipLines_registry (w : Walk) (line : Nat) (lines : List String) :
    (w.skipLines line lines).1.registry = w.registry := by
  rw [skipLines_toSession]

/-- Reading a block takes lines off the front, and counts them. -/
theorem readBlock_rest (w : Walk) (file : String) (line : Nat) (lines : List String) :
    (w.readBlock file line lines).2.2 <:+ lines
      ∧ (w.readBlock file line lines).2.1 + (w.readBlock file line lines).2.2.length
          = line + lines.length := by
  obtain ⟨suffix, count⟩ := skipLines_rest w line lines
  unfold readBlock
  split
  · rename_i skipped
    rw [skipped] at suffix count
    exact ⟨suffix, count⟩
  · rename_i w' line' text rest skipped
    rw [skipped] at suffix count
    have inner : rest <:+ lines := (List.suffix_cons text rest).trans suffix
    simp only [List.length_cons] at count
    split
    · refine ⟨inner, ?_⟩
      show line' + 1 + rest.length = line + lines.length
      omega
    · split
      · rename_i n under
        have := Body.lt_of_ofLines_error under
        refine ⟨(List.drop_suffix n rest).trans inner, ?_⟩
        simp only [List.length_drop]
        omega
      · rename_i body extracted
        have := Body.ofLines_length_le extracted
        refine ⟨(List.drop_suffix body.length rest).trans inner, ?_⟩
        simp only [List.length_drop]
        omega

/-- **A block is a sequence of moves.** -/
theorem readBlock_moves {w : Walk} {file : String} {line : Nat} {lines : List String}
    (sound : w.Sound base) (places : ∀ n, n < lines.length → here ⟨file, line + n⟩)
    (registers : Registers mine w.registry lines) :
    Moves here mine w (w.readBlock file line lines).1 := by
  have skipping : Moves here mine w (w.skipLines line lines).1 := skipLines_moves w line lines
  have kept := skipLines_registry w line lines
  obtain ⟨suffix, count⟩ := skipLines_rest w line lines
  unfold readBlock
  split
  · rename_i skipped
    rwa [skipped] at skipping
  · rename_i w' line' text rest skipped
    rw [skipped] at skipping suffix count kept
    simp only [List.length_cons] at count kept
    have sound := Moves.sound skipping sound
    -- the lines that are left keep their numbers
    have placed : ∀ n, n ≤ rest.length → here ⟨file, line' + n⟩ := by
      intro n le
      have := suffix.length_le
      simp only [List.length_cons] at this
      have place := places (line' - line + n) (by omega)
      rwa [show line + (line' - line + n) = line' + n by omega] at place
    split
    · exact skipping
    · rename_i header read
      obtain ⟨names, lists⟩ := registers text (suffix.subset (List.mem_cons_self ..)) header read
      split
      · exact skipping.tail (.note ⟨⟨file, line'⟩, .failure, _⟩ (placed 0 (Nat.zero_le _)))
      · rename_i body extracted
        have within : (header.block body ⟨file, line'⟩).Within here := by
          intro n le
          exact placed n (Nat.le_trans le (Body.ofLines_length_le extracted))
        have handled := settle_moves within
          (dispatch_moves sound within names (kept ▸ lists))
        have read := skipping.trans handled
        simp only
        split
        · exact read
        · exact read.tail .close

end Walk

/-! ## A whole unit -/

/-- Before and after each block of a unit: the walk, the number of the next line, and the lines
    that are left. -/
inductive Session.Stops (s : Session) (file : String) (lines : List String) :
    Walk → Nat → List String → Prop
  | start : Stops s file lines s.enter 1 lines
  | next {w : Walk} {line : Nat} {rest : List String} (before : Stops s file lines w line rest)
      (more : rest ≠ []) :
    Stops s file lines (w.readBlock file line rest).1 (w.readBlock file line rest).2.1
      (w.readBlock file line rest).2.2

namespace Session

variable {s : Session} {file : String} {lines : List String}

/-- From a stop, reading goes on to a stop without lines. -/
theorem Stops.finish {w : Walk} {line : Nat} {rest : List String}
    (stop : s.Stops file lines w line rest) :
    ∃ last, s.Stops file lines (w.readFrom file line rest) last [] := by
  fun_induction Walk.readFrom w file line rest with
  | case1 => exact ⟨_, stop⟩
  | case2 w line rest more after next rest' read ih =>
    have there := stop.next more
    rw [read] at there
    exact ih there

/-- From every stop, reading on leads to the walk through the unit. -/
theorem Stops.walkUnit_eq {w : Walk} {line : Nat} {rest : List String}
    (stop : s.Stops file lines w line rest) :
    s.walkUnit file lines = (w.readFrom file line rest).closeItem := by
  induction stop with
  | start => rfl
  | next _ more ih => rw [ih, Walk.readFrom, dif_neg more]

/-- **The walk through a unit** is its last stop with the item closed. -/
theorem exists_last_stop (s : Session) (file : String) (lines : List String) :
    ∃ w line, s.Stops file lines w line [] ∧ s.walkUnit file lines = w.closeItem := by
  have first : s.Stops file lines s.enter 1 lines := .start
  obtain ⟨last, stop⟩ := first.finish
  exact ⟨_, last, stop, rfl⟩

/-- The lines that are left are the last lines of the unit, and they are counted right. -/
theorem Stops.rest {w : Walk} {line : Nat} {rest : List String}
    (stop : s.Stops file lines w line rest) :
    rest <:+ lines ∧ line + rest.length = 1 + lines.length := by
  induction stop with
  | start => exact ⟨List.suffix_refl _, rfl⟩
  | @next w line rest _ _ ih =>
    obtain ⟨suffix, count⟩ := Walk.readBlock_rest w file line rest
    exact ⟨suffix.trans ih.1, by rw [count, ih.2]⟩

variable {here : Origin → Prop} {mine : String → Prop}

/-- Nothing is open where a unit begins. -/
theorem enter_sound (s : Session) : s.enter.Sound s.document.size :=
  Scope.Sound.closed (Nat.le_refl _)

/-- **Every stop is reached by moves.** -/
theorem Stops.moves {w : Walk} {line : Nat} {rest : List String}
    (stop : s.Stops file lines w line rest)
    (places : ∀ n, n < lines.length → here ⟨file, 1 + n⟩)
    (registers : ∀ w, Walk.Moves here mine s.enter w → Registers mine w.registry lines) :
    Walk.Moves here mine s.enter w := by
  induction stop with
  | start => exact .refl
  | @next w line rest before more ih =>
    obtain ⟨suffix, count⟩ := before.rest
    have placed : ∀ n, n < rest.length → here ⟨file, line + n⟩ := by
      intro n lt
      have := suffix.length_le
      have place := places (line - 1 + n) (by omega)
      rwa [show 1 + (line - 1 + n) = line + n by omega] at place
    refine ih.trans (Walk.readBlock_moves (Walk.Moves.sound ih s.enter_sound) placed ?_)
    intro text mem
    exact registers w ih text (suffix.subset mem)

theorem walkUnit_moves (places : ∀ n, n < lines.length → here ⟨file, 1 + n⟩)
    (registers : ∀ w, Walk.Moves here mine s.enter w → Registers mine w.registry lines) :
    Walk.Moves here mine s.enter (s.walkUnit file lines) := by
  obtain ⟨w, line, stop, eq⟩ := exists_last_stop s file lines
  rw [eq]
  exact (stop.moves places registers).tail .close

/-- The moves of a unit, whatever they name. -/
theorem walkUnit_moves_any (s : Session) (file : String) (lines : List String) :
    Walk.Moves (fun _ => True) (fun _ => True) s.enter (s.walkUnit file lines) :=
  walkUnit_moves (fun _ _ => trivial) fun _ _ => registers_any _ _

end Session

end DocComments
