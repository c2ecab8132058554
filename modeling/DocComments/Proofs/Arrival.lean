/-
  How reading comes to a header.

  What stands before a header is read without a look at what stands after it: a header ends every
  body, and it is a comment, so it closes no item.  So two units that begin with the same lines and
  the same header come to that header with the same walk, and the header has the same place in both
  (`arrival`).

  A header whose body is written at one indentation is read in one go, and reading goes on after the
  body (`Visit.left_written`).
-/
import DocComments.Proofs.OpenItem
import DocComments.Proofs.Written

namespace DocComments

/-! ## Up to a header -/

namespace Walk

variable {file : String} {text : String} {header : Header}

/-- A block that stands before a header is read without a look at what follows the header. -/
theorem left_append (w : Walk) (origin : Origin) (first : Header) (inner : List String)
    (read : Header.ofLine? text = some header) (rest : List String) :
    (Visit.mk w origin first (inner ++ text :: rest)).left
      = (Visit.mk w origin first (inner ++ [text])).left := by
  have ends : ∀ rest, Body.ofLines (inner ++ text :: rest) = Body.ofLines inner :=
    fun rest => Body.ofLines_append inner (Body.ends_of_header read rest)
  have settled : (Visit.mk w origin first (inner ++ text :: rest)).settled
      = (Visit.mk w origin first (inner ++ [text])).settled := by
    simp only [Visit.settled, Visit.handled, ends]
  unfold Visit.left
  simp only [ends, settled]
  cases extracted : Body.ofLines inner with
  | error n => rfl
  | ok body =>
    have next : ∀ rest : List String, ((inner ++ text :: rest).drop body.length).head?
        = ((inner.drop body.length).head?).or (some text) := by
      intro rest
      rw [List.drop_append_of_le_length (Body.ofLines_length_le extracted), List.head?_append]
      rfl
    simp only [next]

/-- **Reading comes to a header** with a walk that the lines before it decide. -/
theorem arrival (w : Walk) (file : String) (line : Nat) (before : List String)
    (read : Header.ofLine? text = some header) :
    ∃ w' : Walk, ∀ rest, ⟨w', ⟨file, line + before.length⟩, header, rest⟩
      ∈ w.visitsFrom file line (before ++ text :: rest) := by
  induction count : before.length using Nat.strongRecOn generalizing w line before with
  | ind length ih =>
  rcases Header.exists_first before with
    plain | ⟨early, first, other, inner, rfl, found, plain⟩
  · refine ⟨w.passing before, fun rest => ?_⟩
    rw [visitsFrom, dif_neg (by simp), visit?_header plain read, ← count]
    exact List.mem_append_left _ (by simp)
  · -- the block of the earlier header is the same whatever follows, and leaves fewer lines
    let origin : Origin := ⟨file, line + early.length⟩
    let visit (rest : List String) : Visit := ⟨w.passing early, origin, other, inner ++ text :: rest⟩
    let taken := Body.extent (Body.ofLines inner)
    have within : taken ≤ inner.length := Body.extent_le inner
    have here : ∀ rest, w.readBlock file line (early ++ first :: inner ++ text :: rest)
        = ((visit []).left, origin.line + 1 + taken, inner.drop taken ++ text :: rest) := by
      intro rest
      have met : w.visit? file line (early ++ first :: inner ++ text :: rest)
          = some (visit rest) := by
        rw [List.append_assoc, List.cons_append, visit?_header plain found]
      obtain ⟨extent, left⟩ := Visit.taken_append (w.passing early) origin other inner
        (Body.ends_of_header read rest)
      rw [readBlock_of_visit? met, extent, left, left_append _ origin other inner read rest]
    simp only [List.length_append, List.length_cons] at count
    have fewer : (inner.drop taken).length < length := by
      rw [List.length_drop]
      omega
    obtain ⟨w', later⟩ := ih _ fewer (visit []).left (origin.line + 1 + taken) (inner.drop taken) rfl
    refine ⟨w', fun rest => ?_⟩
    have same : origin.line + 1 + taken + (inner.drop taken).length = line + length := by
      simp only [origin, List.length_drop]
      omega
    rw [visitsFrom, dif_neg (by simp), ← same]
    refine List.mem_append_right _ ?_
    simp only [here]
    exact later rest

end Walk

/-- Units that begin with the same lines and the same header come to it with the same walk. -/
theorem Session.visit_elsewhere {s : Session} {file text : String} {before rest : List String}
    {v : Visit} (met : v ∈ s.visits file (before ++ text :: rest))
    (place : v.origin.line = before.length + 1) :
    Header.ofLine? text = some v.header ∧ v.rest = rest
      ∧ ∀ rest', { v with rest := rest' } ∈ s.visits file (before ++ text :: rest') := by
  obtain ⟨n, text', found, read, origin, tail⟩ := passage_of_mem_visits met
  obtain rfl : n = before.length := by
    rw [origin] at place
    simp only at place
    omega
  obtain rfl : text = text' := by simpa using found
  obtain ⟨w, arrives⟩ := s.enter.arrival file 1 before read
  have same := visit_unique met (arrives rest) (by rw [place, Nat.add_comm])
  refine ⟨read, ?_, fun rest' => ?_⟩
  · rw [← same]
  · rw [← same]
    exact arrives rest'

/-! ## Through a block -/

/-- The walk that faces these lines next: only a comment keeps the item open. -/
def Walk.facing (w : Walk) (rest : List String) : Walk :=
  if rest.head?.any Body.isComment then w else w.closeItem

theorem Walk.facing_toSession (w : Walk) (rest : List String) :
    (w.facing rest).toSession = w.toSession := by
  unfold facing
  split
  · rfl
  · exact closeItem_toSession w

/-- **A block whose body is all there was** before some lines leaves these lines. -/
theorem Visit.left_whole {v : Visit} {body inner rest : List String}
    (extracted : Body.ofLines v.rest = .ok body) (written : v.rest = inner ++ rest)
    (length : body.length = inner.length) :
    v.rest.drop v.taken = rest ∧ v.left = v.settled.facing rest := by
  have dropped : v.rest.drop body.length = rest := by
    rw [written, length]
    exact List.drop_left
  refine ⟨?_, ?_⟩
  · rw [taken_eq, extracted]
    exact dropped
  · simp only [left, extracted, dropped]
    rfl

/-- **A block that is written at one indentation** is read in one go. -/
theorem Visit.left_written {v : Visit} {k : Nat} {texts rest : List String}
    (le : Body.minIndent ≤ k) (start : Body.flush texts) (ends : Body.Ends rest)
    (written : v.rest = texts.map (Body.indented k) ++ rest) :
    Body.ofLines v.rest = .ok (texts.map Body.cleaned) ∧ v.rest.drop v.taken = rest
      ∧ v.left = v.settled.facing rest := by
  have extracted : Body.ofLines v.rest = .ok (texts.map Body.cleaned) := by
    rw [written, Body.ofLines_append _ ends, Body.ofLines_indented le start]
  exact ⟨extracted, left_whole extracted written (by simp)⟩

end DocComments
