/-
  Bodies further to the right.

  The lines of a body may be moved to the right together, or back to the left as long as two spaces
  stand in front of each.  What is read is told from the texts behind these spaces alone
  (`ofLines_at`): the common spaces add as much to the width that the first line fixes as to the
  spaces of every later line, and the cut takes them off again.  So a body stays the same body, and
  a line that is to blame stays to blame.

  For a unit there is one thing more.  After a line to blame the rest of the body is read as lines
  between blocks, as they stand, and these lines do differ.  But all of them are comments and none
  is a header, so they are passed without effect (`readFrom_comments`).

    * `reindented_body`  a block may be re-indented: neither extraction nor the unit changes.
-/
import DocComments.Proofs.Arrival
import DocComments.Proofs.Extraction
import DocComments.Proofs.InertComments

namespace DocComments

/-! ## Extraction -/

namespace Body

variable {k k' : Nat} {texts tail : List String}

theorem dedented_replicate (k width : Nat) (cs : List Char) :
    dedented (k + width) (List.replicate k ' ' ++ cs) = dedented width cs := by
  have cut : (List.replicate k ' ' ++ cs).drop (k + width) = cs.drop width := by
    rw [← List.drop_drop, List.drop_left' List.length_replicate]
  rw [dedented, dedented, cut]

/-- **Common spaces make no difference** to the body that some texts make. -/
theorem bodyOf_replicate (k : Nat) (texts : List (List Char)) :
    bodyOf (texts.map (List.replicate k ' ' ++ ·)) = bodyOf texts := by
  cases texts with
  | nil => rfl
  | cons first later =>
    have blank : ∀ c ∈ List.replicate k ' ', Text.isBlank c := fun _ => isBlank_of_mem_replicate
    simp only [List.map_cons, bodyOf, List.findIdx?_map, List.map_map, Function.comp_def,
      blankWidth_append blank, byteWidth_replicate, Text.trim_append blank,
      leadingSpaces_replicate, Nat.add_lt_add_iff_left, dedented_replicate]

/-- **What is read of texts at one indentation** is told from the texts. -/
theorem ofLines_at (le : minIndent ≤ k) (texts : List String) (ends : Ends tail) :
    ofLines (texts.map (indented k) ++ tail) = bodyOf (texts.map String.toList) := by
  have texts_map : texts.map (List.replicate k ' ' ++ ·.toList)
      = (texts.map String.toList).map (List.replicate k ' ' ++ ·) := by
    rw [List.map_map]
    rfl
  rw [ofLines_eq, candidates_map (candidate?_indented le) ends, texts_map, bodyOf_replicate]

theorem ofLines_reindented (le : minIndent ≤ k) (le' : minIndent ≤ k') (texts : List String)
    (ends : Ends tail) :
    ofLines (texts.map (indented k) ++ tail) = ofLines (texts.map (indented k') ++ tail) := by
  rw [ofLines_at le texts ends, ofLines_at le' texts ends]

/-- All lines of an indented body are comments. -/
theorem isComment_of_mem_indented {line : String} (mem : line ∈ texts.map (indented k)) :
    isComment line := by
  obtain ⟨text, -, rfl⟩ := List.mem_map.mp mem
  rw [isComment, comment?_indented]
  rfl

/-- None of them is a header. -/
theorem not_isHeader_of_mem_indented (le : minIndent ≤ k) {line : String}
    (mem : line ∈ texts.map (indented k)) : ¬ Header.isHeader line := by
  obtain ⟨text, -, rfl⟩ := List.mem_map.mp mem
  simp [Header.isHeader, Header.ofLine?_of_candidate, candidate?_indented le]

theorem drop_indented (k : Nat) (tail : List String) {n : Nat} (le : n ≤ texts.length) :
    (texts.map (indented k) ++ tail).drop n = (texts.drop n).map (indented k) ++ tail := by
  rw [List.drop_append_of_le_length (by rwa [List.length_map]), List.map_drop]

/-- Whether a comment comes next does not depend on the indentation. -/
theorem head_indented (k k' : Nat) (texts tail : List String) :
    (texts.map (indented k) ++ tail).head?.any isComment
      = (texts.map (indented k') ++ tail).head?.any isComment := by
  cases texts with
  | nil => rfl
  | cons text texts => simp [isComment, comment?_indented]

/-- A body, or what stands before a line to blame, is no longer than the indented lines. -/
theorem extent_indented_le (k : Nat) (texts : List String) (ends : Ends tail) :
    extent (ofLines (texts.map (indented k) ++ tail)) ≤ texts.length := by
  have le := extent_le (texts.map (indented k))
  rwa [← ofLines_append _ ends, List.length_map] at le

end Body

/-! ## Reading -/

namespace Walk

variable {w : Walk} {file : String} {line : Nat} {gap : List String}

/-- **Comments that are no headers** only take lines. -/
theorem readFrom_comments (comments : ∀ text ∈ gap, Body.isComment text)
    (plain : ∀ text ∈ gap, ¬ Header.isHeader text) (tail : List String) :
    (w.readFrom file line (gap ++ tail)).closeItem
      = (w.readFrom file (line + gap.length) tail).closeItem := by
  have passed : ∀ rest, w.passing (gap ++ rest) = w.passing rest := by
    intro rest
    rw [passing, List.foldl_append]
    exact congrArg (fun w => passing w rest) (passing_comments comments)
  have together : ∀ {rest}, (∀ text ∈ rest, ¬ Header.isHeader text) →
      ∀ text ∈ gap ++ rest, ¬ Header.isHeader text := by
    intro rest others text mem
    rcases List.mem_append.mp mem with early | late
    · exact plain text early
    · exact others text late
  rcases Header.exists_first tail with
    others | ⟨before, text, header, rest, rfl, read, others⟩
  · rw [readFrom_plain (together others), readFrom_plain others, passed]
  · rw [← List.append_assoc, readFrom_passing (together others) read, readFrom_passing others read,
      passed, List.length_append, Nat.add_assoc]

end Walk

/-! ## Units -/

section

variable {k k' : Nat} {tail : List String}

/-- A block leaves the same walk wherever its body stands. -/
theorem Visit.left_reindented (w : Walk) (origin : Origin) (header : Header)
    (le : Body.minIndent ≤ k) (le' : Body.minIndent ≤ k') (texts : List String)
    (ends : Body.Ends tail) :
    (Visit.mk w origin header (texts.map (Body.indented k) ++ tail)).left
      = (Visit.mk w origin header (texts.map (Body.indented k') ++ tail)).left := by
  have same := Body.ofLines_reindented le le' texts ends
  have within := Body.extent_indented_le k' texts ends
  unfold Visit.left Visit.settled Visit.handled
  simp only [same]
  cases extracted : Body.ofLines (texts.map (Body.indented k') ++ tail) with
  | error n => rfl
  | ok body =>
    have le : body.length ≤ texts.length := by rwa [extracted] at within
    simp only [Body.drop_indented k tail le, Body.drop_indented k' tail le,
      Body.head_indented k k' (texts.drop body.length) tail]

/-- Reading comes to the same end from a block wherever its body stands. -/
theorem Visit.end_reindented (w : Walk) (origin : Origin) (header : Header) (file : String)
    (le : Body.minIndent ≤ k) (le' : Body.minIndent ≤ k') (texts : List String)
    (ends : Body.Ends tail) :
    let v : Visit := ⟨w, origin, header, texts.map (Body.indented k) ++ tail⟩
    let v' : Visit := ⟨w, origin, header, texts.map (Body.indented k') ++ tail⟩
    (v.left.readFrom file (origin.line + 1 + v.taken) (v.rest.drop v.taken)).closeItem
      = (v'.left.readFrom file (origin.line + 1 + v'.taken) (v'.rest.drop v'.taken)).closeItem := by
  intro v v'
  have within := Body.extent_indented_le k texts ends
  have taken : v'.taken = v.taken := by
    rw [Visit.taken_eq, Visit.taken_eq, Body.ofLines_reindented le le' texts ends]
  rw [← v.taken_eq] at within
  -- what is left of the body, and how it is passed
  have passed : ∀ {k}, Body.minIndent ≤ k →
      (v.left.readFrom file (origin.line + 1 + v.taken)
          ((texts.drop v.taken).map (Body.indented k) ++ tail)).closeItem
        = (v.left.readFrom file (origin.line + 1 + v.taken + (texts.drop v.taken).length)
            tail).closeItem := by
    intro k le
    rw [Walk.readFrom_comments (fun _ => Body.isComment_of_mem_indented)
      (fun _ => Body.not_isHeader_of_mem_indented le), List.length_map]
  rw [taken, ← Visit.left_reindented w origin header le le' texts ends,
    Body.drop_indented k tail within, Body.drop_indented k' tail within, passed le, passed le']

end

namespace Session

/-- **A body may be re-indented.**  Extraction gives the same lines and the same next index, or
    blames the line with the same index; and a unit with the body after one of its headers gives the
    same session and the same outcome. -/
theorem reindented_body {k k' : Nat} (le : Body.minIndent ≤ k) (le' : Body.minIndent ≤ k')
    (texts : List String) {tail : List String} (ends : Body.Ends tail) :
    (∀ front : List String,
        Body.extract (front ++ (texts.map (Body.indented k) ++ tail)) front.length
          = Body.extract (front ++ (texts.map (Body.indented k') ++ tail)) front.length)
      ∧ ∀ (s : Session) (file text : String) (before : List String), Header.isHeader text →
        s.readLines (before ++ text :: (texts.map (Body.indented k) ++ tail)) file
          = s.readLines (before ++ text :: (texts.map (Body.indented k') ++ tail)) file := by
  constructor
  · intro front
    rw [Body.extract_append, Body.extract_append, Body.ofLines_reindented le le' texts ends]
  · intro s file text before isHeader
    obtain ⟨header, read⟩ := Option.isSome_iff_exists.mp isHeader
    obtain ⟨w, arrives⟩ := s.enter.arrival file 1 before read
    have whole : ∀ rest, ∃ past future, s.visits file (before ++ text :: rest)
        = past ++ ⟨w, ⟨file, 1 + before.length⟩, header, rest⟩ :: future :=
      fun rest => List.append_of_mem (arrives rest)
    have walk : s.walkUnit file (before ++ text :: (texts.map (Body.indented k) ++ tail))
        = s.walkUnit file (before ++ text :: (texts.map (Body.indented k') ++ tail)) := by
      obtain ⟨past, future, split⟩ := whole (texts.map (Body.indented k) ++ tail)
      obtain ⟨past', future', split'⟩ := whole (texts.map (Body.indented k') ++ tail)
      rw [walkUnit_eq_of_visit split, walkUnit_eq_of_visit split']
      exact Visit.end_reindented w _ header file le le' texts ends
    rw [readLines, readLines, walk]

/-- The third line of a Usage is all blank, and has two spaces less than the first.  It is to blame
    at both indentations; the last line is passed, and the item is still open for its alias. -/
theorem reindented_body_refused :
    let texts := ["  g(x)", "   h", "", "    deep"]
    let tail := ["//", "// Alias: g"]
    let narrow := texts.map (Body.indented 2) ++ tail
    let wide := texts.map (Body.indented 5) ++ tail
    let outcome := fun lines =>
      ((start {}).readLines (["// Function: f"] ++ "// Usage:" :: lines) "u").2
    narrow = ["//    g(x)", "//     h", "//  ", "//      deep", "//", "// Alias: g"]
      ∧ wide = ["//       g(x)", "//        h", "//     ", "//         deep", "//", "// Alias: g"]
      ∧ Body.extract (["// Function: f", "// Usage:"] ++ narrow) 2 = .error 4
      ∧ Body.extract (["// Function: f", "// Usage:"] ++ wide) 2 = .error 4
      ∧ outcome narrow = outcome wide
      ∧ (outcome wide).names = ["f", "g"]
      ∧ (outcome wide).entries.map LogEntry.text =
        ["FAIL: u:2: Body line has less indentation than first line, while declaring block: "
            ++ "Usage"] := by
  intro texts tail narrow wide outcome
  have le : Body.minIndent ≤ 2 := by decide
  have le' : Body.minIndent ≤ 5 := by decide
  have ends : Body.Ends tail := by
    unfold Body.Ends
    decide +kernel
  obtain ⟨extracted, read⟩ := reindented_body le le' texts ends
  have blamed : Body.extract (["// Function: f", "// Usage:"] ++ wide) 2 = .error 4 := by
    decide +kernel
  have same := read (start {}) "u" "// Usage:" ["// Function: f"] (by decide +kernel)
  exact ⟨by decide +kernel, by decide +kernel,
    (extracted ["// Function: f", "// Usage:"]).trans blamed, blamed, congrArg Prod.snd same,
    by decide +kernel, by decide +kernel⟩

end Session

end DocComments
