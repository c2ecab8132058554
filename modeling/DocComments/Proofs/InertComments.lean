/-
  Plain comments before a header.

  A comment line with fewer than two spaces after its slashes that is no header goes on with no body
  and closes no item; there is nothing that it does but to take a line (`passing_comments`).  So a
  unit may have any number of them before a header: all that changes are the lines of what stands
  from that header on.

  Reading goes from header to header, and so do the proofs.  Reading to the next header only closes
  the item or leaves it (`readFrom_header`); the block of a header is read without a look at what
  follows its body, but for the one question whether that is a comment (`left_lowered`).  Up to the
  inserted lines the two walks read the same lines at the same places, and from there on the same
  lines `k` further down; both ways they stay related (`readFrom_before`, `readFrom_after`).

    * `inert_comments`  what inserting the lines does to a unit.
-/
import DocComments.Proofs.LoweredHandlers
import DocComments.Proofs.Passages
import DocComments.Proofs.Written
import DocComments.Session

namespace DocComments

namespace Body

variable {text : String} {header : Header}

/-- The comments that may be inserted begin with `//` and have fewer than two spaces after it, and
    they are no headers. -/
def Inert (line : String) : Prop :=
  (comment? line).any (leadingSpaces · < 2) ∧ ¬ Header.isHeader line

instance : DecidablePred Inert := fun _ => inferInstanceAs (Decidable (_ ∧ _))

/-- The lines begin with a comment that goes on with no body. -/
def Pauses (lines : List String) : Prop := lines.head?.any isComment ∧ Ends lines

theorem isComment_of_inert {line : String} (inert : Inert line) : isComment line := by
  obtain ⟨text, comment, -⟩ := (Option.any_eq_true ..).mp inert.1
  rw [isComment, comment]
  rfl

theorem candidate?_of_inert {line : String} (inert : Inert line) : candidate? line = none := by
  obtain ⟨text, comment, few⟩ := (Option.any_eq_true ..).mp inert.1
  rw [candidate?, comment, Option.filter_some, if_neg]
  rw [decide_eq_true_iff, Nat.not_le]
  exact of_decide_eq_true few

theorem pauses_of_header (read : Header.ofLine? text = some header) (rest : List String) :
    Pauses (text :: rest) :=
  ⟨by simpa using Header.isComment_of_ofLine? read, ends_of_header read rest⟩

/-- Where a header follows, the inserted lines and the header go on with no body. -/
theorem pauses_of_inert {gap : List String} (inert : ∀ line ∈ gap, Inert line)
    (read : Header.ofLine? text = some header) (rest : List String) :
    Pauses (gap ++ text :: rest) := by
  cases gap with
  | nil => exact pauses_of_header read rest
  | cons first gap =>
    have firstInert := inert first (List.mem_cons_self ..)
    exact ⟨by simpa using isComment_of_inert firstInert, by
      simpa [Ends] using candidate?_of_inert firstInert⟩

/-- What follows a body, and whether that is a comment, is the same before two such tails. -/
theorem next_of_pauses {inner tail tail' body : List String} (pauses : Pauses tail)
    (pauses' : Pauses tail') (extracted : ofLines (inner ++ tail) = .ok body) :
    ((inner ++ tail').drop body.length).head?.any isComment
      = ((inner ++ tail).drop body.length).head?.any isComment := by
  rw [ofLines_append inner pauses.2] at extracted
  have within := ofLines_length_le extracted
  rw [List.drop_append_of_le_length within, List.drop_append_of_le_length within,
    List.head?_append, List.head?_append]
  cases (inner.drop body.length).head? with
  | some line => rfl
  | none => simp only [Option.none_or, pauses.1, pauses'.1]

end Body

namespace Walk

variable {w : Walk} {file text : String} {line : Nat} {before rest : List String} {header : Header}

/-! ## Reading to the next header -/

/-- **Comments do nothing.** -/
theorem passing_comments {gap : List String} (comments : ∀ text ∈ gap, Body.isComment text) :
    w.passing gap = w := by
  unfold passing
  induction gap with
  | nil => rfl
  | cons text gap ih =>
    rw [List.foldl_cons, if_pos (comments text (List.mem_cons_self ..))]
    exact ih fun other mem => comments other (List.mem_cons_of_mem _ mem)

theorem closeItem_closeItem (w : Walk) : w.closeItem.closeItem = w.closeItem := by
  cases opened : w.scope.item <;> simp [closeItem, opened]

theorem readFrom_eq {lines : List String} (more : lines ≠ []) :
    w.readFrom file line lines
      = let next := w.readBlock file line lines
        next.1.readFrom file next.2.1 next.2.2 := by
  rw [readFrom, dif_neg more]

/-- Lines without a header are passed, and that is all. -/
theorem readFrom_plain {lines : List String} (plain : ∀ text ∈ lines, ¬ Header.isHeader text) :
    (w.readFrom file line lines).closeItem = (w.passing lines).closeItem := by
  by_cases none : lines = []
  · rw [none, readFrom, dif_pos rfl]
    rfl
  · have skipped : w.skipLines line lines
        = ((w.passing lines).closeItem, line + lines.length, []) := by
      have skips : w.skipLines line (lines ++ [])
          = (w.passing lines).skipLines (line + lines.length) [] := skipLines_plain plain
      rwa [List.append_nil, skipLines] at skips
    rw [readFrom_eq none, readBlock, skipped, readFrom, dif_pos rfl, closeItem_closeItem]

/-- **Reading to the next header:** the lines before it are passed, its block is read, and reading
    goes on after that. -/
theorem readFrom_header (plain : ∀ text ∈ before, ¬ Header.isHeader text)
    (read : Header.ofLine? text = some header) :
    let v : Visit := ⟨w.passing before, ⟨file, line + before.length⟩, header, rest⟩
    w.readFrom file line (before ++ text :: rest)
      = v.left.readFrom file (line + before.length + 1 + v.taken) (rest.drop v.taken) := by
  intro v
  have met : w.visit? file line (before ++ text :: rest) = some v := visit?_header plain read
  rw [readFrom_eq (by simp), readBlock_of_visit? met]

/-- Before a header the lines may be passed first. -/
theorem readFrom_passing (plain : ∀ text ∈ before, ¬ Header.isHeader text)
    (read : Header.ofLine? text = some header) :
    w.readFrom file line (before ++ text :: rest)
      = (w.passing before).readFrom file (line + before.length) (text :: rest) := by
  rw [readFrom_header plain read]
  exact (readFrom_header (w := w.passing before) (List.forall_mem_nil _) read).symm

/-! ## Related walks -/

variable {s : Session} {start k : Nat} {v : Walk}

theorem Lowered.passing (lowered : Lowered s start k w v) (lines : List String) :
    Lowered s start k (w.passing lines) (v.passing lines) := by
  unfold Walk.passing
  induction lines generalizing w v with
  | nil => exact lowered
  | cons text rest ih =>
    have first : Lowered s start k (if Body.isComment text then w else w.closeItem)
        (if Body.isComment text then v else v.closeItem) := by
      split
      · exact lowered
      · exact lowered.closeItem
    exact ih first

/-- **The block of a header** is read alike where the bodies are the same, and where both are
    followed by a comment or none is. -/
theorem left_lowered (lowered : Lowered s start k w v) (origin : Origin) (header : Header)
    {rest rest' : List String} (same : Body.ofLines rest' = Body.ofLines rest)
    (beside : ∀ body, Body.ofLines rest = .ok body →
      origin.line + body.length < start ∨ start ≤ origin.line)
    (next : ∀ body, Body.ofLines rest = .ok body →
      (rest'.drop body.length).head?.any Body.isComment
        = (rest.drop body.length).head?.any Body.isComment) :
    Lowered s start k (Visit.mk w origin header rest).left
      (Visit.mk v (origin.lowered start k) header rest').left := by
  unfold Visit.left
  simp only [same]
  cases extracted : Body.ofLines rest with
  | error n =>
    simp only [Visit.settled, Visit.handled, same, extracted]
    exact lowered.note (.failure origin header.title (.same rfl))
  | ok body =>
    let block := header.block body origin
    have settled : Lowered s start k (Visit.mk w origin header rest).settled
        (Visit.mk v (origin.lowered start k) header rest').settled := by
      have retells : Retells s start k (w.dispatch block) (v.dispatch (block.lowered start k)) :=
        dispatch_lowered lowered (beside body extracted)
      rw [settled_ok (v := ⟨w, origin, header, rest⟩) extracted,
        settled_ok (v := ⟨v, origin.lowered start k, header, rest'⟩) (same.trans extracted)]
      exact settle_lowered retells block
    simp only [next body extracted]
    split
    · exact settled
    · exact settled.closeItem

/-- **After the inserted lines:** the same lines `k` further down. -/
theorem readFrom_after (lowered : Lowered s start k w v) (after : start ≤ line)
    (lines : List String) :
    Lowered s start k (w.readFrom file line lines).closeItem
      (v.readFrom file (line + k) lines).closeItem := by
  induction count : lines.length using Nat.strongRecOn generalizing w v line lines with
  | ind n ih =>
    rcases Header.exists_first lines with
      plain | ⟨before, text, header, rest, rfl, read, plain⟩
    · rw [readFrom_plain plain, readFrom_plain plain]
      exact (lowered.passing lines).closeItem
    · let origin : Origin := ⟨file, line + before.length⟩
      let visit := Visit.mk (w.passing before) origin header rest
      have below : start ≤ origin.line := Nat.le_trans after (Nat.le_add_right ..)
      have place : origin.lowered start k = ⟨file, line + k + before.length⟩ := by
        rw [Origin.lowered_of_le below, Nat.add_right_comm]
      have same : Body.ofLines rest = Body.ofLines rest := rfl
      have left := left_lowered (lowered.passing before) origin header same
        (fun _ _ => .inr below) fun _ _ => rfl
      rw [place] at left
      have shorter : (rest.drop visit.taken).length < n := by
        rw [List.length_drop, ← count, List.length_append, List.length_cons]
        omega
      have further : start ≤ line + before.length + 1 + visit.taken :=
        Nat.le_trans below (Nat.le_trans (Nat.le_succ _) (Nat.le_add_right ..))
      have later := ih _ shorter left further (rest.drop visit.taken) rfl
      have line' : line + before.length + 1 + visit.taken + k
          = line + k + before.length + 1 + visit.taken := by omega
      rw [line'] at later
      rw [readFrom_header plain read, readFrom_header plain read]
      exact later

/-! ## Up to the inserted lines -/

/-- A block that stands above `start` with its body is read alike before two tails that go on with
    no body. -/
theorem left_above (lowered : Lowered s start k w v) {origin : Origin} (header : Header)
    {inner tail tail' : List String} (above : origin.line + inner.length < start)
    (pauses : Body.Pauses tail) (pauses' : Body.Pauses tail') :
    Lowered s start k (Visit.mk w origin header (inner ++ tail)).left
      (Visit.mk v origin header (inner ++ tail')).left := by
  have body : Body.ofLines (inner ++ tail) = Body.ofLines inner := Body.ofLines_append inner pauses.2
  have same : Body.ofLines (inner ++ tail') = Body.ofLines (inner ++ tail) := by
    rw [body, Body.ofLines_append inner pauses'.2]
  have beside : ∀ lines, Body.ofLines (inner ++ tail) = .ok lines →
      origin.line + lines.length < start ∨ start ≤ origin.line := by
    intro lines extracted
    have := Body.ofLines_length_le (body.symm.trans extracted)
    exact .inl (by omega)
  have left := left_lowered lowered origin header same beside
    fun lines extracted => Body.next_of_pauses pauses pauses' extracted
  rwa [Origin.lowered_of_lt (by omega)] at left

/-- **Up to the inserted lines** the walks read the same blocks at the same places. -/
theorem readFrom_before {gap : List String} (inert : ∀ line ∈ gap, Body.Inert line)
    (read : Header.ofLine? text = some header) (rest : List String) (before : List String)
    (lowered : Lowered s start gap.length w v) (reaches : line + before.length = start) :
    Lowered s start gap.length (w.readFrom file line (before ++ text :: rest)).closeItem
      (v.readFrom file line (before ++ (gap ++ text :: rest))).closeItem := by
  induction count : before.length using Nat.strongRecOn generalizing w v line before with
  | ind n ih =>
    rcases Header.exists_first before with
      plain | ⟨early, first, other, inner, rfl, found, plain⟩
    · have plain' : ∀ text ∈ before ++ gap, ¬ Header.isHeader text := by
        intro other mem
        rcases List.mem_append.mp mem with early | late
        · exact plain other early
        · exact (inert other late).2
      have passed : v.passing (before ++ gap) = v.passing before := by
        rw [passing, List.foldl_append]
        exact passing_comments fun other mem => Body.isComment_of_inert (inert other mem)
      have further : line + (before ++ gap).length = start + gap.length := by
        rw [List.length_append]
        omega
      rw [← List.append_assoc, readFrom_passing plain read, readFrom_passing plain' read, passed,
        reaches, further]
      exact readFrom_after (lowered.passing before) (Nat.le_refl _) (text :: rest)
    · have pauses : Body.Pauses (text :: rest) := Body.pauses_of_header read rest
      have pauses' : Body.Pauses (gap ++ text :: rest) := Body.pauses_of_inert inert read rest
      let origin : Origin := ⟨file, line + early.length⟩
      let taken := Body.extent (Body.ofLines inner)
      have within : taken ≤ inner.length := Body.extent_le inner
      simp only [List.length_append, List.length_cons] at reaches count
      have above : origin.line + inner.length < start := by
        simp only [origin]
        omega
      have left := left_above (lowered.passing early) other above pauses pauses'
      have shorter : (inner.drop taken).length < n := by
        rw [List.length_drop]
        omega
      have reaches' : line + early.length + 1 + taken + (inner.drop taken).length = start := by
        rw [List.length_drop]
        omega
      have later := ih _ shorter (inner.drop taken) left reaches' rfl
      obtain ⟨took, drops⟩ := Visit.taken_append (w.passing early) origin other inner pauses.2
      obtain ⟨took', drops'⟩ := Visit.taken_append (v.passing early) origin other inner pauses'.2
      rw [List.append_assoc, List.append_assoc, List.cons_append, List.cons_append,
        readFrom_header plain found, readFrom_header plain found]
      rw [took, took', drops, drops']
      exact later

end Walk

namespace Session

/-- **Plain comments before a header are inert.**  With the lines of `gap` before the header `text`
    the unit gives the same settings, rules and names and opens the same File.  The document has the
    same nodes and the log the same entries, and what stands at that header or after it is
    `gap.length` lines further down: the nodes of the unit, the log entries of the unit, and the
    places that an entry quotes of the nodes of the unit. -/
theorem inert_comments (s : Session) (file : String) {text : String} {gap : List String}
    (isHeader : Header.isHeader text) (inert : ∀ line ∈ gap, Body.Inert line)
    (before rest : List String) :
    let start := 1 + before.length
    let plain := s.readLines (before ++ text :: rest) file
    let spaced := s.readLines (before ++ (gap ++ text :: rest)) file
    spaced.1.mode = plain.1.mode ∧ spaced.1.project = plain.1.project
      ∧ spaced.1.registry = plain.1.registry ∧ spaced.1.index = plain.1.index
      ∧ plain.1.document.Lowered s.document.size start gap.length spaced.1.document
      ∧ spaced.2.root = plain.2.root ∧ spaced.2.names = plain.2.names
      ∧ plain.1.log.entries = s.log.entries ++ plain.2.entries
      ∧ spaced.1.log.entries = s.log.entries ++ spaced.2.entries
      ∧ List.Forall₂ (LogEntry.Retold s.document.size start gap.length plain.1.index)
          plain.2.entries spaced.2.entries := by
  intro start plain spaced
  obtain ⟨header, read⟩ := Option.isSome_iff_exists.mp isHeader
  have positive : 0 < start := Nat.lt_of_lt_of_le Nat.zero_lt_one (Nat.le_add_right ..)
  have lowered : Walk.Lowered s start gap.length (s.walkUnit file (before ++ text :: rest))
      (s.walkUnit file (before ++ (gap ++ text :: rest))) :=
    Walk.readFrom_before inert read rest before (.enter s positive gap.length) rfl
  obtain ⟨added, told, left, right, all⟩ := lowered.entries
  have entries : plain.2.entries = added := by
    show List.drop s.log.entries.length _ = added
    rw [left, List.drop_left]
  have entries' : spaced.2.entries = told := by
    show List.drop s.log.entries.length _ = told
    rw [right, List.drop_left]
  rw [entries, entries']
  refine ⟨lowered.mode, lowered.project, lowered.registry, lowered.index, lowered.document, ?_, ?_,
    left, right, all⟩
  · exact congrArg Scope.file lowered.scope
  · exact congrArg (NameIndex.since · s.index.size) lowered.index

/-- Two comments after the body of a Usage leave its item open.  The Description that follows them
    is refused two lines further down.  Of the three names that are taken the last belongs to an item
    after the comments, and only its place is quoted anew. -/
theorem inert_comments_redeclared :
    let s := ((start {}).readLines ["// Function: f"] "old").1
    let gap := ["//", "// plain words"]
    let before := ["// File: u", "// Function: g", "// Usage:", "//   g(x)"]
    let rest := ["//     deep", "//   shallow", "// Function: h", "// Function: f",
      "// Function: g", "// Function: h"]
    let spaced := s.readLines (before ++ (gap ++ "// Description:" :: rest)) "u"
    let plain := s.readLines (before ++ "// Description:" :: rest) "u"
    plain.1.document.Lowered s.document.size 5 2 spaced.1.document
      ∧ plain.2.names = ["g", "h"] ∧ spaced.2.names = plain.2.names
      ∧ List.Forall₂ (LogEntry.Retold s.document.size 5 2 plain.1.index)
          plain.2.entries spaced.2.entries
      ∧ plain.2.entries.map LogEntry.text =
        ["FAIL: u:5: Body line has less indentation than first line, while declaring block: "
            ++ "Description",
         "FAIL: u:9: Previous declaration of `f` at old:1, Redeclared: Function",
         "FAIL: u:10: Previous declaration of `g` at u:2, Redeclared: Function",
         "FAIL: u:11: Previous declaration of `h` at u:8, Redeclared: Function"]
      ∧ spaced.2.entries.map LogEntry.text =
        ["FAIL: u:7: Body line has less indentation than first line, while declaring block: "
            ++ "Description",
         "FAIL: u:11: Previous declaration of `f` at old:1, Redeclared: Function",
         "FAIL: u:12: Previous declaration of `g` at u:2, Redeclared: Function",
         "FAIL: u:13: Previous declaration of `h` at u:10, Redeclared: Function"] := by
  intro s gap before rest spaced plain
  have isHeader : Header.isHeader "// Description:" := by decide +kernel
  have inert : ∀ line ∈ gap, Body.Inert line := by decide +kernel
  obtain ⟨-, -, -, -, document, -, names, -, -, entries⟩ :=
    inert_comments s "u" isHeader inert before rest
  exact ⟨document, by decide +kernel, names, entries, by decide +kernel, by decide +kernel⟩

end Session

end DocComments
