/-
  What a unit adds comes in the order of its lines.

  Entries get into the log from four places, and each counts lines in its own way: an under-indented
  body, a refused block, a refused heading inside an item, and a footnote without a note.  Nodes take
  their lines from headers, headings and body lines.  All the same both come in the order of the
  source, because every block keeps to its own stretch of lines (`Visit.settled_adds`): from its
  header to the last line of its body, the headings of an item one after the other in between.

  `Walk.Adds first last` says it of a stretch of lines, and two stretches that do not touch make one
  (`Adds.append`).  So the induction over the stops of a unit has little to do (`Visited.adds`): the
  next header stands after the lines that have been taken.

    * `splitAtHeadings_apart`  the headings of a body do not touch;
    * `source_order`           the log and the nodes after any call, in order.
-/
import DocComments.Proofs.Calls
import DocComments.Proofs.ClosedItems
import DocComments.Proofs.Passages
import DocComments.Proofs.Places

namespace DocComments

namespace Walk

/-! ## Headings in a body -/

/-- **The blocks under headings do not touch:** each ends before the next begins. -/
theorem splitAtHeadings_apart (origin : Origin) (n : Nat) (body : List String) :
    (splitAtHeadings origin n body).2.Pairwise fun a b =>
      a.origin.line + a.body.length < b.origin.line := by
  obtain ⟨own, parts, cut, rfl⟩ := exists_parts body
  rw [splitAtHeadings_parts origin n cut]
  exact SubBlock.blocksFrom_apart origin (n + own.length) parts

/-- Each block stands at a line of the body that is underlined by the next. -/
theorem splitAtHeadings_underlined {origin : Origin} {n : Nat} {body : List String}
    {inner : Block} (mem : inner ∈ (splitAtHeadings origin n body).2) :
    ∃ i line next, body[i]? = some line ∧ body[i + 1]? = some next ∧ isHeading line next
      ∧ inner.origin.line = origin.line + n + 1 + i := by
  obtain ⟨front, part, back, rfl, heading, -, rfl⟩ := splitAtHeadings_of_mem mem
  have stands := SubBlock.standsAt heading origin front back
  refine ⟨front.length, part.title, part.underline, stands.heading, stands.underline, heading, ?_⟩
  show origin.line + (n + front.length) + 1 = _
  omega

/-! ## Stretches of lines -/

/-- From the one walk to the other, nodes and entries have been added that stand between two lines
    of the file, in order; the entries stand at lines that may be told of, and no two failures at
    the same. -/
structure Adds (file : String) (told : Nat → Prop) (first last : Nat) (w after : Walk) : Prop where
  nodes : ∃ places, after.document.places = w.document.places ++ places
    ∧ InOrder file first last places
  log : ∃ entries, after.log.entries = w.log.entries ++ entries
    ∧ InOrder file first last (entries.map (·.origin))
    ∧ (∀ entry ∈ entries, told entry.origin.line)
    ∧ (entries.filter (·.isFailure)).Pairwise (·.origin.line < ·.origin.line)

variable {file : String} {told told' : Nat → Prop} {first last first' last' : Nat}
  {w mid after : Walk} {origin : Origin} {n : Nat} {block : Block}

namespace Adds

/-- Nothing has been added. -/
theorem of_toSession (same : after.toSession = w.toSession) :
    Adds file told first last w after where
  nodes := ⟨[], by rw [same, List.append_nil], .nil ..⟩
  log := ⟨[], by rw [same, List.append_nil], .nil .., nofun, .nil⟩

/-- The scope is no matter of what has been added. -/
theorem congr {w' after' : Walk} (adds : Adds file told first last w after)
    (before : w'.toSession = w.toSession) (later : after'.toSession = after.toSession) :
    Adds file told first last w' after' where
  nodes := by
    rw [before, later]
    exact adds.nodes
  log := by
    rw [before, later]
    exact adds.log

theorem widen (adds : Adds file told first last w after) (below : first' ≤ first)
    (above : last ≤ last') (more : ∀ n, told n → told' n) :
    Adds file told' first' last' w after where
  nodes := by
    obtain ⟨places, added, ordered⟩ := adds.nodes
    exact ⟨places, added, ordered.widen below above⟩
  log := by
    obtain ⟨entries, added, ordered, named, apart⟩ := adds.log
    exact ⟨entries, added, ordered.widen below above, fun entry mem => more _ (named entry mem),
      apart⟩

/-- **Two stretches that do not touch** make one. -/
theorem append (adds : Adds file told first last w mid)
    (adds' : Adds file told first' last' mid after) (apart : last < first')
    (start : first ≤ first') (finish : last ≤ last') : Adds file told first last' w after where
  nodes := by
    obtain ⟨places, added, ordered⟩ := adds.nodes
    obtain ⟨places', added', ordered'⟩ := adds'.nodes
    refine ⟨places ++ places', by rw [added', added, List.append_assoc], ?_⟩
    exact ordered.append ordered' (Nat.le_of_lt apart) start finish
  log := by
    obtain ⟨entries, added, ordered, named, failures⟩ := adds.log
    obtain ⟨entries', added', ordered', named', failures'⟩ := adds'.log
    refine ⟨entries ++ entries', by rw [added', added, List.append_assoc], ?_, ?_, ?_⟩
    · rw [List.map_append]
      exact ordered.append ordered' (Nat.le_of_lt apart) start finish
    · intro entry mem
      rcases List.mem_append.mp mem with mem | mem
      · exact named entry mem
      · exact named' entry mem
    · rw [List.filter_append]
      refine List.pairwise_append.mpr ⟨failures, failures', fun entry mem entry' mem' => ?_⟩
      -- the failures of the first stretch stand before all of the second
      have above := (ordered.within _ (List.mem_map_of_mem (List.mem_filter.mp mem).1)).2
      have below := (ordered'.within _ (List.mem_map_of_mem (List.mem_filter.mp mem').1)).1
      omega

/-- A handler that succeeds. -/
theorem of_lays (lays : Lays origin n w after) :
    Adds origin.file (· = origin.line) origin.line (origin.line + n) w after where
  nodes := lays.nodes
  log := by
    obtain ⟨warnings, added, mild⟩ := lays.log
    refine ⟨warnings, added, ?_, fun entry mem => by rw [(mild entry mem).1], ?_⟩
    · refine InOrder.widen (InOrder.constant fun place mem => ?_) (Nat.le_refl _) (by omega)
      obtain ⟨entry, noted, rfl⟩ := List.mem_map.mp mem
      exact (mild entry noted).1
    · have none : warnings.filter (·.isFailure) = [] :=
        List.filter_eq_nil_iff.mpr fun entry mem => by simp [(mild entry mem).2]
      rw [none]
      exact .nil

/-- A handler that fails: its warnings are followed by the one failure. -/
theorem of_lays_fail (lays : Lays origin n w after) (title : String) (cause : Cause) :
    Adds origin.file (· = origin.line) origin.line (origin.line + n) w
      (after.fail title origin cause) where
  nodes := lays.nodes
  log := by
    obtain ⟨warnings, added, mild⟩ := lays.log
    let failure : LogEntry := ⟨origin, .failure, (Rejection.mk title cause).message⟩
    have at_ : ∀ entry ∈ warnings ++ [failure], entry.origin = origin := by
      intro entry mem
      rcases List.mem_append.mp mem with mem | mem
      · exact (mild entry mem).1
      · rw [List.mem_singleton.mp mem]
    refine ⟨warnings ++ [failure], ?_, ?_, fun entry mem => by rw [at_ entry mem], ?_⟩
    · rw [fail, Log.entries_fail, added, List.append_assoc]
    · refine InOrder.widen (InOrder.constant fun place mem => ?_) (Nat.le_refl _) (by omega)
      obtain ⟨entry, noted, rfl⟩ := List.mem_map.mp mem
      exact at_ entry noted
    · have none : warnings.filter (·.isFailure) = [] :=
        List.filter_eq_nil_iff.mpr fun entry mem => by simp [(mild entry mem).2]
      rw [List.filter_append, none, List.nil_append]
      exact List.pairwise_singleton ..

/-- A handler, however it ends. -/
theorem settle {handled : Walk × Verdict} (lays : Lays block.origin n w handled.1) :
    Adds block.origin.file (· = block.origin.line) block.origin.line (block.origin.line + n) w
      (settle block handled) := by
  obtain ⟨after, verdict⟩ := handled
  cases verdict with
  | accepted => exact of_lays lays
  | dropped => exact of_lays lays
  | rejected cause => exact of_lays_fail lays block.title cause

end Adds

/-! ## One block -/

/-- **Leaves that do not touch** add in order what each of them adds. -/
theorem foldl_addLeaf_adds (file : String) (first last : Nat) (leaves : List Block) (w : Walk)
    (apart : leaves.Pairwise fun a b => a.origin.line + a.body.length < b.origin.line)
    (inside : ∀ leaf ∈ leaves, leaf.origin.file = file ∧ first ≤ leaf.origin.line
      ∧ leaf.origin.line + leaf.body.length ≤ last) :
    Adds file (fun n => ∃ leaf ∈ leaves, n = leaf.origin.line) first last w
      (leaves.foldl (fun w leaf => Walk.settle leaf (w.addLeaf leaf)) w) := by
  induction leaves generalizing w first with
  | nil => exact .of_toSession rfl
  | cons leaf rest ih =>
    obtain ⟨before, apart⟩ := List.pairwise_cons.mp apart
    obtain ⟨same, above, below⟩ := inside leaf (List.mem_cons_self ..)
    let told := fun n => ∃ other ∈ leaf :: rest, n = other.origin.line
    let next := leaf.origin.line + leaf.body.length + 1
    have one : Adds file told leaf.origin.line (leaf.origin.line + leaf.body.length) w
        (Walk.settle leaf (w.addLeaf leaf)) := by
      rw [← same]
      exact (Adds.settle (addLeaf_lays w leaf)).widen (Nat.le_refl _) (Nat.le_refl _)
        fun n here => ⟨leaf, List.mem_cons_self .., here⟩
    have others : Adds file told next last (Walk.settle leaf (w.addLeaf leaf))
        (rest.foldl (fun w leaf => Walk.settle leaf (w.addLeaf leaf))
          (Walk.settle leaf (w.addLeaf leaf))) := by
      refine (ih next (Walk.settle leaf (w.addLeaf leaf)) apart fun other mem => ?_).widen
        (Nat.le_refl _) (Nat.le_refl _) fun n told => ?_
      · obtain ⟨same, -, below⟩ := inside other (List.mem_cons_of_mem _ mem)
        exact ⟨same, before other mem, below⟩
      · obtain ⟨other, mem, here⟩ := told
        exact ⟨other, List.mem_cons_of_mem _ mem, here⟩
    have both := one.append others (Nat.lt_succ_self _) (by omega) below
    exact both.widen above (Nat.le_refl _) fun _ here => here

/-- What becomes of a block that is no item. -/
theorem dispatch_lays (w : Walk) (block : Block) (noItem : ¬ w.takesItem block.title) :
    Lays block.origin block.body.length w (w.dispatch block).1 := by
  have handler := w.dispatch_handler block
  generalize w.dispatch block = result at handler
  cases handler with
  | define role => exact (define_lays w block).widen (Nat.zero_le _)
  | configure directive role => exact (configure_lays w directive block).widen (Nat.zero_le _)
  | file role => exact (openFile_lays w block).widen (Nat.zero_le _)
  | early awaits => exact (Lays.refl block.origin w).widen (Nat.zero_le _)
  | sect role => exact (openSect_lays w block).widen (Nat.zero_le _)
  | subsect role => exact (openSubsect_lays w block).widen (Nat.zero_le _)
  | describe field role => exact (describeFile_lays w field block).widen (Nat.zero_le _)
  | item takes => exact absurd takes noItem
  | leaf takes => exact addLeaf_lays w block

theorem startItem_lays (w : Walk) (block : Block) :
    Lays block.origin 0 w (w.startItem block) :=
  (prepareItem_lays w block.origin).trans
    (addItem_lays _ _ { block with body := (splitAtHeadings block.origin 0 block.body).1 })

/-- **An item block that is accepted** adds the item first, then what its headings bring. -/
theorem openItem_adds (w : Walk) (block : Block)
    (passed : (w.prepareItem block.origin).1.itemCause? block.subtitle = none) :
    Adds block.origin.file
      (fun n => n = block.origin.line
        ∨ ∃ leaf ∈ (splitAtHeadings block.origin 0 block.body).2, n = leaf.origin.line)
      block.origin.line (block.origin.line + block.body.length) w (w.openItem block).1 := by
  rw [openItem_of_passed passed]
  have item := Adds.of_lays (startItem_lays w block)
  have leaves := foldl_addLeaf_adds block.origin.file (block.origin.line + 1)
    (block.origin.line + block.body.length)
    (splitAtHeadings block.origin 0 block.body).2 (w.startItem block)
    (splitAtHeadings_apart block.origin 0 block.body) fun leaf mem => by
      obtain ⟨same, -, above, below⟩ := splitAtHeadings_inside mem
      exact ⟨same, by omega, by omega⟩
  exact (item.widen (Nat.le_refl _) (Nat.le_refl _) fun _ here => .inl here).append
    (leaves.widen (Nat.le_refl _) (Nat.le_refl _) fun _ here => .inr here)
    (by omega) (by omega) (by omega)

end Walk

/-! ## One header -/

namespace Visit

variable {v : Visit}

/-- The line is that of an underlined heading in the body of the header, an item that is
    accepted. -/
def Underlines (v : Visit) (n : Nat) : Prop :=
  v.walk.takesItem v.header.title ∧ v.verdict = .accepted
    ∧ ∃ body i line next, Body.ofLines v.rest = .ok body ∧ body[i]? = some line
      ∧ body[i + 1]? = some next ∧ isHeading line next ∧ n = v.origin.line + 1 + i

/-- **A header keeps to its own lines**, up to the last line of its body. -/
theorem settled_adds (v : Visit) :
    Walk.Adds v.origin.file (fun n => n = v.origin.line ∨ v.Underlines n) v.origin.line
      (v.origin.line + v.taken) v.walk v.settled := by
  have atHeader : ∀ n, n = v.origin.line → n = v.origin.line ∨ v.Underlines n := fun _ => .inl
  cases extracted : Body.ofLines v.rest with
  | error n =>
    have failed := Walk.Adds.of_lays_fail (Walk.Lays.refl v.origin v.walk) v.header.title
      .underIndented
    rw [settled, handled, extracted]
    exact failed.widen (Nat.le_refl _) (by omega) atHeader
  | ok body =>
    let block := v.header.block body v.origin
    have taken : v.taken = block.body.length := by
      rw [Visit.taken, extracted]
      rfl
    rw [Walk.settled_ok extracted, taken]
    by_cases takes : v.walk.takesItem block.title
    · rw [Walk.dispatch_of_takesItem takes]
      cases passed : (v.walk.prepareItem block.origin).1.itemCause? block.subtitle with
      | some cause =>
        rw [Walk.openItem_of_cause passed]
        exact (Walk.Adds.of_lays_fail (Walk.prepareItem_lays v.walk block.origin) _ _).widen
          (Nat.le_refl _) (Nat.le_add_right ..) atHeader
      | none =>
        have accepted : v.verdict = .accepted := by
          rw [verdict_ok extracted, Walk.dispatch_of_takesItem takes,
            @Walk.openItem_of_passed v.walk block passed]
        have added := Walk.openItem_adds v.walk block passed
        rw [Walk.openItem_of_passed passed] at added ⊢
        refine added.widen (Nat.le_refl _) (Nat.le_refl _) fun n told => ?_
        rcases told with here | ⟨leaf, mem, here⟩
        · exact .inl here
        · obtain ⟨i, line, next, there, under, heads, number⟩ :=
            Walk.splitAtHeadings_underlined mem
          refine .inr ⟨takes, accepted, body, i, line, next, extracted, there, under, heads, ?_⟩
          rw [here, number]
          rfl
    · exact (Walk.Adds.settle (Walk.dispatch_lays v.walk block takes)).widen (Nat.le_refl _)
        (Nat.le_refl _) atHeader

end Visit

/-! ## A whole unit -/

namespace Session

variable {s : Session} {file : String} {lines rest : List String} {past : List Visit} {w : Walk}
  {line : Nat}

/-- **Up to every stop**, what has been added stands at the lines before it, in order. -/
theorem Visited.adds (stop : s.Visited file lines past w line rest) :
    1 ≤ line ∧ Walk.Adds file
      (fun n => ∃ v ∈ past, n = v.origin.line ∨ v.Underlines n) 1 (line - 1) s.enter w := by
  induction stop with
  | start => exact ⟨Nat.le_refl 1, .of_toSession rfl⟩
  | @next past w line rest before more ih =>
    obtain ⟨pos, adds⟩ := ih
    obtain ⟨suffix, count⟩ := Walk.skipLines_rest w line rest
    have shorter := suffix.length_le
    have skipped := Walk.skipLines_toSession w line rest
    cases found : w.visit? file line rest with
    | none =>
      -- no header is left, and the lines are skipped to the end
      obtain ⟨read, -⟩ := Walk.readBlock_of_visit?_eq_none found
      rw [read]
      refine ⟨by omega, (adds.congr rfl skipped).widen (Nat.le_refl 1) (by omega) ?_⟩
      rintro n ⟨v, met, told⟩
      exact ⟨v, List.mem_append_left _ met, told⟩
    | some v =>
      obtain ⟨walk, origin, -⟩ := Walk.of_visit? found
      have below : line ≤ v.origin.line := by
        rw [origin]
        show line ≤ (w.skipLines line rest).2.1
        omega
      have old : Walk.Adds file (fun n => ∃ u ∈ past ++ [v], n = u.origin.line ∨ u.Underlines n)
          1 (line - 1) s.enter v.walk := by
        rw [walk]
        refine (adds.congr rfl skipped).widen (Nat.le_refl 1) (Nat.le_refl _) ?_
        rintro n ⟨u, met, told⟩
        exact ⟨u, List.mem_append_left _ met, told⟩
      have new : Walk.Adds file (fun n => ∃ u ∈ past ++ [v], n = u.origin.line ∨ u.Underlines n)
          v.origin.line (v.origin.line + v.taken) v.walk v.left := by
        have own := v.settled_adds
        rw [show v.origin.file = file by rw [origin]] at own
        refine (own.congr rfl v.left_toSession).widen (Nat.le_refl _) (Nat.le_refl _) ?_
        intro n told
        exact ⟨v, List.mem_append_right _ (List.mem_singleton.mpr rfl), told⟩
      rw [Walk.readBlock_of_visit? found, show v.origin.line + 1 + v.taken - 1
        = v.origin.line + v.taken by omega]
      refine ⟨?_, old.append new (by omega) (by omega) (by omega)⟩
      show 1 ≤ v.origin.line + 1 + v.taken
      omega

/-- The line is the number of a header line, or of an underlined heading in the body of an accepted
    item. -/
def Tells (s : Session) (file : String) (lines : List String) (n : Nat) : Prop :=
  (1 ≤ n ∧ ∃ text, lines[n - 1]? = some text ∧ Header.isHeader text)
    ∨ ∃ v ∈ s.visits file lines, v.Underlines n

theorem walkUnit_adds (s : Session) (file : String) (lines : List String) :
    Walk.Adds file (s.Tells file lines) 1 lines.length s.enter (s.walkUnit file lines) := by
  obtain ⟨last, line, stop, ended⟩ := visited_all s file lines
  obtain ⟨-, count⟩ := stop.stops.rest
  have number : line - 1 = lines.length := by
    rw [List.length_nil] at count
    omega
  have adds := stop.adds.2
  rw [number] at adds
  rw [ended]
  refine (adds.congr rfl (Walk.closeItem_toSession last)).widen (Nat.le_refl 1) (Nat.le_refl _) ?_
  rintro n ⟨v, met, rfl | underlined⟩
  · obtain ⟨k, text, found, read, origin, -⟩ := passage_of_mem_visits met
    rw [origin]
    refine .inl ⟨Nat.le_add_right 1 k, text, ?_, by simp [Header.isHeader, read]⟩
    rwa [Nat.add_sub_cancel_left]
  · exact .inr ⟨v, met, underlined⟩

/-- **What a unit adds comes in source order.**  Whatever the session, the entries that a call adds
    to the log name the unit, at header lines and at the underlined headings of accepted items, in
    the order of the lines; no two failures stand at the same line.  The nodes that it adds stand at
    lines of the unit, and in the order of their numbers they stand in the order of the lines. -/
theorem source_order (s : Session) (c : Call) :
    let file := c.source s.mode
    let after := (s.call c).1
    let entries := (s.call c).2.entries
    let nodes := after.document.nodes.drop s.document.size
    after.log.entries = s.log.entries ++ entries
      ∧ (∀ entry ∈ entries, entry.origin.file = file ∧ s.Tells file c.lines entry.origin.line)
      ∧ entries.Pairwise (·.origin.line ≤ ·.origin.line)
      ∧ (entries.filter (·.isFailure)).Pairwise (·.origin.line < ·.origin.line)
      ∧ nodes.Pairwise (·.origin.line ≤ ·.origin.line)
      ∧ ∀ node ∈ nodes, node.origin.file = file
          ∧ 1 ≤ node.origin.line ∧ node.origin.line ≤ c.lines.length := by
  intro file after entries nodes
  have adds := walkUnit_adds s file c.lines
  obtain ⟨document, -, log⟩ := call_walk s c
  obtain ⟨added, logged, ordered, told, failures⟩ := adds.log
  obtain ⟨places, placed, inOrder⟩ := adds.nodes
  have reported : entries = added := by
    show (s.call c).2.entries = added
    rw [(call_eq s c).1]
    show (s.walkUnit file c.lines).log.entries.drop s.log.entries.length = added
    rw [logged]
    exact List.drop_left ..
  have stands : nodes.map (·.origin) = places := by
    show (after.document.nodes.drop s.document.nodes.length).map (·.origin) = places
    rw [List.map_drop, ← List.length_map (·.origin)]
    show after.document.places.drop s.document.places.length = places
    rw [document, placed]
    exact List.drop_left ..
  rw [reported]
  refine ⟨by rw [log, logged]; rfl, fun entry mem => ?_, ?_, failures, ?_, fun node mem => ?_⟩
  · exact ⟨ordered.file _ (List.mem_map_of_mem mem), told entry mem⟩
  · have sorted := ordered.sorted
    rw [List.pairwise_map] at sorted
    exact sorted
  · have sorted := inOrder.sorted
    rw [← stands, List.pairwise_map] at sorted
    exact sorted
  · have among : node.origin ∈ places := stands ▸ List.mem_map_of_mem mem
    exact ⟨inOrder.file _ among, inOrder.within _ among⟩

/-- A footnote without a note, a heading that is refused inside an item, and a name that is taken. -/
example :
    let read := (start {}).readLines
      ["// FileFootnotes: a", "// Function: f()", "//   Unknown", "//   ---", "//   text",
       "// Function: f()"] "u"
    read.2.entries.map (·.origin.line) = [1, 3, 6]
      ∧ read.2.entries.map (·.isFailure) = [false, true, true]
      ∧ read.1.document.nodes.map (·.origin.line) = [1, 2, 2] := by
  decide +kernel

end Session

end DocComments
