/-
  The item that is open at a header, told from the lines of the unit.

  Reading closes an item in three places: at each skipped line that is no comment, after a body that
  no comment follows, and at the end of the unit; a header closes it if it is one of a section that
  is accepted, or of another item.  Taken together (`InRun`), an item is open at a header exactly
  when its own header stands before, with nothing but comments down to the header in question and no
  header in between that ends its scope.

  The crux is the invariant of `Visited.item_iff`: at a stop the item is open when the run reaches
  the NEXT line, the one that has not been read.  A stop after a body looks at that line before it
  closes the item, and a stop after an under-indented body stands at a comment; so the invariant
  needs no case for the way in which the block before has ended.

    * `item_skipLines`  the lines before a header, which are skipped;
    * `inRun_snoc`      the header;
    * `comments_taken`  the lines of its body.
-/
import DocComments.Proofs.Attaching
import DocComments.Proofs.ClosedItems
import DocComments.Proofs.Passages

namespace DocComments

/-! ## Runs of comments -/

/-- The lines from one number to another are all there, and comments. -/
def Comments (lines : List String) (first last : Nat) : Prop :=
  ∀ n, first ≤ n → n ≤ last → (lines[n - 1]?).any Body.isComment

/-- The item is that of a header in `past`, no header after it in `past` ends its scope, and from
    there to the line all is comment. -/
def InRun (lines : List String) (past : List Visit) (line id : Nat) : Prop :=
  ∃ earlier opener between, past = earlier ++ opener :: between ∧ opener.OpensItem id
    ∧ (∀ v ∈ between, ¬ v.EndsScope) ∧ Comments lines opener.origin.line line

theorem comments_append {lines : List String} {first mid last : Nat} (le : first ≤ mid)
    (le' : mid ≤ last) :
    Comments lines first last ↔ Comments lines first mid ∧ Comments lines mid last := by
  constructor
  · exact fun all => ⟨fun n lower upper => all n lower (Nat.le_trans upper le'),
      fun n lower upper => all n (Nat.le_trans le lower) upper⟩
  · rintro ⟨before, after⟩ n lower upper
    rcases Nat.le_total n mid with low | high
    · exact before n lower low
    · exact after n high upper

theorem comments_succ {lines : List String} {first last : Nat} (le : first ≤ last) :
    Comments lines first last ↔ Comments lines first first ∧ Comments lines (first + 1) last := by
  constructor
  · exact fun all => ⟨fun n lower upper => all n lower (Nat.le_trans upper le),
      fun n lower upper => all n (by omega) upper⟩
  · rintro ⟨here, after⟩ n lower upper
    rcases Nat.eq_or_lt_of_le lower with rfl | later
    · exact here _ (Nat.le_refl _) (Nat.le_refl _)
    · exact after n later upper

theorem comments_self {lines rest : List String} {line : Nat}
    (place : rest = lines.drop (line - 1)) :
    Comments lines line line ↔ rest.head?.any Body.isComment := by
  rw [place, List.head?_drop]
  constructor
  · exact fun all => all line (Nat.le_refl _) (Nat.le_refl _)
  · intro comment n lower upper
    rwa [Nat.le_antisymm upper lower]

/-- Lines that are taken off the front are counted from the line they stand at. -/
theorem comments_of_take {lines rest : List String} {line count : Nat}
    (place : rest = lines.drop (line - 1)) (pos : 1 ≤ line) (le : count ≤ rest.length)
    (all : ∀ text ∈ rest.take count, Body.isComment text) :
    ∀ n, line ≤ n → n < line + count → (lines[n - 1]?).any Body.isComment := by
  intro n lower lt
  have inside : n - line < (rest.take count).length := by
    rw [List.length_take]
    omega
  have text := all _ (List.getElem_mem inside)
  rw [List.getElem_take] at text
  have same : lines[n - 1]? = rest[n - line]? := by
    rw [place, List.getElem?_drop]
    congr 1
    omega
  rw [same, List.getElem?_eq_getElem (by omega)]
  exact text

/-- One more header: it opens the item, or the item was open before and is not closed by it. -/
theorem inRun_snoc {lines : List String} {past : List Visit} {v : Visit} {line id : Nat} :
    InRun lines (past ++ [v]) line id
      ↔ v.OpensItem id ∧ Comments lines v.origin.line line
        ∨ ¬ v.EndsScope ∧ InRun lines past line id := by
  constructor
  · rintro ⟨earlier, opener, between, split, opens, within, comments⟩
    rcases List.eq_nil_or_concat between with rfl | ⟨between, last, rfl⟩
    · obtain ⟨-, same⟩ := List.append_inj' split rfl
      obtain rfl : v = opener := by simpa using same
      exact .inl ⟨opens, comments⟩
    · have split' : past ++ [v] = (earlier ++ opener :: between) ++ [last] := by simpa using split
      obtain ⟨rfl, same⟩ := List.append_inj' split' rfl
      obtain rfl : v = last := by simpa using same
      exact .inr ⟨within v (by simp), earlier, opener, between, rfl, opens,
        fun u mem => within u (by simp [mem]), comments⟩
  · rintro (⟨opens, comments⟩ | ⟨keeps, earlier, opener, between, rfl, opens, within, comments⟩)
    · exact ⟨past, v, [], rfl, opens, by simp, comments⟩
    · refine ⟨earlier, opener, between ++ [v], by simp, opens, fun u mem => ?_, comments⟩
      rcases List.mem_append.mp mem with old | new
      · exact within u old
      · rwa [List.mem_singleton.mp new]

/-- The run reaches a later line if the lines on the way are comments. -/
theorem inRun_extend {lines : List String} {past : List Visit} {line later id : Nat}
    (before : ∀ u ∈ past, u.origin.line ≤ line) (le : line ≤ later) :
    InRun lines past later id ↔ InRun lines past line id ∧ Comments lines line later := by
  constructor
  · rintro ⟨earlier, opener, between, rfl, opens, within, comments⟩
    have start := before opener (by simp)
    obtain ⟨first, second⟩ := (comments_append start le).mp comments
    exact ⟨⟨earlier, opener, between, rfl, opens, within, first⟩, second⟩
  · rintro ⟨⟨earlier, opener, between, rfl, opens, within, first⟩, second⟩
    have start := before opener (by simp)
    exact ⟨earlier, opener, between, rfl, opens, within,
      (comments_append start le).mpr ⟨first, second⟩⟩

/-! ## The lines of a block -/

/-- **Skipped lines** leave the item open if all of them are comments, and the header too. -/
theorem Walk.item_skipLines {lines : List String} (rest : List String) (w : Walk) (line : Nat)
    (pos : 1 ≤ line) (place : rest = lines.drop (line - 1)) :
    line ≤ (w.skipLines line rest).2.1
      ∧ (w.skipLines line rest).2.2 = lines.drop ((w.skipLines line rest).2.1 - 1)
      ∧ ∀ id, (w.skipLines line rest).1.scope.item = some id
          ↔ w.scope.item = some id ∧ Comments lines line (w.skipLines line rest).2.1 := by
  induction rest generalizing w line with
  | nil =>
    refine ⟨Nat.le_refl _, place, fun id => ?_⟩
    simp only [skipLines, item_closeItem, comments_self place]
    simp
  | cons text rest ih =>
    have next : rest = lines.drop (line + 1 - 1) := by
      rw [show line + 1 - 1 = line - 1 + 1 by omega, ← List.drop_drop, ← place, List.drop_one,
        List.tail_cons]
    have here : Comments lines line line ↔ Body.isComment text := by
      simp [comments_self place]
    have item : ∀ id, (if Body.isComment text then w else w.closeItem).scope.item = some id
        ↔ w.scope.item = some id ∧ Body.isComment text := by
      intro id
      split
      · simp_all
      · simp_all [item_closeItem]
    rw [skipLines]
    split
    · exact ⟨Nat.le_refl _, place, fun id => by simp only [item, here]⟩
    · obtain ⟨le, place', items⟩ := ih (if Body.isComment text then w else w.closeItem) (line + 1)
        (by omega) next
      refine ⟨by omega, place', fun id => ?_⟩
      rw [items, item, comments_succ (by omega : line ≤ _), here, and_assoc]

namespace Visit

variable {v : Visit}

/-- The lines of a header and its body are comments, so the next line decides. -/
theorem comments_taken {lines : List String} (pos : 1 ≤ v.origin.line)
    (header : (lines[v.origin.line - 1]?).any Body.isComment)
    (place : v.rest = lines.drop v.origin.line) :
    Comments lines v.origin.line (v.origin.line + 1 + v.taken)
      ↔ (v.rest.drop v.taken).head?.any Body.isComment := by
  have next : (v.rest.drop v.taken).head? = lines[v.origin.line + 1 + v.taken - 1]? := by
    rw [place, List.drop_drop, List.head?_drop]
    congr 1
    omega
  rw [next]
  constructor
  · exact fun all => all _ (by omega) (Nat.le_refl _)
  · intro comment n lower upper
    have body : ∀ n, v.origin.line + 1 ≤ n → n < v.origin.line + 1 + v.taken →
        (lines[n - 1]?).any Body.isComment := by
      refine comments_of_take place (by omega) v.taken_le ?_
      rw [v.taken_eq]
      exact Body.ofLines_comments v.rest
    rcases Nat.eq_or_lt_of_le lower with rfl | later
    · exact header
    · rcases Nat.eq_or_lt_of_le upper with rfl | inside
      · exact comment
      · exact body n later inside

end Visit

/-! ## The item at every stop and at every header -/

namespace Session

variable {s : Session} {file : String} {lines rest : List String} {past future : List Visit}
  {w : Walk} {line : Nat} {v : Visit}

/-- The place of a stop: the lines that are left are those from its number on. -/
theorem Visited.place (stop : s.Visited file lines past w line rest) :
    1 ≤ line ∧ rest = lines.drop (line - 1) := by
  obtain ⟨suffix, count⟩ := stop.stops.rest
  have le := suffix.length_le
  refine ⟨by omega, ?_⟩
  rw [List.suffix_iff_eq_drop.mp suffix]
  congr 1
  omega

/-- The next header from a stop: its place, and the open item. -/
theorem Visited.header (stop : s.Visited file lines past w line rest)
    (found : w.visit? file line rest = some v) :
    line ≤ v.origin.line ∧ v.rest = lines.drop v.origin.line
      ∧ (lines[v.origin.line - 1]?).any Body.isComment
      ∧ ∀ id, v.walk.scope.item = some id
          ↔ w.scope.item = some id ∧ Comments lines line v.origin.line := by
  obtain ⟨pos, place⟩ := stop.place
  obtain ⟨walk, origin, text, left, read⟩ := Walk.of_visit? found
  obtain ⟨le, place', items⟩ := Walk.item_skipLines rest w line pos place
  have number : v.origin.line = (w.skipLines line rest).2.1 := by rw [origin]
  rw [left] at place'
  rw [walk, number]
  refine ⟨le, ?_, ?_, items⟩
  · have tail := congrArg List.tail place'
    rw [List.tail_drop, List.tail_cons] at tail
    rw [tail]
    congr 1
    omega
  · have head := congrArg List.head? place'
    rw [List.head?_drop, List.head?_cons] at head
    rw [← head]
    exact Header.isComment_of_ofLine? read

/-- **At every stop** the open item is the one whose run reaches the next line. -/
theorem Visited.item_iff (stop : s.Visited file lines past w line rest) :
    (∀ u ∈ past, u.origin.line ≤ line)
      ∧ ∀ id, w.scope.item = some id ↔ InRun lines past line id := by
  induction stop with
  | start =>
    refine ⟨by simp, fun id => ?_⟩
    simp [InRun, Session.enter]
  | @next past w line rest before more ih =>
    obtain ⟨upTo, items⟩ := ih
    obtain ⟨pos, place⟩ := before.place
    cases found : w.visit? file line rest with
    | none =>
      obtain ⟨le, -, skipped⟩ := Walk.item_skipLines rest w line pos place
      rw [(Walk.readBlock_of_visit?_eq_none found).1]
      simp only [Option.toList_none, List.append_nil]
      refine ⟨fun u mem => Nat.le_trans (upTo u mem) le, fun id => ?_⟩
      rw [skipped, items, inRun_extend upTo le]
    | some v =>
      obtain ⟨le, place', header, opened⟩ := before.header found
      have sound : v.walk.Sound s.document.size :=
        (Walk.visit_leads found).sound before.stops.sound
      have body := v.comments_taken (Nat.le_trans pos le) header place'
      have after : v.origin.line ≤ v.origin.line + 1 + v.taken := by omega
      rw [Walk.readBlock_of_visit? found]
      simp only [Option.toList_some]
      have upTo' : ∀ u ∈ past, u.origin.line ≤ v.origin.line :=
        fun u mem => Nat.le_trans (upTo u mem) le
      constructor
      · intro u mem
        rcases List.mem_append.mp mem with old | new
        · exact Nat.le_trans (upTo' u old) after
        · rw [List.mem_singleton.mp new]
          exact after
      · intro id
        rw [v.item_left, Visit.item_settled_iff sound, inRun_snoc, opened, items,
          inRun_extend upTo' after, inRun_extend upTo le, body, or_and_right, and_assoc]

/-- **The scope of an item is its run of comments.**  At every header the open item is the one in
    whose run the header stands.  So an item gets children only from headers in its run, and from
    the headings of its own body; and a leaf there that the item takes is accounted for.  It is
    refused in the log, or its nodes become the last children of the item.  Only a plural block of
    images that has no lines, and so no images, leaves neither nodes nor an entry. -/
theorem item_open_iff_inRun (met : s.visits file lines = past ++ v :: future) :
    (∀ id, v.walk.scope.item = some id ↔ InRun lines past v.origin.line id)
      ∧ (∀ id, v.settled.document.tag? id = some .item →
          v.settled.document.children id ≠ v.walk.document.children id →
          InRun lines past v.origin.line id ∨ v.OpensItem id)
      ∧ (∀ id, InRun lines past v.origin.line id → v.walk.takesLeaf v.header.title →
          v.walk.itemTakes v.header.title → v.walk.Accounts v.settled id v.block)
      ∧ ∀ h ∈ v.headings, ∃ id, v.OpensItem id ∧ h.walk.scope.item = some id
          ∧ (∀ other, h.walk.document.tag? other = some .item →
              h.settled.document.children other ≠ h.walk.document.children other → other = id)
          ∧ (h.walk.itemTakes h.block.title → h.walk.Accounts h.settled id h.block) := by
  obtain ⟨w, line, rest, stop, found, -⟩ := visits_split met
  obtain ⟨le, -, -, opened⟩ := stop.header found
  obtain ⟨upTo, items⟩ := stop.item_iff
  have sound : v.walk.Sound s.document.size := visit_sound (by rw [met]; simp)
  have atHeader : ∀ id, v.walk.scope.item = some id ↔ InRun lines past v.origin.line id := by
    intro id
    rw [opened, items, inRun_extend upTo le]
  refine ⟨atHeader, fun id isItem changed => ?_, fun id run leaf takes => ?_, fun h mem => ?_⟩
  · by_cases old : v.walk.document.tag? id = some .item
    · exact .inl ((atHeader id).mp ((Visit.settled_leads sound).item_of_children sound old changed))
    · exact .inr (Visit.opensItem_of_added sound old isItem)
  · exact Visit.settled_accounts sound ((atHeader id).mpr run) leaf takes
  · obtain ⟨inner, id, opens, item⟩ := Visit.of_mem_headings sound mem
    refine ⟨id, opens, item, fun other isItem changed => ?_, fun takes => ?_⟩
    · have leads : h.walk.Leads h.settled :=
        Walk.settle_moves (fun _ _ => trivial) (Walk.addLeaf_leads inner h.block)
      have same := item.symm.trans (leads.item_of_children inner isItem changed)
      exact (Option.some.inj same).symm
    · exact Walk.addLeaf_accounts inner item takes

/-- An example two lines below its item, under a line of text. -/
theorem item_open_iff_inRun_example :
    let lines := ["// Function: f()", "// some text", "// Example: one", "//   f();"]
    let visits := ({} : Session).visits "a" lines
    ∃ v, visits[1]? = some v ∧ v.header.title = "Example" ∧ InRun lines (visits.take 1) 3 2
      ∧ v.walk.Accounts v.settled 2 v.block := by
  intro lines visits
  have facts : visits[1]?.map (fun v => (v.header.title, v.walk.scope.item, v.origin.line,
      v.walk.takesLeaf v.header.title, v.walk.itemTakes v.header.title))
      = some ("Example", some 2, 3, true, true) := by decide +kernel
  obtain ⟨v, found, facts⟩ := Option.map_eq_some_iff.mp facts
  simp only [Prod.mk.injEq] at facts
  obtain ⟨title, item, number, leaf, takes⟩ := facts
  obtain ⟨opened, -, accounts, -⟩ := item_open_iff_inRun (visits_eq_of_getElem? found)
  have run : InRun lines (visits.take 1) v.origin.line 2 := (opened 2).mp item
  exact ⟨v, found, title, number ▸ run, accounts 2 run leaf takes⟩

end Session

end DocComments
