/-
  The headers of a unit, one after the other.

  A VISIT is a header as the walk comes to it: the lines before it have been skipped, and nothing
  has been done about it yet.  A visit determines what becomes of the header (`Visit.handled`), the
  walk afterwards (`Visit.settled`) and the walk with which the next block is read (`Visit.left`).
  An item that is accepted brings the blocks under the underlined headings of its body as well, each
  of them with the walk that comes to it (`Visit.headings`).

  `Session.visits` are the visits of a unit in order.  `Session.Visited` are the stops of a unit
  together with the visits before them, so that what holds at a header can be told of the headers
  before it (`visits_split`).

  How a title is handled depends on the registry and on strict mode: `takesItem` and `takesLeaf` are
  the two ways that lead to items and leaves, and `dispatch_of_takesItem`, `dispatch_of_takesLeaf`
  say so.
-/
import DocComments.Proofs.Context

namespace DocComments

/-! ## Visits -/

/-- A header as a walk comes to it, and the lines after it. -/
structure Visit where
  walk : Walk
  origin : Origin
  header : Header
  rest : List String

/-- A block under an underlined heading, as a walk comes to it. -/
structure Heading where
  walk : Walk
  block : Block

namespace Heading

def handled (h : Heading) : Walk × Verdict := h.walk.addLeaf h.block

def verdict (h : Heading) : Verdict := h.handled.2

/-- The walk after the block. -/
def settled (h : Heading) : Walk := Walk.settle h.block h.handled

end Heading

namespace Walk

/-- Strict mode lets nothing in before a File is open. -/
def awaitsFile (w : Walk) : Bool := w.mode.strict && w.scope.file.isNone

/-- The title is handled as an item: it has no rule of its own. -/
def takesItem (w : Walk) (title : String) : Bool :=
  TitleRole.ofTitle title = .item && !w.registry.contains title && !w.awaitsFile

/-- The title is handled as a leaf: it is one, or an item title with a rule of its own. -/
def takesLeaf (w : Walk) (title : String) : Bool :=
  (TitleRole.ofTitle title = .leaf || TitleRole.ofTitle title = .item && w.registry.contains title)
    && !w.awaitsFile

/-- The headings of a body, one after the other. -/
def headingsFrom (w : Walk) : List Block → List Heading
  | [] => []
  | leaf :: rest => ⟨w, leaf⟩ :: headingsFrom (settle leaf (w.addLeaf leaf)) rest

/-- The headings that an item block brings; one that is refused brings none. -/
def headingsOf (w : Walk) (block : Block) : List Heading :=
  let (w, container) := w.prepareItem block.origin
  match w.itemCause? block.subtitle with
  | some _ => []
  | none =>
    let (own, inner) := splitAtHeadings block.origin 0 block.body
    (w.addItem container { block with body := own }).headingsFrom inner

end Walk

namespace Visit

/-- What becomes of the header. -/
def handled (v : Visit) : Walk × Verdict :=
  match Body.ofLines v.rest with
  | .error _ => (v.walk, .rejected .underIndented)
  | .ok body => v.walk.dispatch (v.header.block body v.origin)

def verdict (v : Visit) : Verdict := v.handled.2

/-- The walk after the header: a refusal is logged at its place. -/
def settled (v : Visit) : Walk :=
  match v.handled with
  | (w, .rejected cause) => w.fail v.header.title v.origin cause
  | (w, _) => w

/-- How many lines after the header are read with it. -/
def taken (v : Visit) : Nat :=
  match Body.ofLines v.rest with
  | .error n => n
  | .ok body => body.length

/-- The lines that a visit takes are those of its body, an under-indented one not counted. -/
theorem taken_eq (v : Visit) : v.taken = Body.extent (Body.ofLines v.rest) := by
  unfold taken Body.extent
  split <;> simp_all

theorem taken_le (v : Visit) : v.taken ≤ v.rest.length := by
  rw [taken_eq]
  exact Body.extent_le v.rest

/-- The walk with which reading goes on: a body that no comment follows closes the item. -/
def left (v : Visit) : Walk :=
  match Body.ofLines v.rest with
  | .error _ => v.settled
  | .ok body =>
    if (v.rest.drop body.length).head?.any Body.isComment then v.settled else v.settled.closeItem

/-- The blocks under the headings in the header's body. -/
def headings (v : Visit) : List Heading :=
  match Body.ofLines v.rest with
  | .error _ => []
  | .ok body =>
    if v.walk.takesItem v.header.title then v.walk.headingsOf (v.header.block body v.origin) else []

end Visit

/-- The header that reading comes to next, if there is one. -/
def Walk.visit? (w : Walk) (file : String) (line : Nat) (lines : List String) : Option Visit :=
  match w.skipLines line lines with
  | (_, _, []) => none
  | (w, line, text :: rest) =>
    (Header.ofLine? text).map fun header => ⟨w, ⟨file, line⟩, header, rest⟩

/-- The headers from a line on. -/
def Walk.visitsFrom (w : Walk) (file : String) (line : Nat) (lines : List String) : List Visit :=
  if _h : lines = [] then []
  else
    let next := w.readBlock file line lines
    (w.visit? file line lines).toList ++ visitsFrom next.1 file next.2.1 next.2.2
termination_by lines.length
decreasing_by exact Walk.length_readBlock_lt w file line _h

/-- The headers of a unit. -/
def Session.visits (s : Session) (file : String) (lines : List String) : List Visit :=
  s.enter.visitsFrom file 1 lines

/-! ## How a title is handled -/

namespace Walk

variable {w : Walk} {block : Block}

/-- The handler that a block gets, and on which terms. -/
inductive Handler (w : Walk) (block : Block) : Walk × Verdict → Prop
  | define (role : TitleRole.ofTitle block.title = .define) : Handler w block (w.define block)
  | configure (directive : Directive)
      (role : TitleRole.ofTitle block.title = .directive directive) :
    Handler w block (w.configure directive block)
  | file (role : TitleRole.ofTitle block.title = .file) : Handler w block (w.openFile block)
  /-- Strict mode lets no other block in before a File is open. -/
  | early (awaits : w.awaitsFile) : Handler w block (w, .rejected .fileRequired)
  | sect (role : TitleRole.ofTitle block.title = .sect) : Handler w block (w.openSect block)
  | subsect (role : TitleRole.ofTitle block.title = .subsect) :
    Handler w block (w.openSubsect block)
  | describe (field : FileField) (role : TitleRole.ofTitle block.title = .fileField field) :
    Handler w block (w.describeFile field block)
  | item (takes : w.takesItem block.title) : Handler w block (w.openItem block)
  | leaf (takes : w.takesLeaf block.title) : Handler w block (w.addLeaf block)

/-- **Every block gets one of the handlers.** -/
theorem dispatch_handler (w : Walk) (block : Block) : Handler w block (w.dispatch block) := by
  unfold dispatch
  split
  · rename_i role
    exact .define role
  · rename_i directive role
    exact .configure directive role
  · rename_i role
    exact .file role
  · split
    · rename_i awaits
      exact .early awaits
    · rename_i admitted
      have admitted : w.awaitsFile = false := Bool.eq_false_iff.mpr admitted
      unfold placeBlock
      split
      · rename_i role
        exact .sect role
      · rename_i role
        exact .subsect role
      · rename_i field role
        exact .describe field role
      · rename_i role
        split
        · rename_i ruled
          exact .leaf (by simp [takesLeaf, role, ruled, admitted])
        · rename_i plain
          exact .item (by simp [takesItem, role, plain, admitted])
      · rename_i noDefine noDirective noFile noSect noSubsect noField noItem
        have role : TitleRole.ofTitle block.title = .leaf := by
          cases role : TitleRole.ofTitle block.title <;> simp_all
        exact .leaf (by simp [takesLeaf, role, admitted])

/-- A title that takes an item is handled as one. -/
theorem dispatch_of_takesItem (h : w.takesItem block.title) :
    w.dispatch block = w.openItem block := by
  simp only [takesItem, awaitsFile, Bool.and_eq_true, decide_eq_true_eq, Bool.not_eq_true'] at h
  obtain ⟨⟨role, plain⟩, admitted⟩ := h
  simp [dispatch, placeBlock, role, plain, admitted]

/-- A title that takes a leaf is handled as one. -/
theorem dispatch_of_takesLeaf (h : w.takesLeaf block.title) :
    w.dispatch block = w.addLeaf block := by
  simp only [takesLeaf, awaitsFile, Bool.and_eq_true, Bool.or_eq_true, decide_eq_true_eq,
    Bool.not_eq_true'] at h
  obtain ⟨role | ⟨role, ruled⟩, admitted⟩ := h
  · simp [dispatch, placeBlock, role, admitted]
  · simp [dispatch, placeBlock, role, ruled, admitted]

theorem admitted_of_takesItem {title : String} (h : w.takesItem title) : w.awaitsFile = false := by
  simp only [takesItem, Bool.and_eq_true, Bool.not_eq_true'] at h
  exact h.2

/-- No title is handled in both ways. -/
theorem not_takesItem_of_takesLeaf {title : String} (h : w.takesLeaf title) :
    ¬ w.takesItem title := by
  simp only [takesLeaf, takesItem, Bool.and_eq_true, Bool.or_eq_true, decide_eq_true_eq] at h ⊢
  rintro ⟨⟨role, plain⟩, -⟩
  rcases h.1 with leaf | ⟨-, ruled⟩
  · simp [role] at leaf
  · simp [ruled] at plain

/-! ## Reading by visits -/

variable {file : String} {line : Nat} {lines : List String} {v : Visit}

/-- Skipping ends at a header or with the lines. -/
theorem isHeader_of_skipLines (w : Walk) (line : Nat) (lines : List String) {text : String}
    {rest : List String} (h : (w.skipLines line lines).2.2 = text :: rest) :
    Header.isHeader text := by
  induction lines generalizing w line with
  | nil => simp [skipLines] at h
  | cons first rest' ih =>
    rw [skipLines] at h
    split at h
    · rename_i header
      cases h
      exact header
    · exact ih _ _ h

/-- Where there is no further header, skipping has come to the end. -/
theorem readBlock_of_visit?_eq_none (h : w.visit? file line lines = none) :
    w.readBlock file line lines = w.skipLines line lines ∧ (w.skipLines line lines).2.2 = [] := by
  unfold visit? at h
  unfold readBlock
  split at h
  · rename_i skipped
    rw [skipped]
    exact ⟨rfl, rfl⟩
  · rename_i text rest skipped
    have absent : Header.ofLine? text = none := by simpa using h
    have header := isHeader_of_skipLines w line lines (congrArg (·.2.2) skipped)
    simp [Header.isHeader, absent] at header

/-- A header with a body is settled as its block is. -/
theorem settled_ok {body : List String} (h : Body.ofLines v.rest = .ok body) :
    v.settled = settle (v.header.block body v.origin)
      (v.walk.dispatch (v.header.block body v.origin)) := by
  rw [Visit.settled, Visit.handled, h]
  rfl

/-- **A block is read by its visit.** -/
theorem readBlock_of_visit? (h : w.visit? file line lines = some v) :
    w.readBlock file line lines = (v.left, v.origin.line + 1 + v.taken, v.rest.drop v.taken) := by
  rcases skipped : w.skipLines line lines with ⟨w', line', left⟩
  cases left with
  | nil => simp [visit?, skipped] at h
  | cons text rest =>
    simp only [visit?, skipped] at h
    obtain ⟨header, read, rfl⟩ := Option.map_eq_some_iff.mp h
    simp only [readBlock, skipped, read, Visit.left, Visit.taken]
    cases extracted : Body.ofLines rest with
    | error n => simp only [Visit.settled, Visit.handled, extracted]
    | ok body => rw [settled_ok (v := ⟨w', ⟨file, line'⟩, header, rest⟩) extracted]

/-- What a visit tells about its walk and its place. -/
theorem of_visit? (h : w.visit? file line lines = some v) :
    v.walk = (w.skipLines line lines).1 ∧ v.origin = ⟨file, (w.skipLines line lines).2.1⟩
      ∧ ∃ text, (w.skipLines line lines).2.2 = text :: v.rest
          ∧ Header.ofLine? text = some v.header := by
  unfold visit? at h
  split at h
  · simp at h
  · rename_i skipped
    obtain ⟨header, read, rfl⟩ := Option.map_eq_some_iff.mp h
    rw [skipped]
    exact ⟨rfl, rfl, _, rfl, read⟩

theorem ne_nil_of_visit? (h : w.visit? file line lines = some v) : lines ≠ [] := by
  rintro rfl
  simp [visit?, skipLines] at h

/-! ## Moves from visit to visit -/

variable {base : Nat} {after : Walk}

/-- Moves of any kind lead from one walk to the other. -/
abbrev Leads : Walk → Walk → Prop := Moves (fun _ => True) (fun _ => True)

/-- **Any block** leads on by moves. -/
theorem dispatch_leads (sound : w.Sound base) (block : Block) : w.Leads (w.dispatch block).1 :=
  dispatch_moves sound (fun _ _ => trivial) (fun _ _ => trivial) fun _ _ _ _ _ => trivial

/-- **Any leaf** leads on by moves. -/
theorem addLeaf_leads (sound : w.Sound base) (block : Block) : w.Leads (w.addLeaf block).1 :=
  addLeaf_moves sound (fun _ _ => trivial) fun _ _ _ _ _ => trivial

theorem ensureFile_leads (sound : w.Sound base) (origin : Origin) :
    w.Leads (w.ensureFile origin).1
      ∧ (w.ensureFile origin).1.scope.file = some (w.ensureFile origin).2 :=
  ensureFile_moves _ sound trivial

/-- The containers of an item are opened by moves, and the innermost is the one that takes it. -/
theorem prepareItem_leads (sound : w.Sound base) (origin : Origin) :
    w.Leads (w.prepareItem origin).1
      ∧ (w.prepareItem origin).1.scope.subsect.or (w.prepareItem origin).1.scope.sect
          = some (w.prepareItem origin).2 :=
  prepareItem_moves _ sound trivial

theorem placeFor_leads (sound : w.Sound base) (rule : Rule) (origin : Origin) :
    w.Leads (w.placeFor rule origin).1
      ∧ ∀ parent, (w.placeFor rule origin).2 = some parent →
          (w.placeFor rule origin).1.scope.parent = some parent := by
  obtain ⟨moves, -, placed⟩ :=
    @placeFor_moves (fun _ => True) (fun _ => True) base w rule origin sound trivial
  exact ⟨moves, fun parent chosen => (placed parent chosen).1⟩

/-- **One block read** leads on by moves. -/
theorem readBlock_leads (sound : w.Sound base) (file : String) (line : Nat)
    (lines : List String) : w.Leads (w.readBlock file line lines).1 :=
  readBlock_moves sound (fun _ _ => trivial) (registers_any _ _)

/-- **All blocks read** lead on by moves, block by block. -/
theorem readFrom_leads (sound : w.Sound base) (file : String) (line : Nat) (lines : List String) :
    w.Leads (w.readFrom file line lines) := by
  fun_induction readFrom w file line lines with
  | case1 => exact .refl
  | case2 w line lines more after next rest read ih =>
    have first : w.Leads after := by simpa [read] using readBlock_leads sound file line lines
    exact first.trans (ih (first.sound sound))

/-- The walk to a header is a sequence of moves. -/
theorem visit_leads (h : w.visit? file line lines = some v) : w.Leads v.walk := by
  rw [(of_visit? h).1]
  exact skipLines_moves w line lines

end Walk

namespace Visit

open Walk (Leads)

variable {base : Nat} {v : Visit}

theorem settled_leads (sound : v.walk.Sound base) : v.walk.Leads v.settled := by
  cases extracted : Body.ofLines v.rest with
  | error n =>
    rw [settled, handled, extracted]
    exact .single (.note ⟨v.origin, .failure, _⟩ trivial)
  | ok body =>
    rw [Walk.settled_ok extracted]
    exact Walk.settle_moves (fun _ _ => trivial) (Walk.dispatch_leads sound _)

theorem left_leads (v : Visit) : v.settled.Leads v.left := by
  unfold left
  split
  · exact .refl
  · split
    · exact .refl
    · exact .single .close

end Visit

namespace Walk

variable {w : Walk} {file : String} {line : Nat} {lines : List String} {v : Visit} {base : Nat}

/-- Every later header is reached by moves. -/
theorem visitsFrom_leads (sound : w.Sound base) (mem : v ∈ w.visitsFrom file line lines) :
    w.Leads v.walk := by
  fun_induction visitsFrom w file line lines with
  | case1 => simp at mem
  | case2 w line lines more next ih =>
    have first : w.Leads next.1 := readBlock_leads sound file line lines
    rcases List.mem_append.mp mem with here | later
    · exact visit_leads (Option.mem_toList.mp here)
    · exact first.trans (ih (first.sound sound) later)

end Walk

/-! ## The visits of a unit -/

namespace Session

/-- Before and after each block of a unit: the headers that have been visited, the walk, the number
    of the next line, and the lines that are left. -/
inductive Visited (s : Session) (file : String) (lines : List String) :
    List Visit → Walk → Nat → List String → Prop
  | start : Visited s file lines [] s.enter 1 lines
  | next {past : List Visit} {w : Walk} {line : Nat} {rest : List String}
      (before : Visited s file lines past w line rest) (more : rest ≠ []) :
    Visited s file lines (past ++ (w.visit? file line rest).toList)
      (w.readBlock file line rest).1 (w.readBlock file line rest).2.1
      (w.readBlock file line rest).2.2

variable {s : Session} {file : String} {lines rest : List String} {past future : List Visit}
  {w : Walk} {line : Nat} {v : Visit}

/-- A visit is a stop of the unit. -/
theorem Visited.stops (stop : s.Visited file lines past w line rest) :
    s.Stops file lines w line rest := by
  induction stop with
  | start => exact .start
  | next _ more ih => exact ih.next more

/-- From every stop, reading goes on over all headers that are left. -/
theorem Visited.finish (stop : s.Visited file lines past w line rest) :
    ∃ last, s.Visited file lines (past ++ w.visitsFrom file line rest)
      (w.readFrom file line rest) last [] := by
  fun_induction Walk.visitsFrom w file line rest generalizing past with
  | case1 w line =>
    rw [Walk.readFrom, dif_pos rfl, List.append_nil]
    exact ⟨line, stop⟩
  | case2 w line rest more next =>
    rename_i ih
    have there := stop.next more
    rw [Walk.readFrom, dif_neg more, ← List.append_assoc]
    exact ih there

/-- **The walk through a unit** comes to a stop after all of its headers. -/
theorem visited_all (s : Session) (file : String) (lines : List String) :
    ∃ last line, s.Visited file lines (s.visits file lines) last line []
      ∧ s.walkUnit file lines = last.closeItem := by
  have first : s.Visited file lines [] s.enter 1 lines := .start
  obtain ⟨line, stop⟩ := first.finish
  exact ⟨_, line, stop, rfl⟩

/-- Each of the headers that are left at a stop has a stop of its own, with the headers before
    it. -/
theorem Visited.split (stop : s.Visited file lines past w line rest) {before : List Visit}
    (h : w.visitsFrom file line rest = before ++ v :: future) :
    ∃ w' line' rest', s.Visited file lines (past ++ before) w' line' rest'
      ∧ w'.visit? file line' rest' = some v
      ∧ future = v.left.visitsFrom file (v.origin.line + 1 + v.taken) (v.rest.drop v.taken) := by
  fun_induction Walk.visitsFrom w file line rest generalizing past before with
  | case1 => simp at h
  | case2 w line rest more next =>
    rename_i ih
    have there := stop.next more
    cases found : w.visit? file line rest with
    | none =>
      rw [found] at there h
      simpa using ih there h
    | some first =>
      rw [found] at there h
      cases before with
      | nil =>
        obtain ⟨rfl, tail⟩ : first = v ∧ next.1.visitsFrom file next.2.1 next.2.2 = future := by
          simpa using h
        refine ⟨w, line, rest, by simpa using stop, found, ?_⟩
        rw [← tail]
        simp only [next, Walk.readBlock_of_visit? found]
      | cons first' before =>
        obtain ⟨rfl, tail⟩ : first = first'
            ∧ next.1.visitsFrom file next.2.1 next.2.2 = before ++ v :: future := by
          simpa using h
        simpa using ih there tail

/-- **Each header of a unit stands after the headers before it.** -/
theorem visits_split (h : s.visits file lines = past ++ v :: future) :
    ∃ w line rest, s.Visited file lines past w line rest
      ∧ w.visit? file line rest = some v
      ∧ future = v.left.visitsFrom file (v.origin.line + 1 + v.taken) (v.rest.drop v.taken) := by
  have first : s.Visited file lines [] s.enter 1 lines := .start
  simpa using first.split h

/-- The headers before and after one that is found by its number. -/
theorem visits_eq_of_getElem? {n : Nat} (found : (s.visits file lines)[n]? = some v) :
    s.visits file lines
      = (s.visits file lines).take n ++ v :: (s.visits file lines).drop (n + 1) := by
  obtain ⟨lt, rfl⟩ := List.getElem?_eq_some_iff.mp found
  rw [← List.drop_eq_getElem_cons lt, List.take_append_drop]

/-- From every header, reading goes on to the end of the unit. -/
theorem walkUnit_eq_of_visit (h : s.visits file lines = past ++ v :: future) :
    s.walkUnit file lines = (v.left.readFrom file (v.origin.line + 1 + v.taken)
      (v.rest.drop v.taken)).closeItem := by
  obtain ⟨w, line, rest, stop, found, -⟩ := visits_split h
  rw [(stop.next (Walk.ne_nil_of_visit? found)).stops.walkUnit_eq, Walk.readBlock_of_visit? found]

/-- The scope is sound at every header. -/
theorem visit_sound (h : v ∈ s.visits file lines) : v.walk.Sound s.document.size :=
  Walk.Moves.sound (Walk.visitsFrom_leads s.enter_sound h) s.enter_sound

end Session

end DocComments
