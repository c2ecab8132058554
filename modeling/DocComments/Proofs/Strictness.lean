/-
  Strict mode only rejects.

  Strict mode has one rule: before the File block of a unit there is room for definitions and
  directives only, and any other block is refused.  When the log of a strict run holds no such
  refusal, then none has happened (`Log.Timely`), and the run in lax mode is the same, call by call
  and block by block (`readBlock_inMode`, `readFrom_inMode`, `call_inMode`): a log only grows, so a
  refusal that is not in the last log is in none of the logs before it.

  And whatever it refuses, a strict run opens no placeholder.  Before a File is open every block that
  would ask for one is refused (`dispatch_awaiting`), and afterwards there is one to find.  So every
  file of the document has been declared (`Visit.Declares`), and it still shows what its header said
  (`Document.block?`): later blocks change the information and the children of a node, never what
  was written (`Moves.lasting`).
-/
import Mathlib.Data.List.Induction
import DocComments.Proofs.Attaching
import DocComments.Proofs.ClosedItems
import DocComments.Proofs.Configuration
import DocComments.Proofs.Nesting
import DocComments.Proofs.OtherMode
import DocComments.Proofs.Passages

namespace DocComments

/-! ## Reading in lax mode -/

/-- No entry says that a File block has to come first. -/
def Log.Timely (log : Log) : Prop :=
  ∀ entry ∈ log.entries, ∀ title, entry.message ≠ (Rejection.mk title .fileRequired).message

/-- What was timely up to the end was so before. -/
theorem Log.Timely.of_prefix {log later : Log} (timely : later.Timely)
    (grown : log.entries <+: later.entries) : log.Timely :=
  fun entry mem => timely entry (grown.subset mem)

namespace Walk

variable {mode : Mode} {w : Walk} {block : Block} {base : Nat} {file : String} {line : Nat}
  {lines : List String}

/-- Skipped lines do not ask for the mode. -/
theorem skipLines_inMode (mode : Mode) (w : Walk) (line : Nat) (lines : List String) :
    (w.inMode mode).skipLines line lines = carry mode (w.skipLines line lines) := by
  induction lines generalizing w line with
  | nil =>
    rw [skipLines, skipLines, closeItem_inMode]
  | cons text rest ih =>
    have first : (if Body.isComment text then w.inMode mode else (w.inMode mode).closeItem)
        = (if Body.isComment text then w else w.closeItem).inMode mode := by
      split
      · rfl
      · exact closeItem_inMode mode w
    simp only [skipLines]
    rw [first]
    split
    · rfl
    · exact ih _ _

/-- A refusal for want of a File is told in the log. -/
theorem in_time_of_timely (timely : (settle block (w.dispatch block)).log.Timely) :
    (w.dispatch block).2 ≠ .rejected .fileRequired := by
  intro early
  have refused : settle block (w.dispatch block)
      = (w.dispatch block).1.fail block.title block.origin .fileRequired := by
    generalize w.dispatch block = result at early
    obtain ⟨after, verdict⟩ := result
    cases early
    rfl
  rw [refused] at timely
  exact timely _ (List.mem_append_right _ (List.mem_singleton.mpr rfl)) block.title rfl

/-- **A block** after which no refusal for want of a File is in the log. -/
theorem readBlock_inMode (same : mode.configSource = w.mode.configSource)
    (lax : mode.strict = false) (timely : (w.readBlock file line lines).1.log.Timely) :
    (w.inMode mode).readBlock file line lines = carry mode (w.readBlock file line lines) := by
  have kept := skipLines_toSession w line lines
  unfold readBlock at timely ⊢
  rw [skipLines_inMode]
  generalize w.skipLines line lines = skipped at kept timely
  obtain ⟨w', line', left⟩ := skipped
  cases left with
  | nil => rfl
  | cons text rest =>
    simp only [carry] at kept timely ⊢
    cases read : Header.ofLine? text with
    | none => rfl
    | some header =>
      simp only [read] at timely ⊢
      cases extracted : Body.ofLines rest with
      | error n => rfl
      | ok body =>
        simp only [extracted] at timely ⊢
        let block := header.block body ⟨file, line'⟩
        have logged : (settle block (w'.dispatch block)).log.Timely := by
          split at timely
          · exact timely
          · rwa [closeItem_toSession] at timely
        have config : mode.configSource = w'.mode.configSource := by rw [kept, same]
        have handled : settle block ((w'.inMode mode).dispatch block)
            = (settle block (w'.dispatch block)).inMode mode := by
          rw [dispatch_inMode config lax (in_time_of_timely logged), settle_inMode]
        rw [handled, closeItem_inMode]
        split <;> rfl

/-- **Any number of blocks.** -/
theorem readFrom_inMode (sound : w.Sound base) (same : mode.configSource = w.mode.configSource)
    (lax : mode.strict = false) (timely : (w.readFrom file line lines).log.Timely) :
    (w.inMode mode).readFrom file line lines = (w.readFrom file line lines).inMode mode := by
  fun_induction readFrom w file line lines with
  | case1 w line =>
    rw [readFrom, dif_pos rfl]
  | case2 w line lines more after next rest read ih =>
    have moves : w.Leads after := by simpa [read] using readBlock_leads sound file line lines
    have sound := moves.sound sound
    -- the log after the first block is a part of the log after all of them
    have first : (w.readBlock file line lines).1.log.Timely := by
      rw [read]
      exact timely.of_prefix (Moves.entries (readFrom_leads sound file next rest))
    have one := readBlock_inMode same lax first
    rw [read] at one
    rw [readFrom, dif_neg more, one]
    exact ih sound (same.trans (congrArg Mode.configSource (Moves.mode moves).symm)) timely

end Walk

namespace Session

variable {mode : Mode} {s : Session} {file : String} {lines : List String}

/-- **A unit in which nothing came too early** is read the same under a lax mode. -/
theorem walkUnit_inMode (same : mode.configSource = s.mode.configSource)
    (lax : mode.strict = false) (timely : (s.walkUnit file lines).log.Timely) :
    (s.inMode mode).walkUnit file lines = (s.walkUnit file lines).inMode mode := by
  have logged : (s.enter.readFrom file 1 lines).log.Timely := by
    rwa [walkUnit, Walk.closeItem_toSession] at timely
  have read := Walk.readFrom_inMode s.enter_sound same lax logged
  have entered : (s.inMode mode).enter = s.enter.inMode mode := rfl
  rw [walkUnit, entered, read, Walk.closeItem_inMode]
  rfl

/-- **A call** in lax mode: the same outcome, and the same session but for the mode. -/
theorem call_inMode (same : mode.configSource = s.mode.configSource) (lax : mode.strict = false)
    (c : Call) (timely : (s.call c).1.log.Timely) :
    (s.inMode mode).call c = ((s.call c).1.inMode mode, (s.call c).2) := by
  have source : c.source (s.inMode mode).mode = c.source s.mode := by
    cases c with
    | loadConfig text => exact same
    | readText text file => rfl
    | readLines lines file => rfl
  have logged : (s.walkUnit (c.source s.mode) c.lines).log.Timely := by
    rwa [(call_walk s c).2.2] at timely
  have walked := walkUnit_inMode same lax logged
  have read : (s.inMode mode).readLines c.lines (c.source (s.inMode mode).mode)
      = ((s.readLines c.lines (c.source s.mode)).1.inMode mode,
          (s.readLines c.lines (c.source s.mode)).2) := by
    simp only [readLines, source, walked]
    rfl
  cases c with
  | loadConfig text =>
    have unit (t : Session) : t.call (.loadConfig text)
        = Prod.map commit id (t.readLines (Call.loadConfig text).lines
            ((Call.loadConfig text).source t.mode)) := rfl
    rw [unit, unit, read]
    rfl
  | readText text file => exact read
  | readLines lines file => exact read

/-- The outcomes of some calls, one after the other. -/
def outcomes (s : Session) : List Call → List Outcome
  | [] => []
  | c :: rest => (s.call c).2 :: outcomes (s.call c).1 rest

/-- A call adds to the log and takes nothing away. -/
theorem call_entries (s : Session) (c : Call) :
    s.log.entries <+: (s.call c).1.log.entries := by
  rw [(call_walk s c).2.2]
  exact (walkUnit_appends s (c.source s.mode) c.lines).entries

theorem after_entries (s : Session) (calls : List Call) :
    s.log.entries <+: (s.after calls).log.entries := by
  induction calls generalizing s with
  | nil => exact List.prefix_refl _
  | cons c rest ih => exact (s.call_entries c).trans (ih (s.call c).1)

/-- **Any number of calls.** -/
theorem after_inMode (same : mode.configSource = s.mode.configSource) (lax : mode.strict = false)
    (calls : List Call) (timely : (s.after calls).log.Timely) :
    (s.inMode mode).after calls = (s.after calls).inMode mode
      ∧ (s.inMode mode).outcomes calls = s.outcomes calls := by
  induction calls generalizing s with
  | nil => exact ⟨rfl, rfl⟩
  | cons c rest ih =>
    have timely : ((s.call c).1.after rest).log.Timely := timely
    have first := call_inMode same lax c (timely.of_prefix (after_entries (s.call c).1 rest))
    have config : mode.configSource = (s.call c).1.mode.configSource := by
      rw [(call_settings s c).1, same]
    obtain ⟨others, reported⟩ := ih config timely
    constructor
    · show ((s.inMode mode).call c).1.after rest = ((s.call c).1.after rest).inMode mode
      rw [first]
      exact others
    · show ((s.inMode mode).call c).2 :: ((s.inMode mode).call c).1.outcomes rest
        = (s.call c).2 :: (s.call c).1.outcomes rest
      rw [first]
      exact congrArg _ reported

/-- The configuration is read alike when the session is opened. -/
theorem start_inMode {strict : Mode} (same : mode.configSource = strict.configSource)
    (lax : mode.strict = false) (timely : (start strict).log.Timely) :
    start mode = (start strict).inMode mode := by
  let s : Session := { mode := strict }
  have walked : (s.inMode mode).walkUnit defaultsSource defaultDefinitions
      = (s.walkUnit defaultsSource defaultDefinitions).inMode mode :=
    walkUnit_inMode same lax timely
  show ((s.inMode mode).walkUnit defaultsSource defaultDefinitions).toSession.commit = _
  rw [walked]
  rfl

end Session

/-! ## What was written stays -/

/-- A node as it was written, without its kind and its place in the tree. -/
def Node.block (node : Node) : Block where
  title := node.title
  options := node.options
  subtitle := node.subtitle
  body := node.body
  origin := node.origin

/-- A view of nodes that their children and the information that they carry are no matter of. -/
structure Node.Lasting {α : Type} (view : Node → α) : Prop where
  children : ∀ (node : Node) (children : List Nat), view { node with children } = view node
  item : ∀ (node : Node) (f : ItemInfo → ItemInfo),
    view { node with kind := node.kind.mapItem f } = view node
  file : ∀ (node : Node) (f : FileInfo → FileInfo),
    view { node with kind := node.kind.mapFile f } = view node

theorem Node.Lasting.block : Node.Lasting Node.block :=
  ⟨fun _ _ => rfl, fun _ _ => rfl, fun _ _ => rfl⟩

namespace Document

section Views

variable {α : Type} {view : Node → α}

/-- A new root changes no older node. -/
theorem view_addRoot (view : Node → α) (doc : Document) (node : Node) {id : Nat}
    (lt : id < doc.size) : ((doc.addRoot node).node? id).map view = (doc.node? id).map view := by
  rw [node?_addRoot, if_neg (Nat.ne_of_lt lt)]

/-- A new child changes its parent, but nothing that lasts. -/
theorem view_addChild (lasting : Node.Lasting view) (doc : Document) (parent : Nat) (node : Node)
    {id : Nat} (lt : id < doc.size) :
    ((doc.addChild parent node).node? id).map view = (doc.node? id).map view := by
  by_cases inside : parent < doc.size
  · rw [node?_addChild doc inside, if_neg (Nat.ne_of_lt lt), Option.map_map]
    congr 1
    funext old
    simp only [Function.comp_apply]
    split
    · exact lasting.children old _
    · rfl
  · rw [addChild, dif_neg inside]

/-- A change of kind leaves every view that does not see it. -/
theorem view_mapKind (doc : Document) (changed : Nat) {f : NodeKind → NodeKind}
    (kept : ∀ node : Node, view { node with kind := f node.kind } = view node) (id : Nat) :
    ((doc.mapKind changed f).node? id).map view = (doc.node? id).map view := by
  rw [node?_mapKind, Option.map_map]
  congr 1
  funext old
  simp only [Function.comp_apply]
  split
  · exact kept old
  · rfl

end Views

/-- What was written at a node. -/
def block? (doc : Document) (id : Nat) : Option Block := (doc.node? id).map Node.block

theorem block?_addRoot (doc : Document) (node : Node) {id : Nat} (lt : id < doc.size) :
    (doc.addRoot node).block? id = doc.block? id :=
  view_addRoot Node.block doc node lt

theorem block?_addChild (doc : Document) (parent : Nat) (node : Node) {id : Nat}
    (lt : id < doc.size) : (doc.addChild parent node).block? id = doc.block? id :=
  view_addChild .block doc parent node lt

theorem block?_mapKind (doc : Document) (changed : Nat) (f : NodeKind → NodeKind) (id : Nat) :
    (doc.mapKind changed f).block? id = doc.block? id :=
  view_mapKind doc changed (fun _ => rfl) id

end Document

namespace Walk

variable {here : Origin → Prop} {mine : String → Prop} {base : Nat} {w after : Walk}
  {block : Block} {α : Type} {view : Node → α}

/-- No move changes a lasting view of a node that is there. -/
theorem Move.lasting (move : Move here mine w after) (lasting : Node.Lasting view) {id : Nat}
    (lt : id < w.document.size) :
    (after.document.node? id).map view = (w.document.node? id).map view := by
  have child : ∀ (parent : Nat) (node : Node),
      ((w.document.addChild parent node).node? id).map view = (w.document.node? id).map view :=
    fun parent node => Document.view_addChild lasting w.document parent node lt
  have withInfo : ∀ (parent : Nat) (node : Node) (f : ItemInfo → ItemInfo),
      (((w.document.addChild parent node).mapItem parent f).node? id).map view
        = (w.document.node? id).map view :=
    fun parent node f =>
      (Document.view_mapKind _ parent (lasting.item · f) id).trans (child parent node)
  cases move with
  | note entry place => rfl
  | close => rw [closeItem_toSession]
  | define title rule plain => rfl
  | configure project => rfl
  | file node shut place kind => exact Document.view_addRoot view w.document node lt
  | describe file f opened =>
    exact Document.view_mapKind w.document file (lasting.file · f) id
  | sect file node opened place kind => exact child file node
  | subsect sect node opened place kind named => exact child sect node
  | item container block opened place name named free => exact child container _
  | image item kind node opened place leaf => exact child item node
  | words item list block opened place => exact withInfo item _ _
  | leaf parent rule block opened found admits hook place => exact child parent _
  | status parent rule block opened found admits hook place => exact withInfo parent _ _
  | aliases parent rule block names opened found admits hook place given owned free =>
    exact withInfo parent _ _

/-- **What lasts of a node** is the same after any moves. -/
theorem Moves.lasting (moves : Moves here mine w after) (sound : w.Sound base)
    (lasting : Node.Lasting view) {id : Nat} (lt : id < w.document.size) :
    (after.document.node? id).map view = (w.document.node? id).map view := by
  induction moves with
  | refl => rfl
  | tail before move ih =>
    have grown := (Moves.grows before sound).size_le
    exact (move.lasting lasting (Nat.lt_of_lt_of_le lt grown)).trans ih

/-- No move changes what was written at a node. -/
theorem Moves.block? (moves : Moves here mine w after) (sound : w.Sound base) {id : Nat}
    (lt : id < w.document.size) : after.document.block? id = w.document.block? id :=
  moves.lasting sound .block lt

/-! ## Files are declared -/

theorem file_closeItem (w : Walk) : w.closeItem.scope.file = w.scope.file := by
  unfold closeItem
  split <;> rfl

/-- A file that is open stays open. -/
theorem Move.keeps_file (move : Move here mine w after) {id : Nat}
    (opened : w.scope.file = some id) :
    after.scope.file = some id := by
  cases move with
  | close => rw [file_closeItem, opened]
  | file node shut place kind => rw [shut] at opened; cases opened
  | _ => exact opened

/-- Once a File is open it stays open to the end of the unit. -/
theorem Moves.keeps_file (moves : Moves here mine w after) {id : Nat}
    (opened : w.scope.file = some id) :
    after.scope.file = some id := by
  induction moves with
  | refl => exact opened
  | tail _ move ih => exact move.keeps_file ih

/-- Skipped lines close the item, not the File. -/
theorem skipLines_file (w : Walk) (line : Nat) (lines : List String) :
    (w.skipLines line lines).1.scope.file = w.scope.file := by
  induction lines generalizing w line with
  | nil => exact file_closeItem w
  | cons text rest ih =>
    have first : (if Body.isComment text then w else w.closeItem).scope.file = w.scope.file := by
      split
      · rfl
      · exact file_closeItem w
    rw [skipLines]
    split
    · exact first
    · exact (ih _ _).trans first

/-- **Before strict mode has its File,** a block opens it, or leaves the scope alone. -/
theorem dispatch_awaiting (awaits : w.awaitsFile) (block : Block) :
    (w.dispatch block).1.scope = w.scope
      ∨ TitleRole.ofTitle block.title = .file ∧ w.dispatch block = w.openFile block := by
  by_cases role : TitleRole.ofTitle block.title = .file
  · refine .inr ⟨role, ?_⟩
    simp only [dispatch, role]
  left
  cases other : TitleRole.ofTitle block.title with
  | define =>
    simp only [dispatch, other, define]
    split
    · rfl
    · split <;> rfl
  | directive directive =>
    simp only [dispatch, other, configure]
    split
    · rfl
    · split <;> rfl
  | file => exact absurd other role
  | _ => rw [dispatch_early awaits (by simp [other]) (by simp [other]) role]

end Walk

/-- The header is that of a File block, and is accepted; the node gets the number. -/
def Visit.Declares (v : Visit) (id : Nat) : Prop :=
  TitleRole.ofTitle v.header.title = .file ∧ v.verdict = .accepted ∧ id = v.walk.document.size

namespace Visit

variable {v : Visit}

theorem file_left (v : Visit) : v.left.scope.file = v.settled.scope.file := by
  unfold left
  split
  · rfl
  · split
    · rfl
    · exact Walk.file_closeItem v.settled

/-- **A file that opens in strict mode** is declared by the header that opens it. -/
theorem declares_of_left {id : Nat} (awaits : v.walk.awaitsFile)
    (opened : v.left.scope.file = some id) :
    v.Declares id ∧ v.left.document.block? id = some v.block := by
  have shut : v.walk.scope.file = none := by
    simp only [Walk.awaitsFile, Bool.and_eq_true, Option.isNone_iff_eq_none] at awaits
    exact awaits.2
  rw [file_left] at opened
  cases extracted : Body.ofLines v.rest with
  | error n =>
    -- a refusal opens nothing
    rw [settled, handled, extracted] at opened
    have opened : v.walk.scope.file = some id := opened
    rw [shut] at opened
    cases opened
  | ok body =>
    have written : v.block = v.header.block body v.origin := by rw [block, extracted]
    obtain ⟨scope, document⟩ := settled_of_dispatch extracted
    rw [scope] at opened
    rcases Walk.dispatch_awaiting awaits (v.header.block body v.origin) with same | ⟨role, file⟩
    · rw [same, shut] at opened
      cases opened
    · have verdict := verdict_ok extracted
      rw [file, Walk.openFile, shut] at verdict opened document
      cases opened
      refine ⟨⟨role, verdict, rfl⟩, ?_⟩
      rw [v.left_toSession, document, written]
      simp only [Document.block?, Document.node?_addRoot, if_true, Option.map_some]
      rfl

end Visit

namespace Session

variable {s : Session} {file : String} {lines rest : List String} {past : List Visit} {w : Walk}
  {line : Nat}

/-- **Up to every stop of a strict unit**, the open file has been declared. -/
theorem Visited.declared (stop : s.Visited file lines past w line rest)
    (strict : s.mode.strict = true) {id : Nat} (opened : w.scope.file = some id) :
    ∃ v ∈ past, v.Declares id ∧ w.document.block? id = some v.block := by
  induction stop with
  | start => cases opened
  | @next past w line rest before more ih =>
    have sound : w.Sound s.document.size := before.stops.sound
    have mode : w.mode = s.mode := Walk.Moves.mode before.stops.moves_any
    have skipped := Walk.skipLines_toSession w line rest
    cases found : w.visit? file line rest with
    | none =>
      obtain ⟨read, -⟩ := Walk.readBlock_of_visit?_eq_none found
      rw [read, Walk.skipLines_file] at opened
      obtain ⟨v, met, declares, written⟩ := ih opened
      refine ⟨v, List.mem_append_left _ met, declares, ?_⟩
      rw [read, skipped, written]
    | some v =>
      have walk := (Walk.of_visit? found).1
      have kept : v.walk.toSession = w.toSession := by rw [walk, skipped]
      have file_eq : v.walk.scope.file = w.scope.file := by rw [walk, Walk.skipLines_file]
      have here : v.walk.Sound s.document.size := (Walk.visit_leads found).sound sound
      rw [Walk.readBlock_of_visit? found] at opened ⊢
      cases earlier : w.scope.file with
      | some old =>
        -- the file that is open already stays, with what was written at it
        have leads := (Visit.settled_leads here).trans v.left_leads
        have still := Walk.Moves.keeps_file leads (file_eq.trans earlier)
        obtain rfl : old = id := Option.some.inj (still.symm.trans opened)
        obtain ⟨u, met, declares, written⟩ := ih earlier
        have inside := Scope.Sound.file_lt here (file_eq.trans earlier)
        refine ⟨u, List.mem_append_left _ met, declares, ?_⟩
        rw [Walk.Moves.block? leads here inside, kept, written]
      | none =>
        have awaits : v.walk.awaitsFile := by
          rw [Walk.awaitsFile, kept, mode, strict, file_eq, earlier]
          rfl
        obtain ⟨declares, written⟩ := Visit.declares_of_left awaits opened
        exact ⟨v, List.mem_append_right _ (List.mem_singleton.mpr rfl), declares, written⟩

/-- The file of a strict unit has been declared. -/
theorem walkUnit_declared (strict : s.mode.strict = true) {id : Nat}
    (opened : (s.walkUnit file lines).scope.file = some id) :
    ∃ v ∈ s.visits file lines, v.Declares id
      ∧ (s.walkUnit file lines).document.block? id = some v.block := by
  obtain ⟨last, line, stop, ended⟩ := visited_all s file lines
  rw [ended, Walk.file_closeItem] at opened
  obtain ⟨v, met, declares, written⟩ := stop.declared strict opened
  exact ⟨v, met, declares, by rw [ended, Walk.closeItem_toSession, written]⟩

/-- The default definitions declare no file. -/
theorem start_size {mode : Mode} (strict : mode.strict = true) :
    (start mode).document.size = 0 := by
  let s : Session := { mode }
  have appends := walkUnit_appends s defaultsSource defaultDefinitions
  show (s.walkUnit defaultsSource defaultDefinitions).document.size = 0
  cases opened : (s.walkUnit defaultsSource defaultDefinitions).scope.file with
  | none => exact appends.closed opened
  | some id =>
    obtain ⟨v, met, ⟨role, -⟩, -⟩ := walkUnit_declared strict opened
    obtain ⟨n, text, found, read, -⟩ := passage_of_mem_visits met
    have defines : ∀ text ∈ defaultDefinitions, (Header.ofLine? text).all fun header =>
        TitleRole.ofTitle header.title = .define := by decide +kernel
    have define := defines text (List.mem_of_getElem? found)
    simp [read, role] at define

/-- A file that a call adds is the one that its unit has opened. -/
theorem call_file (reached : s.Reachable) (c : Call) {id : Nat} (new : s.document.size ≤ id)
    (isFile : (s.call c).1.document.tag? id = some .file) :
    (s.walkUnit (c.source s.mode) c.lines).scope.file = some id := by
  have nested : (s.call c).1.document.Nested := (reached.after [c]).nested
  have appends := walkUnit_appends s (c.source s.mode) c.lines
  have root : id ∈ (s.call c).1.document.roots := by
    rw [nested.roots, Document.files, List.mem_filter]
    exact ⟨List.mem_range.mpr (Document.lt_of_tag? isFile), by simpa using isFile⟩
  rw [(call_walk s c).1, appends.roots] at root
  rcases List.mem_append.mp root with old | opened
  · -- the old roots have smaller numbers
    rw [reached.nested.roots, Document.files, List.mem_filter] at old
    have below := List.mem_range.mp old.1
    omega
  · exact Option.mem_toList.mp opened

/-- A strict session with some calls made: each of its files has been declared. -/
theorem files_declared {mode : Mode} (strict : mode.strict = true) (calls : List Call) {id : Nat}
    (isFile : ((start mode).after calls).document.tag? id = some .file) :
    ∃ before c rest, calls = before ++ c :: rest
      ∧ ∃ v ∈ ((start mode).after before).visits (c.source mode) c.lines,
          v.Declares id ∧ ((start mode).after calls).document.block? id = some v.block := by
  induction calls using List.reverseRecOn with
  | nil =>
    have lt : id < (start mode).document.size := Document.lt_of_tag? isFile
    rw [start_size strict] at lt
    omega
  | append_singleton calls c ih =>
    let s := (start mode).after calls
    have reached : s.Reachable := ⟨mode, calls, rfl⟩
    have sameMode : s.mode = mode := by
      rw [(after_settings (start mode) calls).1, (start_settings mode).1]
    have last : (start mode).after (calls ++ [c]) = (s.call c).1 := List.foldl_append ..
    have appends := walkUnit_appends s (c.source s.mode) c.lines
    rw [last] at isFile ⊢
    by_cases old : id < s.document.size
    · have kept : (s.call c).1.document.node? id = s.document.node? id := by
        rw [(call_walk s c).1]
        exact appends.unit.kept id old
      rw [Document.tag?, kept] at isFile
      obtain ⟨before, c', rest, split, v, met, declares, written⟩ := ih isFile
      refine ⟨before, c', rest ++ [c], by simp [split], v, met, declares, ?_⟩
      rw [Document.block?, kept]
      exact written
    · have opened := call_file reached c (Nat.le_of_not_lt old) isFile
      obtain ⟨v, met, declares, written⟩ := walkUnit_declared (sameMode ▸ strict) opened
      rw [sameMode] at met
      refine ⟨calls, c, [], rfl, v, met, declares, ?_⟩
      rw [(call_walk s c).1, written]

/-- **Strict mode only rejects.**  When a strict run logs no refusal for want of a File block, the
    same calls in lax mode end in the same document, index, log, rules and project, with the same
    outcomes.  And every file of a strict run was declared by the header of a File block, which was
    accepted; it still shows what its header said. -/
theorem strict_only_rejects (configSource : String) (calls : List Call) :
    let mode : Mode := { strict := true, configSource }
    let strict := start mode
    let lax := start { strict := false, configSource }
    ((strict.after calls).log.Timely →
        (lax.after calls).document = (strict.after calls).document
          ∧ (lax.after calls).index = (strict.after calls).index
          ∧ (lax.after calls).log = (strict.after calls).log
          ∧ (lax.after calls).registry = (strict.after calls).registry
          ∧ (lax.after calls).project = (strict.after calls).project
          ∧ lax.outcomes calls = strict.outcomes calls)
      ∧ ∀ id, (strict.after calls).document.tag? id = some .file →
          ∃ before c rest, calls = before ++ c :: rest
            ∧ ∃ v ∈ (strict.after before).visits (c.source mode) c.lines,
                v.Declares id ∧ (strict.after calls).document.block? id = some v.block := by
  intro mode strict lax
  refine ⟨fun timely => ?_, fun id isFile => files_declared rfl calls isFile⟩
  have started : lax = strict.inMode { strict := false, configSource } :=
    start_inMode rfl rfl (timely.of_prefix (after_entries strict calls))
  have config : configSource = strict.mode.configSource := by rw [(start_settings mode).1]
  obtain ⟨ended, reported⟩ :=
    @after_inMode { strict := false, configSource } strict config rfl calls timely
  rw [← started] at ended reported
  rw [ended]
  exact ⟨rfl, rfl, rfl, rfl, rfl, reported⟩

/-- A log whose messages begin in another way is timely. -/
theorem timely_of_heads {log : Log}
    (others : ∀ entry ∈ log.entries, entry.message.toList.head? ≠ some 'M') : log.Timely := by
  intro entry mem title same
  apply others entry mem
  rw [same]
  simp [Rejection.message, String.toList_append]

/-- A strict run with a definition, a File block, an item and a refusal of another kind. -/
theorem strict_only_rejects_redeclared :
    let calls : List Call := [.loadConfig "DefineHeader(Text): Note",
      .readLines ["// LibFile: a", "// Function: f()", "// Note: text", "// Function: f()"] "a"]
    let strict := (start { strict := true, configSource := configFile }).after calls
    let lax := (start { strict := false, configSource := configFile }).after calls
    strict.log.Timely ∧ strict.log.entries.length = 1
      ∧ lax.document = strict.document ∧ lax.log = strict.log
      ∧ ∃ before c rest, calls = before ++ c :: rest
        ∧ ∃ v ∈ ((start { strict := true, configSource := configFile }).after before).visits
            (c.source { strict := true, configSource := configFile }) c.lines,
          v.Declares 0 ∧ strict.document.block? 0 = some v.block := by
  let calls : List Call := [.loadConfig "DefineHeader(Text): Note",
    .readLines ["// LibFile: a", "// Function: f()", "// Note: text", "// Function: f()"] "a"]
  obtain ⟨same, declared⟩ := strict_only_rejects configFile calls
  have timely : ((start { strict := true, configSource := configFile }).after calls).log.Timely :=
    timely_of_heads (by decide +kernel)
  obtain ⟨document, -, log, -⟩ := same timely
  exact ⟨timely, by decide +kernel, document, log, declared 0 (by decide +kernel)⟩

end Session

end DocComments
