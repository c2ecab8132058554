/-
  No unit can tell which units were read before it.

  A unit is read twice: once from a session `s`, and once after another unit has been read there.
  When the two units have no name in common, the walks through the second one start as twins
  (`enter_twin`) and stay twins from block to block (`readFrom_twin`), so the outcomes are the same
  but for the numbers of the nodes.

  That they start as twins takes three facts about the unit in between: it forgets its rules
  (`Moves.rules`), it touches no node that was there (`walkUnit_appends`), and it registers no names
  but its own (`Moves.elsewhere`).  That the names of a unit can be read off its headers, whatever
  it defines, is a matter of the built-in rules again (`registers_namesIn`).
-/
import DocComments.Proofs.Appending
import DocComments.Proofs.Lockstep

namespace DocComments

/-! ## The names of a unit -/

/-- The names that a header may bring: the subtitle of an item, where there is one, or the entries
    of a list of further names. -/
def Header.names (header : Header) : List String :=
  match TitleRole.ofTitle header.title with
  | .item => if header.subtitle = "" then [] else [header.subtitle]
  | _ =>
    if header.title = "Alias" ∨ header.title = "Aliases" then Text.entriesOf header.subtitle else []

/-- The names that the headers among the lines may bring. -/
def namesIn (lines : List String) : List String :=
  (lines.filterMap Header.ofLine?).flatMap Header.names

/-- **A unit registers no names but those in its headers,** whatever it defines. -/
theorem registers_namesIn {registry : Registry} (built : registry.active.HooksBuiltIn)
    (lines : List String) : Registers (· ∈ namesIn lines) registry lines := by
  intro text mem header read
  have among : ∀ name ∈ header.names, name ∈ namesIn lines := fun name named =>
    List.mem_flatMap.mpr ⟨header, List.mem_filterMap.mpr ⟨text, mem, read⟩, named⟩
  refine ⟨fun role named => among _ ?_, fun rule found hook name listed => among _ ?_⟩
  · simp [Header.names, role, named]
  · have title := (built.aliases found hook).1
    -- the titles of the two built-in rules are no item titles
    have leaf : TitleRole.ofTitle header.title = .leaf := by
      rcases title with same | same <;> rw [same] <;> rfl
    simpa [Header.names, leaf, title] using listed

/-! ## What a unit leaves alone -/

namespace Walk

variable {here : Origin → Prop} {mine : String → Prop} {w after : Walk}

theorem Move.elsewhere (move : Move here mine w after) {name : String} (other : ¬ mine name) :
    after.index.lookup? name = w.index.lookup? name := by
  cases move with
  | close => rw [closeItem_toSession]
  | item container block opened place own nonempty free =>
    have ne : name ≠ block.subtitle := fun same => other (same ▸ own)
    rw [addItem_eq free, NameIndex.lookup?_enroll, if_neg (by simpa using ne)]
  | aliases parent rule block names opened found admits hook place given owned free =>
    exact (NameIndex.lookup?_enroll ..).trans (if_neg fun mem => other (owned name mem))
  | _ => rfl

/-- Moves keep the owners of all names that are not the unit's. -/
theorem Moves.elsewhere (moves : Moves here mine w after) {name : String} (other : ¬ mine name) :
    after.index.lookup? name = w.index.lookup? name := by
  induction moves with
  | refl => rfl
  | tail _ move ih => exact (move.elsewhere other).trans ih

/-! ## Reading in lockstep -/

variable {s t : Session} {d : Nat} {v : Walk}

theorem skipLines_twin (twin : Twin mine s t d w v) (line : Nat) (lines : List String) :
    Twin mine s t d (w.skipLines line lines).1 (v.skipLines line lines).1
      ∧ (v.skipLines line lines).2 = (w.skipLines line lines).2 := by
  induction lines generalizing w v line with
  | nil => exact ⟨twin.closeItem, rfl⟩
  | cons text rest ih =>
    have first : Twin mine s t d (if Body.isComment text then w else w.closeItem)
        (if Body.isComment text then v else v.closeItem) := by
      split
      · exact twin
      · exact twin.closeItem
    rw [skipLines, skipLines]
    split
    · exact ⟨first, rfl⟩
    · exact ih first _

theorem readBlock_twin (twin : Twin mine s t d w v) (file : String) (line : Nat)
    {lines : List String} (registers : Registers mine w.registry lines) :
    Twin mine s t d (w.readBlock file line lines).1 (v.readBlock file line lines).1
      ∧ (v.readBlock file line lines).2 = (w.readBlock file line lines).2 := by
  obtain ⟨twin, same⟩ := skipLines_twin twin line lines
  have kept := skipLines_registry w line lines
  have suffix := (skipLines_rest w line lines).1
  unfold readBlock
  generalize w.skipLines line lines = left at twin same kept suffix
  generalize v.skipLines line lines = right at twin same
  obtain ⟨w', line', rest⟩ := left
  obtain ⟨v', there⟩ := right
  simp only at twin same kept suffix
  subst same
  cases rest with
  | nil => exact ⟨twin, rfl⟩
  | cons text rest =>
    simp only
    cases read : Header.ofLine? text with
    | none => exact ⟨twin, rfl⟩
    | some header =>
      obtain ⟨name, lists⟩ := registers text (suffix.subset (List.mem_cons_self ..)) header read
      rw [← kept] at lists
      cases extracted : Body.ofLines rest with
      | error n => exact ⟨twin.note _, rfl⟩
      | ok body =>
        let block := header.block body ⟨file, line'⟩
        have agree : Agree mine s t d (w'.dispatch block) (v'.dispatch block) :=
          dispatch_twin twin name lists
        have handled := settle_twin agree block
        refine ⟨?_, rfl⟩
        simp only
        split
        · exact handled
        · exact handled.closeItem

/-- **Twins read to the end of the unit.** -/
theorem readFrom_twin (twin : Twin mine s t d w v) (file : String) (line : Nat)
    (lines : List String)
    (registers : ∀ registry, registry.active.HooksBuiltIn → Registers mine registry lines) :
    Twin mine s t d (w.readFrom file line lines) (v.readFrom file line lines) := by
  induction length : lines.length using Nat.strongRecOn generalizing w v line lines with
  | ind n ih =>
    rw [readFrom, readFrom]
    split
    · exact twin
    · rename_i more
      obtain ⟨first, same⟩ := readBlock_twin twin file line (registers _ twin.hooks)
      -- both sides go on with the same lines, and there are fewer of them
      have shorter := length_readBlock_lt w file line more
      have suffix := (readBlock_rest w file line lines).1
      rw [length] at shorter
      generalize w.readBlock file line lines = left at first same shorter suffix
      generalize v.readBlock file line lines = right at first same
      obtain ⟨w', next, rest⟩ := left
      obtain ⟨v', there⟩ := right
      simp only at first same shorter suffix
      subst same
      exact ih _ shorter first next rest
        (fun registry built text mem => registers registry built text (suffix.subset mem)) rfl

end Walk

/-! ## Two sessions -/

namespace Session

variable {s : Session}

/-- **Two starts of a unit are twins** when another unit lies between them that has no name in
    common with it. -/
theorem enter_twin (consistent : s.Consistent) (file : String) (lines : List String)
    (mine : String → Prop) (apart : ∀ name ∈ namesIn lines, ¬ mine name) :
    let mid := (s.walkUnit file lines).toSession
    Walk.Twin mine s mid (mid.document.size - s.document.size) s.enter mid.enter := by
  have moves : Walk.Moves (fun _ => True) (· ∈ namesIn lines) s.enter (s.walkUnit file lines) := by
    refine walkUnit_moves (fun _ _ => trivial) fun w before => registers_namesIn ?_ lines
    exact (Walk.Moves.rules before).2 consistent.baseline
  have appends := walkUnit_appends s file lines
  have grown := (walkUnit_sound s file lines).base_le
  have mode := Walk.Moves.mode moves
  have lookup := fun name => @Walk.Moves.elsewhere _ _ _ _ moves name
  have rules := (Walk.Moves.rules moves).1
  generalize s.walkUnit file lines = mid at mode lookup rules appends grown
  refine
    { mode := mode
      rules := rules
      hooks := consistent.baseline
      document := ?_
      scope := rfl
      opened := Scope.From.closed _
      lookup := fun name own => ?_
      names := ⟨[], (List.append_nil _).symm, (List.append_nil _).symm⟩
      entries := ⟨[], (List.append_nil _).symm, (List.append_nil _).symm⟩ }
  · refine ⟨Nat.le_refl _, ?_, appends.unit.kept, fun id le => ?_, fun id parent le up => ?_⟩
    · show mid.document.size = s.document.size + (mid.document.size - s.document.size)
      omega
    · -- neither session has a node of the unit yet
      have left : s.enter.document.node? id = none := Document.node?_eq_none le
      have right : mid.document.node? (id + (mid.document.size - s.document.size)) = none :=
        Document.node?_eq_none (by omega)
      rw [left]
      exact right
    · exact absurd (Document.lt_of_parent? up) (Nat.not_lt.mpr le)
  · have kept : mid.index.lookup? name = s.index.lookup? name :=
      lookup name fun named => apart name named own
    show mid.index.lookup? name = (s.index.lookup? name).map _
    rw [kept]
    cases owner : s.index.lookup? name with
    | none => rfl
    | some id =>
      -- the owner of an old name is an old node, and old nodes stay
      obtain ⟨node, info, found, -⟩ :=
        Document.mem_namesOf.mp ((consistent.named.lookup_iff name id).mp owner)
      rw [Option.map_some, relocate, if_pos (Document.lt_of_node? found)]

/-- **Units are independent.**  Two units that have no name in common can be read one after the
    other, and the second adds what it would have added without the first: the same names, the same
    log entries and the same nodes, further up by the number of nodes that the first added.  So a
    root is there in both cases or in none, and each new node has the same view. -/
theorem readLines_independent (reached : s.Reachable) (linesA linesB : List String)
    (fileA fileB : String) (apart : ∀ name ∈ namesIn linesA, name ∉ namesIn linesB) :
    let mid := (s.readLines linesA fileA).1
    let alone := s.readLines linesB fileB
    let second := mid.readLines linesB fileB
    let d := mid.document.size - s.document.size
    second.2.names = alone.2.names
      ∧ second.2.entries = alone.2.entries
      ∧ second.2.root = alone.2.root.map (· + d)
      ∧ second.1.document.nodes.drop mid.document.size
          = (alone.1.document.nodes.drop s.document.size).map (Node.shift d)
      ∧ (∀ id, s.document.size ≤ id →
          second.1.document.view? (id + d) = alone.1.document.view? id)
      ∧ ∀ root, alone.2.root = some root →
          second.1.document.view? (root + d) = alone.1.document.view? root := by
  intro mid alone second d
  have start := enter_twin reached.consistent fileA linesA (· ∈ namesIn linesB) apart
  have twin : Walk.Twin (· ∈ namesIn linesB) s mid d (s.walkUnit fileB linesB)
      (mid.walkUnit fileB linesB) :=
    (Walk.readFrom_twin start fileB 1 linesB fun registry built =>
      registers_namesIn built linesB).closeItem
  have grown : s.document.size + d = mid.document.size :=
    Nat.add_sub_cancel' (walkUnit_sound s fileA linesA).base_le
  refine ⟨?_, ?_, twin.file, grown ▸ twin.document.drop, fun id le => twin.document.view? le,
    fun root opened => twin.document.view? (twin.opened.file root opened)⟩
  · obtain ⟨added, left, right⟩ := twin.names
    show (mid.walkUnit fileB linesB).index.names.drop mid.index.names.length
      = (s.walkUnit fileB linesB).index.names.drop s.index.names.length
    rw [left, right, List.drop_left, List.drop_left]
  · obtain ⟨added, left, right⟩ := twin.entries
    show (mid.walkUnit fileB linesB).log.entries.drop mid.log.entries.length
      = (s.walkUnit fileB linesB).log.entries.drop s.log.entries.length
    rw [left, right, List.drop_left, List.drop_left]

/-- The first unit defines a title, and the second uses it: it is refused, as it is without the
    first. -/
theorem readLines_independent_definition :
    let linesA := ["// DefineHeader(Text): Note", "// Function: f", "// Alias: g"]
    let linesB := ["// Function: h", "// Note: text"]
    let mid := ((start {}).readLines linesA "a").1
    let alone := (start {}).readLines linesB "b"
    let second := mid.readLines linesB "b"
    alone.2.names = ["h"] ∧ second.2.names = ["h"] ∧ alone.2.entries.length = 1
      ∧ second.2.entries = alone.2.entries := by
  have apart : ∀ name ∈ namesIn ["// DefineHeader(Text): Note", "// Function: f", "// Alias: g"],
      name ∉ namesIn ["// Function: h", "// Note: text"] := by decide +kernel
  obtain ⟨names, entries, -⟩ :=
    readLines_independent (s := start {}) ⟨{}, [], rfl⟩ _ _ "a" "b" apart
  have alone : ((start {}).readLines ["// Function: h", "// Note: text"] "b").2.names = ["h"] := by
    decide +kernel
  exact ⟨alone, names.trans alone, by decide +kernel, entries⟩

end Session

end DocComments
