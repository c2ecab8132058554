/-
  Tables under a heading.

  A line of dashes has two meanings.  In the body of a table it parts one table from the next; in
  the body of an item it underlines the line before it.  The body of the item is cut first.  So the
  lines that are given to a table under a heading come to the table only as long as none of them is
  underlined by the next (`Uncut`): the first that is becomes a heading itself.  With a header of
  its own the table gets all of its lines.

  The table is followed through the blocks after it by what does not change at a node any more
  (`Moves.lasting`).

    * `table_under_heading`         the two ways of writing give the same table exactly then;
    * `row_over_dashes_cuts_table`  a row that is lost to the table, and refused.
-/
import DocComments.Proofs.Extraction
import DocComments.Proofs.Strictness
import DocComments.Proofs.Subheadings
import DocComments.Proofs.Tables

namespace DocComments

/-! ## The table of the arguments -/

/-- The header sets of the built-in table. -/
def argumentSets : List (List String) :=
  [["By Position", "What it does"], ["By Name", "What it does"]]

/-- The title of the built-in table. -/
def argumentsTitle : String := "Arguments"

/-- The built-in rule of that title is the active one. -/
def Registry.TakesArguments (registry : Registry) : Prop :=
  registry.lookup? argumentsTitle = Registry.builtinRules.lookup? argumentsTitle

theorem Registry.TakesArguments.lookup {registry : Registry} (ruled : registry.TakesArguments) :
    registry.lookup? argumentsTitle
      = some { kind := .table argumentSets, parent := some .item } := by
  rw [ruled]
  rfl

/-- The node is a table of arguments of the item, with this body. -/
def Node.IsArguments (item : Nat) (body : List String) (node : Node) : Prop :=
  node.kind = .leaf (.table argumentSets) ∧ node.parent = some item
    ∧ node.title = argumentsTitle ∧ node.body = body

instance (item : Nat) (body : List String) (node : Node) : Decidable (node.IsArguments item body) :=
  inferInstanceAs (Decidable (_ ∧ _ ∧ _ ∧ _))

theorem Node.Lasting.isArguments (item : Nat) (body : List String) :
    Node.Lasting (Node.IsArguments item body) := by
  refine ⟨fun _ _ => rfl, fun node f => ?_, fun node f => ?_⟩
  · have same : (node.kind.mapItem f = .leaf (.table argumentSets))
        = (node.kind = .leaf (.table argumentSets)) := by
      cases node.kind <;> simp [NodeKind.mapItem]
    simp only [IsArguments, same]
  · have same : (node.kind.mapFile f = .leaf (.table argumentSets))
        = (node.kind = .leaf (.table argumentSets)) := by
      cases node.kind <;> simp [NodeKind.mapFile]
    simp only [IsArguments, same]

/-- The node with a number is such a table. -/
def Document.HoldsArguments (doc : Document) (item child : Nat) (body : List String) : Prop :=
  ∃ node ∈ doc.node? child, node.IsArguments item body

instance (doc : Document) (item child : Nat) (body : List String) :
    Decidable (doc.HoldsArguments item child body) :=
  inferInstanceAs (Decidable (∃ node ∈ doc.node? child, node.IsArguments item body))

namespace Document.HoldsArguments

variable {doc after : Document} {item child : Nat} {body : List String}

/-- The tables of such a node are those of its body. -/
theorem tables (holds : doc.HoldsArguments item child body) :
    (doc.node? child).bind Node.tables? = some (Table.ofBody argumentSets body) := by
  obtain ⟨node, found, kind, -, -, rfl⟩ := holds
  rw [Option.mem_def.mp found]
  simp [Node.tables?, Node.headerSets?, kind]

theorem of_map_eq (holds : doc.HoldsArguments item child body)
    (same : (after.node? child).map (Node.IsArguments item body)
      = (doc.node? child).map (Node.IsArguments item body)) :
    after.HoldsArguments item child body := by
  obtain ⟨node, found, holds⟩ := holds
  rw [Option.mem_def.mp found] at same
  obtain ⟨node', found', same⟩ := Option.map_eq_some_iff.mp same
  exact ⟨node', found', same ▸ holds⟩

end Document.HoldsArguments

namespace Walk

variable {w after : Walk} {base item child : Nat} {leaf : Block} {body : List String}

/-- **The table under an open item** is added as it stands, and nothing else happens. -/
theorem settle_arguments (sound : w.Sound base) (opened : w.scope.item = some item)
    (ruled : w.registry.TakesArguments) (title : leaf.title = argumentsTitle) :
    settle leaf (w.addLeaf leaf)
      = { w with document := w.document.addChild item (leaf.node (.leaf (.table argumentSets))) }
      := by
  have role : LeafRole.ofTitle leaf.title = .plain := by rw [title]; rfl
  have rule := title ▸ ruled.lookup
  have place : w.placeFor { kind := .table argumentSets, parent := some .item } leaf.origin
      = (w, some item) := placeFor_of_item sound opened (.inr rfl) leaf.origin
  simp only [addLeaf, role, rule, addRegistered, place, shaped, aliasesOf, runHook, settle]

theorem log_arguments (sound : w.Sound base) (opened : w.scope.item = some item)
    (ruled : w.registry.TakesArguments) (title : leaf.title = argumentsTitle) :
    (settle leaf (w.addLeaf leaf)).log = w.log := by
  rw [settle_arguments sound opened ruled title]

/-- What comes after the table leaves it as it is. -/
theorem holdsArguments_foldl (inside : w.Inside base) (opened : w.scope.item = some item)
    (ruled : w.registry.TakesArguments) (title : leaf.title = argumentsTitle)
    (leaves : List Block) :
    ((leaf :: leaves).foldl (fun w leaf => settle leaf (w.addLeaf leaf)) w).document.HoldsArguments
      item w.document.size leaf.body := by
  have lt := Scope.Sound.item_lt inside.sound opened
  have sound := (inside.addLeaf leaf).sound
  have moves : (settle leaf (w.addLeaf leaf)).Leads
      (leaves.foldl (fun w leaf => settle leaf (w.addLeaf leaf)) (settle leaf (w.addLeaf leaf))) :=
    foldl_addLeaf_moves leaves sound fun _ _ => ⟨fun _ _ => trivial, fun _ _ _ _ _ _ => trivial⟩
  rw [List.foldl_cons]
  rw [settle_arguments inside.sound opened ruled title] at moves sound ⊢
  have added := Document.node?_addChild w.document lt (leaf.node (.leaf (.table argumentSets)))
    w.document.size
  rw [if_pos rfl] at added
  have holds : (w.document.addChild item (leaf.node (.leaf (.table argumentSets)))).HoldsArguments
      item w.document.size leaf.body := ⟨_, added, rfl, rfl, title, rfl⟩
  exact holds.of_map_eq
    (Moves.lasting moves sound (.isArguments item leaf.body) (Document.lt_of_node? added))

end Walk

/-- **An item with a block under a heading** is the item with what stands before the heading, then
    the block with the lines that are left to it, the blocks that its other lines make, and the
    blocks after it. -/
theorem Visit.settled_headed {v : Visit} {registry : Registry} {rest own rows : List String}
    {heading underline : String} {subs : List SubBlock} (takes : v.walk.takesItem v.header.title)
    (passed : (v.walk.prepareItem v.origin).1.itemCause? v.header.subtitle = none)
    (extracted : Body.ofLines v.rest = .ok (own ++ heading :: underline
      :: (rows ++ (subs.flatMap SubBlock.texts).map Body.cleaned)))
    (extracted' : Body.ofLines rest = .ok own) (heads : isHeading heading underline)
    (fits : ∀ sub ∈ subs, sub.Fits registry) :
    ∃ (n : Nat) (leaf : Block) (leaves : List Block),
      leaf.unplaced = { title := Text.strip heading
                        body := (splitAtHeadings v.origin n rows).1
                        origin := ⟨v.origin.file, 0⟩ }
        ∧ leaves.map Block.unplaced = subs.map (·.block v.origin.file)
        ∧ v.settled = (leaf :: ((splitAtHeadings v.origin n rows).2 ++ leaves)).foldl
            (fun w leaf => Walk.settle leaf (w.addLeaf leaf)) { v with rest := rest }.settled := by
  let n := 0 + own.length + 2
  obtain ⟨leaves, inner, same⟩ := SubBlock.splitAtHeadings_subBlocks v.origin n rows fits
  have cut := splitAtHeadings_append v.origin heads 0 own
    (rows ++ (subs.flatMap SubBlock.texts).map Body.cleaned)
  simp only [show 0 + own.length + 2 = n from rfl, inner] at cut
  have begun := v.walk.startItem_congr v.header v.origin (congrArg Prod.fst cut : _ = _)
  let leaf : Block :=
    { title := Text.strip heading
      body := (splitAtHeadings v.origin n rows).1
      origin := ⟨v.origin.file, v.origin.line + (0 + own.length) + 1⟩ }
  refine ⟨n, leaf, leaves, rfl, same, ?_⟩
  rw [settled_of_passed extracted takes passed, cut, begun, List.foldl_append,
    settled_of_passed (v := { v with rest := rest }) extracted' takes passed]

/-! ## The table in both ways of writing -/

namespace Session

variable {s : Session} {file text heading underline : String}
  {before inner own rows after : List String} {k id : Nat} {subs : List SubBlock} {v : Visit}

theorem isTitle_arguments : Header.IsTitle argumentsTitle.toList :=
  .inl ⟨'A', "rguments".toList, rfl, rfl, List.all_eq_true.mp rfl⟩

/-- The title, with blanks around it or without, and a line of dashes are a heading. -/
theorem isHeading_arguments (title : Text.strip heading = argumentsTitle)
    (underlined : isUnderline underline) : isHeading heading underline := by
  have chars : Text.trim heading.toList = argumentsTitle.toList := by
    rw [← title, Text.strip, String.toList_ofList]
  have plain : isUnderline heading = false := by
    rw [isUnderline, chars]
    decide
  simp [isHeading, title, plain, underlined, argumentsTitle]

/-- **A header with a part of its body,** and then another header or what else ends it. -/
theorem stop_taken {whole next : List String}
    (met : v ∈ s.visits file (before ++ text :: (inner ++ after)))
    (place : v.origin.line = before.length + 1) (body : Body.ofLines (inner ++ after) = .ok whole)
    {m : Nat} (le : m ≤ inner.length) (length : whole.length = inner.length)
    (ends : Body.Ends next) :
    let u : Visit := { v with rest := inner.take m ++ next }
    u ∈ s.visits file (before ++ text :: (inner.take m ++ next))
      ∧ Body.ofLines u.rest = .ok (whole.take m)
      ∧ ∃ line, s.Stops file (before ++ text :: (inner.take m ++ next)) (u.settled.facing next)
          line next := by
  intro u
  have met' : u ∈ s.visits file (before ++ text :: (inner.take m ++ next)) :=
    (visit_elsewhere met place).2.2 _
  have extracted : Body.ofLines u.rest = .ok (whole.take m) := by
    have front := Body.ofLines_take body m
    rw [List.take_append_of_le_length le] at front
    rw [← front]
    exact Body.ofLines_append _ ends
  have taken : (whole.take m).length = (inner.take m).length := by
    rw [List.length_take, List.length_take, length]
  obtain ⟨dropped, left⟩ := Visit.left_whole extracted rfl taken
  have stop := stop_after met'
  rw [left, dropped] at stop
  exact ⟨met', extracted, _, stop⟩

/-- **A table under a heading and with a header.**  Where an item is accepted and the rule of the
    table is the built-in one, the two ways of writing come to one node, a table and a child of the
    item.  Under the heading it gets all of its lines exactly if they are uncut, and then the walks
    differ in line numbers only and the table adds nothing to the log. -/
theorem table_under_heading (reached : s.Reachable) (le : Body.minIndent ≤ k)
    (met : v ∈ s.visits file (before ++ text :: (inner ++ after)))
    (place : v.origin.line = before.length + 1) (opens : v.OpensItem id)
    (body : Body.ofLines (inner ++ after) = .ok (own ++ heading :: underline
      :: (rows ++ (subs.flatMap SubBlock.texts).map Body.cleaned)))
    (whole : inner.length = own.length + rows.length + (subs.flatMap SubBlock.texts).length + 2)
    (title : Text.strip heading = argumentsTitle) (underlined : isUnderline underline)
    (start : Body.flush rows) (ruled : v.walk.registry.TakesArguments)
    (fits : ∀ sub ∈ subs, sub.Fits v.walk.registry) :
    let table : SubBlock := ⟨argumentsTitle, underline, rows⟩
    let headed := inner.take own.length ++ ((table :: subs).flatMap (SubBlock.lines k) ++ after)
    let item := { v with rest := headed }.settled
    let child := item.document.size
    ∃ (kept : List String) (w w' : Walk) (line line' : Nat),
      s.Stops file (before ++ text :: (inner ++ after)) w line after
        ∧ s.Stops file (before ++ text :: headed) w' line' after
        ∧ w.document.HoldsArguments id child kept ∧ w'.document.HoldsArguments id child rows
        ∧ (kept = rows ↔ Uncut rows)
        ∧ (Uncut rows →
            (w.document.node? child).bind Node.tables? = some (Table.ofBody argumentSets rows)
              ∧ (w'.document.node? child).bind Node.tables? = some (Table.ofBody argumentSets rows)
              ∧ w.Alike w' ∧ (subs = [] → w.log = item.log ∧ w'.log = item.log)) := by
  intro table headed item child
  have takes := opens.1.2
  have passed := opens.passed
  -- the bodies of the item, with the table and without it
  have length : (own ++ heading :: underline
      :: (rows ++ (subs.flatMap SubBlock.texts).map Body.cleaned)).length = inner.length := by
    simp only [List.length_append, List.length_cons, List.length_map]
    omega
  have ends : Body.Ends after := Body.ends_of_length body length
  have written := (visit_elsewhere met place).2.1
  have extracted := (congrArg Body.ofLines written).trans body
  obtain ⟨dropped, left⟩ := Visit.left_whole extracted written length
  have stop := stop_after met
  rw [left, dropped] at stop
  have headers : ∀ sub ∈ table :: subs, sub.TakesHeader v.walk.registry :=
    List.forall_mem_cons.mpr ⟨⟨isTitle_arguments, .inl rfl, start⟩,
      fun sub mem => (fits sub mem).takesHeader⟩
  obtain ⟨met', extracted', line', stop'⟩ := stop_taken met place body
    (by omega : own.length ≤ _) length (SubBlock.ends_headers k headers ends)
  rw [List.take_left] at extracted'
  -- the walk after the item without the table
  have inside : item.Inside s.document.size := inside_of_passed reached met' extracted' takes passed
  have settings : item.settings = v.walk.settings := Visit.settings_of_takesItem extracted' takes
  have admitted : item.awaitsFile = false :=
    (congrArg Settings.awaits settings).trans (Walk.admitted_of_takesItem takes)
  have rules : item.registry = v.walk.registry := congrArg Settings.registry settings
  rw [← rules] at ruled headers
  obtain ⟨n, leaf, leaves, written, blocks, settled⟩ := Visit.settled_headed takes passed
    extracted extracted' (isHeading_arguments title underlined) fits
  have opened : item.scope.item = some id := by
    have opened := (Visit.item_of_reachesItem (visit_sound met) opens.1 id).mpr opens
    rw [settled] at opened
    exact (Walk.foldl_addLeaf_keepsItems _ item).item.symm.trans opened
  -- the table and what follows it, with headers of their own
  obtain ⟨all, last, blocks', stop'⟩ := stop'.headers le ends admitted headers
  obtain ⟨leaf', leaves', rfl, written', blocks'⟩ := List.map_eq_cons_iff.mp blocks'
  have titled : leaf.title = argumentsTitle := (congrArg Block.title written).trans title
  have titled' : leaf'.title = argumentsTitle := congrArg Block.title written'
  have cleaned : rows.map Body.cleaned = rows :=
    (List.map_congr_left fun text mem => Body.cleaned_of_mem extracted (by simp [mem])).trans
      (List.map_id _)
  have bodied : leaf.unplaced.body = (splitAtHeadings v.origin n rows).1 := by rw [written]
  have bodied' : leaf'.unplaced.body = rows := by
    rw [written']
    exact cleaned
  have holds : (v.settled.facing after).document.HoldsArguments id child leaf.body := by
    rw [Walk.facing_toSession, settled]
    exact Walk.holdsArguments_foldl inside opened ruled titled _
  have holds' := Walk.holdsArguments_foldl inside opened ruled titled' leaves'
  rw [show leaf'.body = rows from bodied', ← Walk.facing_toSession _ after] at holds'
  have whole : leaf.body = rows ↔ Uncut rows := by
    rw [show leaf.body = _ from bodied]
    exact splitAtHeadings_own_iff v.origin n rows
  refine ⟨leaf.body, _, _, _, _, stop, stop', holds, holds', whole, fun uncut => ?_⟩
  -- without a cut the blocks are the same ones in both ways
  have source : v.origin.file = file := by
    obtain ⟨n, line, -, -, origin, -⟩ := passage_of_mem_visits met
    rw [origin]
  rw [splitAtHeadings_uncut _ _ uncut] at written settled
  have same : (leaf' :: leaves').map Block.unplaced = (leaf :: leaves).map Block.unplaced := by
    rw [List.map_cons, List.map_cons, written, written', blocks, blocks', source, title]
    simp only [SubBlock.block, cleaned, table]
  have alike := Walk.foldl_addLeaf_alike (.refl item) inside same
  refine ⟨whole.mpr uncut ▸ holds.tables, holds'.tables, ?_, ?_⟩
  · rw [settled]
    exact alike.facing (inside.foldl_addLeaf _).sound after
  · rintro rfl
    obtain rfl : leaves = [] := List.map_eq_nil_iff.mp blocks
    obtain rfl : leaves' = [] := List.map_eq_nil_iff.mp blocks'
    rw [Walk.facing_toSession, Walk.facing_toSession, settled]
    exact ⟨Walk.log_arguments inside.sound opened ruled titled,
      Walk.log_arguments inside.sound opened ruled titled'⟩

/-- A table that begins with a line of dashes, for the arguments by name, and another block after
    it. -/
theorem table_under_heading_by_name :
    let lines := "// Function: f()" :: SubBlock.underlined 3 ["Own."]
      [⟨"Arguments", "---------", ["---", "a = 1"]⟩, ⟨"Description", "---", ["Does."]⟩] []
    ∃ (w w' : Walk) (line line' child : Nat) (lines' : List String),
      (start {}).Stops "a" lines w line [] ∧ (start {}).Stops "a" lines' w' line' [] ∧ w.Alike w'
        ∧ w.document.HoldsArguments 2 child ["---", "a = 1"]
        ∧ (w.document.node? child).bind Node.tables?
            = some (.ok [⟨["By Name", "What it does"], [["a", "1"]]⟩]) := by
  intro lines
  let inner := lines.tail
  have read : ((start {}).visits "a" lines)[0]?.map (fun v =>
      (v.origin.line, v.walk.takesItem v.header.title, v.walk.registry.lookup? argumentsTitle))
      = some (1, true, Registry.builtinRules.lookup? argumentsTitle) := by decide +kernel
  have added : ((start {}).visits "a" lines)[0]?.map (fun v =>
      (v.verdict, v.walk.document.size, v.settled.document.tag? 2))
      = some (.accepted, 0, some .item) := by decide +kernel
  obtain ⟨v, found, read⟩ := Option.map_eq_some_iff.mp read
  simp only [found, Option.map_some, Option.some.injEq, Prod.mk.injEq] at read added
  obtain ⟨place, takes, ruled⟩ := read
  obtain ⟨accepted, size, isItem⟩ := added
  have fits : ∀ sub ∈ [(⟨"Description", "---", ["Does."]⟩ : SubBlock)],
      sub.Fits v.walk.registry := by
    have word : Header.IsWord "Description".toList :=
      ⟨'D', "escription".toList, rfl, rfl, List.all_eq_true.mp rfl⟩
    simpa using ⟨.inl word, .inl (by decide), by decide, by decide, by decide⟩
  have body : Body.ofLines (inner ++ []) = .ok (["Own."] ++ "Arguments" :: "---------"
      :: (["---", "a = 1"] ++ ["Description", "---", "Does."].map Body.cleaned)) := by decide +kernel
  have met : v ∈ (start {}).visits "a" ([] ++ "// Function: f()" :: (inner ++ [])) :=
    List.mem_of_getElem? found
  have written := (visit_elsewhere met place).2.1
  obtain ⟨kept, w, w', line, line', stop, stop', holds, -, whole, same⟩ :=
    @table_under_heading (start {}) "a" "// Function: f()" "Arguments" "---------" [] inner ["Own."]
      ["---", "a = 1"] [] 3 2 [⟨"Description", "---", ["Does."]⟩] v
      ⟨{}, [], rfl⟩ (by decide) met place
      ⟨⟨⟨_, (congrArg Body.ofLines written).trans body⟩, takes⟩, accepted, by omega, isItem⟩ body
      (by decide) (by decide) (by decide) (by decide) ruled fits
  obtain ⟨tables, -, alike, -⟩ := same (by decide)
  have all : kept = ["---", "a = 1"] := whole.mpr (by decide)
  have cells : Table.ofBody argumentSets ["---", "a = 1"]
      = .ok [⟨["By Name", "What it does"], [["a", "1"]]⟩] := by decide +kernel
  exact ⟨w, w', line, line', _, _, stop, stop', alike, all ▸ holds,
    tables.trans (congrArg some cells)⟩

/-- **A row over a line of dashes** becomes a heading itself, and it is refused as one.  The table
    is left without a line.  With a header of its own it has all three. -/
theorem row_over_dashes_cuts_table :
    let rows := ["a = 1", "---", "b = 2"]
    let lines := "// Function: f()"
      :: SubBlock.underlined 3 [] [⟨"Arguments", "---------", rows⟩] []
    let lines' := "// Function: f()" :: SubBlock.headed 3 [] [⟨"Arguments", "---------", rows⟩] []
    let w := (start {}).walkUnit "a" lines
    let w' := (start {}).walkUnit "a" lines'
    ((start {}).visits "a" lines).map (·.verdict) = [.accepted]
      ∧ w.document.HoldsArguments 2 3 [] ∧ w'.document.HoldsArguments 2 3 rows
      ∧ w.log.entries.map (·.message) = ["Unrecognized block: a = 1"] ∧ w'.log.entries = [] := by
  decide +kernel

end Session

end DocComments
