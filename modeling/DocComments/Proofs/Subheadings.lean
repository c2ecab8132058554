/-
  Underlined headings mean what headers mean.

  The blocks of an item can be written in two ways: under underlined headings in the body of the
  item, or with headers of their own after it.  The first way cuts a body that has been read already
  (`splitAtHeadings_subBlocks`); the second goes through the reading of headers and bodies, block by
  block, with the item open (`Stops.headers`).  Both come to the same leaves in the same order, at
  other lines, and so to walks that differ in line numbers only (`headings_mean_headers`).

  A heading is known by the line under it, and blanks around the dashes do not count there.  So the
  body of such a block may not hold a line of dashes, not even one that is indented further: it
  would cut the block in the one way of writing and not in the other
  (`indented_dashes_cut_heading`).
-/
import DocComments.Proofs.Alike
import DocComments.Proofs.Arrival
import DocComments.Proofs.Settings

namespace DocComments

/-! ## Blocks of an item -/

namespace SubBlock

/-- With a header of its own, and the body at one indentation. -/
def lines (k : Nat) (sub : SubBlock) : List String :=
  Header.render ⟨sub.title, "", ""⟩ :: sub.body.map (Body.indented k)

/-- What is written in both ways, but for its line. -/
def block (file : String) (sub : SubBlock) : Block where
  title := sub.title
  body := sub.body.map Body.cleaned
  origin := ⟨file, 0⟩

/-- The block can be written in both ways: its title is one of a leaf, or one of an item that has a
    rule of its own, the line under it is one of dashes and no line of its body is, and the body
    does not begin with a blank. -/
structure Fits (registry : Registry) (sub : SubBlock) : Prop where
  title : Header.IsTitle sub.title.toList
  leaf : TitleRole.ofTitle sub.title = .leaf
    ∨ TitleRole.ofTitle sub.title = .item ∧ registry.contains sub.title
  underlined : isUnderline sub.underline
  start : Body.flush sub.body
  plain : ∀ text ∈ sub.body, isUnderline text = false

variable {registry : Registry} {sub : SubBlock}

theorem Fits.strip_title (fits : sub.Fits registry) :
    Text.strip (Body.cleaned sub.title) = sub.title := by
  rw [Text.strip, Body.cleaned, String.toList_ofList, Text.trim_trimEnd,
    (Header.trim_title fits.title).2, String.ofList_toList]

/-- The title and the line under it are a heading. -/
theorem Fits.heading (fits : sub.Fits registry) :
    isHeading (Body.cleaned sub.title) (Body.cleaned sub.underline) := by
  obtain ⟨c, cs, chars, upper⟩ := Header.head_of_isTitle fits.title
  have named : sub.title ≠ "" := by
    intro empty
    simp [empty] at chars
  have plain : isUnderline sub.title = false := by
    have dash : c ≠ '-' := by
      rintro rfl
      simp at upper
    have whole : Text.trim (c :: cs) = c :: cs := chars ▸ (Header.trim_title fits.title).2
    simp [isUnderline, chars, whole, dash]
  simp [isHeading, fits.strip_title, named, Body.isUnderline_cleaned, plain, fits.underlined]

/-- **The headings of a body** are the blocks that were written there, each with its body. -/
theorem splitAtHeadings_subBlocks (origin : Origin) (n : Nat) (front : List String)
    {subs : List SubBlock} (fits : ∀ sub ∈ subs, sub.Fits registry) :
    ∃ leaves : List Block,
      splitAtHeadings origin n (front ++ (subs.flatMap texts).map Body.cleaned)
        = ((splitAtHeadings origin n front).1, (splitAtHeadings origin n front).2 ++ leaves)
      ∧ leaves.map Block.unplaced = subs.map (·.block origin.file) := by
  induction subs generalizing n front with
  | nil => exact ⟨[], by simp, rfl⟩
  | cons sub rest ih =>
    have fit := fits sub (List.mem_cons_self ..)
    have written : ((sub :: rest).flatMap texts).map Body.cleaned
        = Body.cleaned sub.title :: Body.cleaned sub.underline
          :: (sub.body.map Body.cleaned ++ (rest.flatMap texts).map Body.cleaned) := by
      simp [texts, List.flatMap_cons]
    have plain : ∀ text ∈ sub.body.map Body.cleaned, isUnderline text = false := by
      intro text mem
      obtain ⟨raw, there, rfl⟩ := List.mem_map.mp mem
      rw [Body.isUnderline_cleaned]
      exact fit.plain raw there
    obtain ⟨leaves, cut, same⟩ := ih (n + front.length + 2) (sub.body.map Body.cleaned)
      fun other mem => fits other (List.mem_cons_of_mem _ mem)
    rw [splitAtHeadings_uncut origin _ (.of_plain plain)] at cut
    have split := splitAtHeadings_append origin fit.heading n front
      (sub.body.map Body.cleaned ++ (rest.flatMap texts).map Body.cleaned)
    rw [← written, cut] at split
    refine ⟨_, split, ?_⟩
    rw [List.map_cons, List.map_cons, List.nil_append, same]
    simp only [Block.unplaced, Origin.unplaced, block, fit.strip_title]

/-- A title does not begin with a blank. -/
theorem Fits.flush (fits : sub.Fits registry) (rest : List String) :
    Body.flush (sub.title :: rest) := by
  obtain ⟨c, cs, chars, upper⟩ := Header.head_of_isTitle fits.title
  have plain := Header.not_blank_of_isWordChar (Header.isWordChar_of_isUpper upper)
  simp [Body.flush, chars, plain]

theorem flush_append {own : List String} {subs : List SubBlock} (start : Body.flush own)
    (fits : ∀ sub ∈ subs, sub.Fits registry) : Body.flush (own ++ subs.flatMap texts) := by
  cases own with
  | cons first others => exact start
  | nil =>
    cases subs with
    | nil => rfl
    | cons sub others => exact (fits sub (List.mem_cons_self ..)).flush _

/-- The block can be written with a header of its own, whatever lines it has. -/
structure TakesHeader (registry : Registry) (sub : SubBlock) : Prop where
  title : Header.IsTitle sub.title.toList
  leaf : TitleRole.ofTitle sub.title = .leaf
    ∨ TitleRole.ofTitle sub.title = .item ∧ registry.contains sub.title
  start : Body.flush sub.body

theorem Fits.takesHeader (fits : sub.Fits registry) : sub.TakesHeader registry :=
  ⟨fits.title, fits.leaf, fits.start⟩

/-- A header of a block ends the body before it. -/
theorem ends_headers (k : Nat) {subs : List SubBlock}
    (headers : ∀ sub ∈ subs, sub.TakesHeader registry) {rest : List String}
    (ends : Body.Ends rest) : Body.Ends (subs.flatMap (lines k) ++ rest) := by
  cases subs with
  | nil => exact ends
  | cons sub others =>
    exact Body.ends_of_header (Header.ofLine?_render (headers sub (List.mem_cons_self ..)).title) _

theorem ends_lines (k : Nat) {subs : List SubBlock} (fits : ∀ sub ∈ subs, sub.Fits registry)
    {rest : List String} (ends : Body.Ends rest) : Body.Ends (subs.flatMap (lines k) ++ rest) :=
  ends_headers k (fun sub mem => (fits sub mem).takesHeader) ends

end SubBlock

/-! ## Reading headers one after the other -/

theorem Walk.visit?_cons (w : Walk) (file : String) (line : Nat) {text : String} {header : Header}
    (read : Header.ofLine? text = some header) (rest : List String) :
    w.visit? file line (text :: rest) = some ⟨w, ⟨file, line⟩, header, rest⟩ :=
  visit?_header (List.forall_mem_nil _) read

namespace Session

variable {s : Session} {file text : String} {lines before own after : List String} {w : Walk}
  {k line : Nat} {subs : List SubBlock} {v : Visit}

/-- **A block with a header of its own** is handled as a leaf. -/
theorem Stops.subBlock {sub : SubBlock} {rest : List String} (le : Body.minIndent ≤ k)
    (titled : Header.IsTitle sub.title.toList) (takes : w.takesLeaf sub.title)
    (start : Body.flush sub.body) (ends : Body.Ends rest)
    (stop : s.Stops file lines (w.facing (sub.lines k ++ rest)) line (sub.lines k ++ rest)) :
    ∃ (leaf : Block) (last : Nat), leaf.unplaced = sub.block file
      ∧ s.Stops file lines ((Walk.settle leaf (w.addLeaf leaf)).facing rest) last rest := by
  let header : Header := ⟨sub.title, "", ""⟩
  have read : Header.ofLine? header.render = some header := Header.ofLine?_render titled
  let v : Visit := ⟨w, ⟨file, line⟩, header, sub.body.map (Body.indented k) ++ rest⟩
  let leaf := header.block (sub.body.map Body.cleaned) ⟨file, line⟩
  have written : sub.lines k ++ rest = header.render :: v.rest := rfl
  -- the header is a comment, so the item stays open before it
  have stays : w.facing (header.render :: v.rest) = w :=
    if_pos (by simpa using Header.isComment_of_ofLine? read)
  rw [written, stays] at stop
  obtain ⟨extracted, dropped, left⟩ := Visit.left_written (v := v) le start ends rfl
  have next := stop.next (List.cons_ne_nil _ _)
  rw [Walk.readBlock_of_visit? (w.visit?_cons file line read v.rest)] at next
  simp only at next
  rw [left, dropped, Walk.settled_ok extracted, Walk.dispatch_of_takesLeaf takes] at next
  exact ⟨leaf, _, rfl, next⟩

/-- **Blocks with headers of their own** are handled as leaves, one after the other. -/
theorem Stops.headers (le : Body.minIndent ≤ k) (ends : Body.Ends after)
    (admitted : w.awaitsFile = false) (headers : ∀ sub ∈ subs, sub.TakesHeader w.registry)
    (stop : s.Stops file lines (w.facing (subs.flatMap (SubBlock.lines k) ++ after)) line
      (subs.flatMap (SubBlock.lines k) ++ after)) :
    ∃ (leaves : List Block) (last : Nat),
      leaves.map Block.unplaced = subs.map (·.block file)
      ∧ s.Stops file lines
          ((leaves.foldl (fun w leaf => Walk.settle leaf (w.addLeaf leaf)) w).facing after)
          last after := by
  induction subs generalizing w line with
  | nil => exact ⟨[], line, rfl, stop⟩
  | cons sub rest ih =>
    have own := headers sub (List.mem_cons_self ..)
    have others : ∀ other ∈ rest, other.TakesHeader w.registry :=
      fun other mem => headers other (List.mem_cons_of_mem _ mem)
    have takes : w.takesLeaf sub.title := by
      rcases own.leaf with role | ⟨role, ruled⟩
      · simp [Walk.takesLeaf, role, admitted]
      · simp [Walk.takesLeaf, role, ruled, admitted]
    rw [List.flatMap_cons, List.append_assoc] at stop
    obtain ⟨leaf, next, first, stop⟩ :=
      stop.subBlock le own.title takes own.start (SubBlock.ends_headers k others ends)
    have settings : (Walk.settle leaf (w.addLeaf leaf)).settings = w.settings :=
      (Walk.settle_steady (Walk.addLeaf_steady w leaf)).settings admitted
    have rules : (Walk.settle leaf (w.addLeaf leaf)).registry = w.registry :=
      congrArg Settings.registry settings
    obtain ⟨leaves, last, same, stops⟩ := ih ((congrArg Settings.awaits settings).trans admitted)
      (fun other mem => by rw [rules]; exact others other mem) stop
    exact ⟨leaf :: leaves, last, by rw [List.map_cons, same, first, List.map_cons], stops⟩

theorem Stops.subBlocks (le : Body.minIndent ≤ k) (ends : Body.Ends after)
    (admitted : w.awaitsFile = false) (fits : ∀ sub ∈ subs, sub.Fits w.registry)
    (stop : s.Stops file lines (w.facing (subs.flatMap (SubBlock.lines k) ++ after)) line
      (subs.flatMap (SubBlock.lines k) ++ after)) :
    ∃ (leaves : List Block) (last : Nat),
      leaves.map Block.unplaced = subs.map (·.block file)
      ∧ s.Stops file lines
          ((leaves.foldl (fun w leaf => Walk.settle leaf (w.addLeaf leaf)) w).facing after)
          last after :=
  stop.headers le ends admitted fun sub mem => (fits sub mem).takesHeader

end Session

/-! ## An item with its blocks -/

/-- An item leaves the settings as they are. -/
theorem Visit.settings_of_takesItem {v : Visit} {body : List String}
    (extracted : Body.ofLines v.rest = .ok body)
    (takes : v.walk.takesItem v.header.title) : v.settled.settings = v.walk.settings := by
  rw [Walk.settled_ok extracted, Walk.dispatch_of_takesItem takes]
  exact (Walk.settle_steady (Walk.openItem_steady v.walk _)).settings
    (Walk.admitted_of_takesItem takes)

/-- What is under the headings of a body is no matter of the item itself. -/
theorem Walk.startItem_congr (w : Walk) (header : Header) (origin : Origin)
    {body body' : List String}
    (own : (splitAtHeadings origin 0 body').1 = (splitAtHeadings origin 0 body).1) :
    w.startItem (header.block body' origin) = w.startItem (header.block body origin) := by
  show (w.prepareItem origin).1.addItem _ { header.block body' origin with body := _ }
    = (w.prepareItem origin).1.addItem _ { header.block body origin with body := _ }
  simp only [Header.block, own]

/-- **The same item with and without the blocks** under headings of its body: with them, it is the
    item without them, and then the blocks. -/
theorem Visit.settled_underlined {v : Visit} {registry : Registry} {rest own : List String}
    {subs : List SubBlock} (takes : v.walk.takesItem v.header.title)
    (passed : (v.walk.prepareItem v.origin).1.itemCause? v.header.subtitle = none)
    (extracted : Body.ofLines v.rest
      = .ok ((own ++ subs.flatMap SubBlock.texts).map Body.cleaned))
    (extracted' : Body.ofLines rest = .ok (own.map Body.cleaned))
    (fits : ∀ sub ∈ subs, sub.Fits registry) :
    ∃ leaves : List Block, leaves.map Block.unplaced = subs.map (·.block v.origin.file)
      ∧ v.settled = leaves.foldl (fun w leaf => Walk.settle leaf (w.addLeaf leaf))
          { v with rest := rest }.settled := by
  rw [List.map_append] at extracted
  obtain ⟨leaves, cut, same⟩ :=
    SubBlock.splitAtHeadings_subBlocks v.origin 0 (own.map Body.cleaned) fits
  have begun := v.walk.startItem_congr v.header v.origin (congrArg Prod.fst cut : _ = _)
  refine ⟨leaves, same, ?_⟩
  rw [settled_of_passed extracted takes passed, cut, List.foldl_append, begun,
    settled_of_passed (v := { v with rest := rest }) extracted' takes passed]

theorem Walk.Alike.facing {w w' : Walk} {base : Nat} (alike : w.Alike w') (sound : w.Sound base)
    (rest : List String) : (w.facing rest).Alike (w'.facing rest) := by
  unfold Walk.facing
  split
  · exact alike
  · exact alike.closeItem sound

namespace SubBlock

/-- The lines after an item header, with the blocks under headings in the item's body. -/
def underlined (k : Nat) (own : List String) (subs : List SubBlock) (after : List String) :
    List String :=
  (own ++ subs.flatMap texts).map (Body.indented k) ++ after

/-- The lines after an item header, with headers of their own for the blocks. -/
def headed (k : Nat) (own : List String) (subs : List SubBlock) (after : List String) :
    List String :=
  own.map (Body.indented k) ++ (subs.flatMap (lines k) ++ after)

end SubBlock

namespace Session

variable {s : Session} {file text : String} {before own after : List String} {k id : Nat}
  {subs : List SubBlock} {v : Visit}

/-- The stop after a header. -/
theorem stop_after {lines : List String} (met : v ∈ s.visits file lines) :
    s.Stops file lines v.left (v.origin.line + 1 + v.taken) (v.rest.drop v.taken) := by
  obtain ⟨past, future, split⟩ := List.append_of_mem met
  obtain ⟨w, line, rest, stop, found, -⟩ := visits_split split
  have next := stop.stops.next (Walk.ne_nil_of_visit? found)
  rwa [Walk.readBlock_of_visit? found] at next

/-- After an item header that has been found good an item is open. -/
theorem inside_of_passed {lines body : List String} (reached : s.Reachable)
    (met : v ∈ s.visits file lines) (extracted : Body.ofLines v.rest = .ok body)
    (takes : v.walk.takesItem v.header.title)
    (passed : (v.walk.prepareItem v.origin).1.itemCause? v.header.subtitle = none) :
    v.settled.Inside s.document.size := by
  have consistent := reached.consistent
  have entered := Walk.visitsFrom_leads s.enter_sound met
  have begun := Walk.Inside.startItem (visit_sound met)
    ((Walk.Moves.rules entered).2 consistent.baseline)
    (entered.named s.enter_sound consistent.baseline consistent.named)
    (v.header.block body v.origin) passed
  rw [Visit.settled_of_passed extracted takes passed]
  exact begun.foldl_addLeaf _

/-- **Underlined headings mean what headers mean.**  Where an item header is accepted, the blocks
    under the headings of its body, written with headers of their own after the item, lead to the
    same item in the same place, and to a walk that differs in line numbers only.  The unit may go
    on in any way that does not go on with the last body. -/
theorem headings_mean_headers (reached : s.Reachable) (le : Body.minIndent ≤ k)
    (start : Body.flush own) (ends : Body.Ends after)
    (met : v ∈ s.visits file (before ++ text :: SubBlock.underlined k own subs after))
    (place : v.origin.line = before.length + 1) (opens : v.OpensItem id)
    (fits : ∀ sub ∈ subs, sub.Fits v.walk.registry) :
    ∃ (w w' : Walk) (line line' : Nat),
      s.Stops file (before ++ text :: SubBlock.underlined k own subs after) w line after
      ∧ s.Stops file (before ++ text :: SubBlock.headed k own subs after) w' line' after
      ∧ w.document.tag? id = some .item ∧ w'.document.node? id = w.document.node? id
      ∧ w.Alike w'
      ∧ (after = [] →
          (s.walkUnit file (before ++ text :: SubBlock.underlined k own subs after)).Alike
            (s.walkUnit file (before ++ text :: SubBlock.headed k own subs after))) := by
  obtain ⟨-, written, elsewhere⟩ := visit_elsewhere met place
  let u : Visit := { v with rest := SubBlock.headed k own subs after }
  have met' : u ∈ s.visits file (before ++ text :: SubBlock.headed k own subs after) := elsewhere _
  have takes := opens.1.2
  have passed := opens.passed
  -- the bodies of the header, and the walks after them
  have headers : Body.Ends (subs.flatMap (SubBlock.lines k) ++ after) :=
    SubBlock.ends_lines k fits ends
  obtain ⟨extracted, dropped, left⟩ :=
    Visit.left_written le (SubBlock.flush_append start fits) ends written
  obtain ⟨extracted', dropped', left'⟩ := Visit.left_written (v := u) le start headers rfl
  have stop := stop_after met
  have stop' := stop_after met'
  rw [left, dropped] at stop
  rw [left', dropped'] at stop'
  -- the blocks, as headings and with headers of their own
  obtain ⟨leaves, blocks, settled⟩ :=
    Visit.settled_underlined takes passed extracted extracted' fits
  have settings : u.settled.settings = v.walk.settings :=
    Visit.settings_of_takesItem extracted' takes
  have admitted : u.settled.awaitsFile = false :=
    (congrArg Settings.awaits settings).trans (Walk.admitted_of_takesItem takes)
  have rules : u.settled.registry = v.walk.registry := congrArg Settings.registry settings
  obtain ⟨leaves', last, blocks', stop'⟩ :=
    stop'.subBlocks le ends admitted fun sub mem => by rw [rules]; exact fits sub mem
  have source : v.origin.file = file := by
    obtain ⟨n, line, -, -, origin, -⟩ := passage_of_mem_visits met
    rw [origin]
  -- both are the same leaves under the same open item
  have inside : u.settled.Inside s.document.size :=
    inside_of_passed reached met' extracted' takes passed
  have alike := Walk.foldl_addLeaf_alike (.refl u.settled) inside
    (blocks'.trans (source ▸ blocks.symm))
  have sound := (inside.foldl_addLeaf leaves).sound
  rw [← settled] at alike sound
  have isItem : (v.settled.facing after).document.tag? id = some .item := by
    rw [Walk.facing_toSession]
    exact opens.2.2.2
  have faced := alike.facing sound after
  refine ⟨_, _, _, _, stop, stop', isItem, faced.document.items id isItem, faced, ?_⟩
  rintro rfl
  rw [stop.walkUnit_eq, stop'.walkUnit_eq, Walk.readFrom, dif_pos rfl, Walk.readFrom, dif_pos rfl]
  exact faced.closeItem stop.sound

/-- An item with a description and with a block that no rule is for.  Both ways of writing give the
    same nodes and the same refusal, at other lines. -/
theorem headings_mean_headers_description :
    let subs : List SubBlock :=
      [⟨"Description", "-----------", ["Does a thing."]⟩, ⟨"Nonsense", "---", []⟩]
    let w := (start {}).walkUnit "a" ("// Function: f()" :: SubBlock.underlined 4 ["Own."] subs [])
    let w' := (start {}).walkUnit "a" ("// Function: f()" :: SubBlock.headed 4 ["Own."] subs [])
    w.Alike w' ∧ w.document.size = 4
      ∧ w.log.entries.map (·.message) = ["Unrecognized block: Nonsense"] := by
  intro subs w w'
  let lines := "// Function: f()" :: SubBlock.underlined 4 ["Own."] subs []
  have read : ((start {}).visits "a" lines)[0]?.map (fun v =>
      (v.origin.line, (Body.ofLines v.rest).toOption.isSome, v.walk.takesItem v.header.title))
      = some (1, true, true) := by decide +kernel
  have added : ((start {}).visits "a" lines)[0]?.map (fun v =>
      (v.verdict, v.walk.document.size, v.settled.document.tag? 2))
      = some (.accepted, 0, some .item) := by decide +kernel
  obtain ⟨v, found, read⟩ := Option.map_eq_some_iff.mp read
  simp only [found, Option.map_some, Option.some.injEq, Prod.mk.injEq] at read added
  obtain ⟨place, indented, takes⟩ := read
  obtain ⟨accepted, size, isItem⟩ := added
  have body : ∃ body, Body.ofLines v.rest = .ok body := by
    cases extracted : Body.ofLines v.rest with
    | ok body => exact ⟨body, rfl⟩
    | error n => simp [extracted, Except.toOption] at indented
  have fits : ∀ sub ∈ subs, sub.Fits v.walk.registry := by
    simp only [subs, List.forall_mem_cons]
    have words : Header.IsWord "Description".toList ∧ Header.IsWord "Nonsense".toList :=
      ⟨⟨'D', "escription".toList, rfl, rfl, List.all_eq_true.mp rfl⟩,
        'N', "onsense".toList, rfl, rfl, List.all_eq_true.mp rfl⟩
    exact ⟨⟨.inl words.1, .inl (by decide), by decide, by decide, by decide⟩,
      ⟨.inl words.2, .inl (by decide), by decide, by decide, by decide⟩, by simp⟩
  obtain ⟨-, -, -, -, -, -, -, -, -, same⟩ :=
    @headings_mean_headers (start {}) "a" "// Function: f()" [] ["Own."] [] 4 2 subs v
      ⟨{}, [], rfl⟩ (by decide) (by decide) rfl (List.mem_of_getElem? found) place
      ⟨⟨body, takes⟩, accepted, by omega, isItem⟩ fits
  exact ⟨same rfl, by decide +kernel, by decide +kernel⟩

/-- **A line of dashes that is indented further** ends a block under a heading, and begins one with
    the line before it as title.  Under a header of its own it is a line like any other. -/
theorem indented_dashes_cut_heading :
    let sub : SubBlock := ⟨"Description", "-----------", ["a", "  ---"]⟩
    let lines := "// Function: f()" :: SubBlock.underlined 4 [] [sub] []
    let lines' := "// Function: f()" :: SubBlock.headed 4 [] [sub] []
    Header.IsTitle sub.title.toList ∧ TitleRole.ofTitle sub.title = .leaf
      ∧ isUnderline sub.underline ∧ Body.flush sub.body
      ∧ (∀ text ∈ sub.body, ¬ text.toList.all (· = '-'))
      ∧ ((start {}).visits "a" lines).map (·.verdict) = [.accepted]
      ∧ ((start {}).walkUnit "a" lines).log.entries.map (·.message) = ["Unrecognized block: a"]
      ∧ ((start {}).walkUnit "a" lines').log.entries = [] := by
  have word : Header.IsWord "Description".toList :=
    ⟨'D', "escription".toList, rfl, rfl, List.all_eq_true.mp rfl⟩
  exact ⟨.inl word, by decide, by decide, by decide, by decide, by decide +kernel,
    by decide +kernel, by decide +kernel⟩

end Session

end DocComments
