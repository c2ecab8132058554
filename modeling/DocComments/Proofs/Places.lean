/-
  Where the nodes of a block stand.

  A handler adds nodes for one block, and it adds them in order: first the containers that the block
  needs, at its header, then its own node, at its header as well, or an image for each line of its
  body.  `Walk.Lays origin n` says that all the new nodes stand at the header or at one of the `n`
  lines after it, in order, and that the log has got nothing but warnings at the header.

  Handlers that do one after the other what other handlers do lay what these lay, as long as the
  first of them stay at the header (`Lays.trans`); only plural images go further, and nothing comes
  after them.

  Unlike a move (`Walk.Move`), which tells of one node at a time, this tells of their order.
-/
import DocComments.Proofs.Handlers

namespace DocComments

/-! ## Places in order -/

/-- The places are of one file, between two lines, and in the order of their lines. -/
structure InOrder (file : String) (first last : Nat) (places : List Origin) : Prop where
  file : ∀ place ∈ places, place.file = file
  within : ∀ place ∈ places, first ≤ place.line ∧ place.line ≤ last
  sorted : places.Pairwise (·.line ≤ ·.line)

namespace InOrder

variable {file : String} {first last first' last' : Nat} {places more : List Origin}

theorem nil (file : String) (first last : Nat) : InOrder file first last [] :=
  ⟨nofun, nofun, .nil⟩

/-- Any number of times the same place. -/
theorem constant {origin : Origin} (same : ∀ place ∈ places, place = origin) :
    InOrder origin.file origin.line origin.line places where
  file place mem := by rw [same place mem]
  within place mem := by
    rw [same place mem]
    exact ⟨Nat.le_refl _, Nat.le_refl _⟩
  sorted := by
    induction places with
    | nil => exact .nil
    | cons place rest ih =>
      have rest_same : ∀ other ∈ rest, other = origin :=
        fun other mem => same other (List.mem_cons_of_mem _ mem)
      refine List.pairwise_cons.mpr ⟨fun other mem => ?_, ih rest_same⟩
      have level : place.line = other.line := by
        rw [same place (List.mem_cons_self ..), rest_same other mem]
      exact Nat.le_of_eq level

/-- The two lines may be further apart. -/
theorem widen (ordered : InOrder file first last places) (below : first' ≤ first)
    (above : last ≤ last') : InOrder file first' last' places where
  file := ordered.file
  within place mem := by
    have := ordered.within place mem
    omega
  sorted := ordered.sorted

/-- What comes after in the list stands after in the file. -/
theorem append (ordered : InOrder file first last places)
    (after : InOrder file first' last' more) (le : last ≤ first') (start : first ≤ first')
    (finish : last ≤ last') : InOrder file first last' (places ++ more) where
  file place mem := by
    rcases List.mem_append.mp mem with mem | mem
    · exact ordered.file place mem
    · exact after.file place mem
  within place mem := by
    rcases List.mem_append.mp mem with mem | mem
    · have := ordered.within place mem
      omega
    · have := after.within place mem
      omega
  sorted := by
    refine List.pairwise_append.mpr ⟨ordered.sorted, after.sorted, fun place mem other mem' => ?_⟩
    have := ordered.within place mem
    have := after.within other mem'
    omega

end InOrder

/-! ## Documents -/

namespace Document

/-- The places of all nodes, in the order of their numbers. -/
def places (doc : Document) : List Origin := doc.nodes.map (·.origin)

/-- Nodes have been added, all of them at one place. -/
def Puts (origin : Origin) (doc after : Document) : Prop :=
  ∃ added, after.places = doc.places ++ added ∧ ∀ place ∈ added, place = origin

/-- A new root is the last node. -/
theorem places_addRoot (doc : Document) (node : Node) :
    (doc.addRoot node).places = doc.places ++ [node.origin] := by
  simp [places, addRoot, fresh]

/-- Changes that leave the places of all nodes alone. -/
theorem places_modify (nodes : List Node) (id : Nat) {f : Node → Node}
    (kept : ∀ node, (f node).origin = node.origin) :
    (nodes.modify id f).map (·.origin) = nodes.map (·.origin) := by
  refine List.ext_getElem? fun i => ?_
  rw [List.getElem?_map, List.getElem?_map, List.getElem?_modify]
  cases nodes[i]? with
  | none => rfl
  | some node =>
    simp only [Option.map_eq_map, Option.map_some, Option.some.injEq]
    split
    · exact kept node
    · rfl

/-- A change of kind leaves all places alone. -/
theorem places_mapKind (doc : Document) (id : Nat) (f : NodeKind → NodeKind) :
    (doc.mapKind id f).places = doc.places :=
  places_modify doc.nodes id fun _ => rfl

/-- A new child is the last node too; without a parent to take it nothing is added. -/
theorem places_addChild (doc : Document) (parent : Nat) (node : Node) :
    (doc.addChild parent node).places
      = doc.places ++ if parent < doc.size then [node.origin] else [] := by
  by_cases inside : parent < doc.size
  · rw [addChild, dif_pos inside, if_pos inside]
    show ((doc.nodes ++ [fresh node (some parent)]).modify parent (adopt doc.size)).map (·.origin)
      = doc.nodes.map (·.origin) ++ [node.origin]
    have kept : ∀ old : Node, (adopt doc.size old).origin = old.origin := fun _ => rfl
    rw [places_modify _ _ kept, List.map_append]
    rfl
  · rw [addChild, dif_neg inside, if_neg inside, List.append_nil]

namespace Puts

variable {origin : Origin} {doc mid after : Document} {node : Node}

theorem refl (origin : Origin) (doc : Document) : doc.Puts origin doc :=
  ⟨[], (List.append_nil _).symm, nofun⟩

/-- Nodes at one place, and then more of them there. -/
theorem trans (first : doc.Puts origin mid) (second : mid.Puts origin after) :
    doc.Puts origin after := by
  obtain ⟨added, places, same⟩ := first
  obtain ⟨added', places', same'⟩ := second
  refine ⟨added ++ added', by rw [places', places, List.append_assoc], fun place mem => ?_⟩
  rcases List.mem_append.mp mem with mem | mem
  · exact same place mem
  · exact same' place mem

/-- A root is added at its place. -/
theorem addRoot (doc : Document) (at_ : node.origin = origin) :
    doc.Puts origin (doc.addRoot node) := by
  refine ⟨[node.origin], places_addRoot doc node, fun place mem => ?_⟩
  rw [List.mem_singleton.mp mem, at_]

/-- A child is added at its place, or not at all. -/
theorem addChild (doc : Document) (parent : Nat) (at_ : node.origin = origin) :
    doc.Puts origin (doc.addChild parent node) := by
  refine ⟨_, places_addChild doc parent node, fun place mem => ?_⟩
  split at mem
  · rw [List.mem_singleton.mp mem, at_]
  · cases mem

/-- A change of kind adds nothing. -/
theorem mapKind (origin : Origin) (doc : Document) (id : Nat) (f : NodeKind → NodeKind) :
    doc.Puts origin (doc.mapKind id f) :=
  ⟨[], by rw [places_mapKind, List.append_nil], nofun⟩

end Puts

end Document

/-! ## Handlers -/

namespace Walk

/-- The new nodes stand at the header or at one of the `n` lines after it, in order, and the log has
    got warnings at the header at most. -/
structure Lays (origin : Origin) (n : Nat) (w after : Walk) : Prop where
  nodes : ∃ places, after.document.places = w.document.places ++ places
    ∧ InOrder origin.file origin.line (origin.line + n) places
  log : ∃ warnings, after.log.entries = w.log.entries ++ warnings
    ∧ ∀ entry ∈ warnings, entry.origin = origin ∧ entry.isFailure = false

variable {origin : Origin} {n m : Nat} {w mid after : Walk} {block : Block}

namespace Lays

/-- Nodes at the header, and nothing in the log. -/
theorem of_puts (puts : w.document.Puts origin after.document) (log : after.log = w.log) :
    Lays origin 0 w after where
  nodes := by
    obtain ⟨places, added, same⟩ := puts
    exact ⟨places, added, InOrder.constant same⟩
  log := ⟨[], by rw [log, List.append_nil], nofun⟩

theorem refl (origin : Origin) (w : Walk) : Lays origin 0 w w := .of_puts (.refl _ _) rfl

theorem widen (lays : Lays origin n w after) (le : n ≤ m) : Lays origin m w after where
  nodes := by
    obtain ⟨places, added, ordered⟩ := lays.nodes
    exact ⟨places, added, ordered.widen (Nat.le_refl _) (by omega)⟩
  log := lays.log

/-- First what stands at the header, then the rest. -/
theorem trans (first : Lays origin 0 w mid) (second : Lays origin n mid after) :
    Lays origin n w after where
  nodes := by
    obtain ⟨places, added, ordered⟩ := first.nodes
    obtain ⟨places', added', ordered'⟩ := second.nodes
    refine ⟨places ++ places', by rw [added', added, List.append_assoc], ?_⟩
    exact ordered.append ordered' (Nat.le_refl _) (Nat.le_refl _) (by omega)
  log := by
    obtain ⟨warnings, added, mild⟩ := first.log
    obtain ⟨warnings', added', mild'⟩ := second.log
    refine ⟨warnings ++ warnings', by rw [added', added, List.append_assoc], fun entry mem => ?_⟩
    rcases List.mem_append.mp mem with mem | mem
    · exact mild entry mem
    · exact mild' entry mem

end Lays

/-- A File is made up at the header that needs it. -/
theorem ensureFile_lays (w : Walk) (origin : Origin) :
    Lays origin 0 w (w.ensureFile origin).1 := by
  unfold ensureFile
  split
  · exact .refl origin w
  · exact .of_puts (.addRoot _ rfl) rfl

/-- A File stands at its header. -/
theorem openFile_lays (w : Walk) (block : Block) : Lays block.origin 0 w (w.openFile block).1 := by
  unfold openFile
  split
  · exact .refl block.origin w
  · exact .of_puts (.addRoot _ rfl) rfl

/-- A section stands at its header, behind a File that was made up for it. -/
theorem openSect_lays (w : Walk) (block : Block) : Lays block.origin 0 w (w.openSect block).1 :=
  (ensureFile_lays w block.origin).trans (.of_puts (.addChild _ _ rfl) rfl)

theorem openSubsect_lays (w : Walk) (block : Block) :
    Lays block.origin 0 w (w.openSubsect block).1 := by
  unfold openSubsect
  split
  · exact .refl block.origin w
  · split
    · exact .refl block.origin w
    · exact .of_puts (.addChild _ _ rfl) rfl

/-- What an item needs is made up at its header: a File, then a section. -/
theorem prepareItem_lays (w : Walk) (origin : Origin) :
    Lays origin 0 w (w.prepareItem origin).1 := by
  refine (ensureFile_lays w origin).trans ?_
  simp only [prepareItem, ensureSect]
  split
  · exact .of_puts (.refl _ _) rfl
  · exact .of_puts (.addChild _ _ rfl) rfl

/-- An item stands at its header; where its body is cut is no matter. -/
theorem addItem_lays (w : Walk) (container : Nat) (block : Block) :
    Lays block.origin 0 w (w.addItem container block) :=
  .of_puts (.addChild _ _ rfl) rfl

/-- Footnotes are warned of at the header, one entry for each. -/
theorem warnFootnotes_lays (w : Walk) (block : Block) :
    Lays block.origin 0 w (w.warnFootnotes block) := by
  unfold warnFootnotes
  generalize bareFootnotes (footnoteParts block.subtitle) = bare
  induction bare generalizing w with
  | nil => exact .refl block.origin w
  | cons part rest ih =>
    let warned : Walk :=
      { w with log := w.log.warn block.origin (footnoteWarning part block.title) }
    have one : Lays block.origin 0 w warned := by
      refine ⟨⟨[], (List.append_nil _).symm, .nil ..⟩, [_], Log.entries_warn .., ?_⟩
      intro entry mem
      rw [List.mem_singleton.mp mem]
      exact ⟨rfl, rfl⟩
    exact one.trans (ih warned)

/-- Information on a File adds at most the File, after the warnings. -/
theorem describeFile_lays (w : Walk) (field : FileField) (block : Block) :
    Lays block.origin 0 w (w.describeFile field block).1 := by
  unfold describeFile
  split
  · exact .refl block.origin w
  · have warned : Lays block.origin 0 w
        (if field = .footnotes then w.warnFootnotes block else w) := by
      split
      · exact warnFootnotes_lays w block
      · exact .refl block.origin w
    exact (warned.trans (ensureFile_lays _ block.origin)).trans
      (.of_puts (.mapKind _ _ _ _) rfl)

/-! ## Leaves -/

theorem addImage_lays (w : Walk) (kind : LeafKind) (block : Block) :
    Lays block.origin 0 w (w.addImage kind block).1 := by
  unfold addImage
  split
  · exact .refl block.origin w
  · exact .of_puts (.addChild _ _ rfl) rfl

/-- The images of a plural block stand at the lines of its body, one after the other. -/
theorem imageNodes_inOrder (title : String) (kind : LeafKind) (block : Block) :
    InOrder block.origin.file block.origin.line (block.origin.line + block.body.length)
      ((imageNodes title kind block).map (·.origin)) := by
  have places : (imageNodes title kind block).map (·.origin)
      = (List.range block.body.length).map fun k =>
          (⟨block.origin.file, block.origin.line + k + 1⟩ : Origin) := by
    refine List.ext_getElem (by simp [imageNodes]) fun k lt lt' => ?_
    simp [imageNodes]
  rw [places]
  refine ⟨fun place mem => ?_, fun place mem => ?_, ?_⟩
  · obtain ⟨k, -, rfl⟩ := List.mem_map.mp mem
    rfl
  · obtain ⟨k, below, rfl⟩ := List.mem_map.mp mem
    have := List.mem_range.mp below
    show block.origin.line ≤ block.origin.line + k + 1
      ∧ block.origin.line + k + 1 ≤ block.origin.line + block.body.length
    omega
  · rw [List.pairwise_map]
    refine List.Pairwise.imp (fun {a b} lt => ?_) List.pairwise_lt_range
    show block.origin.line + a + 1 ≤ block.origin.line + b + 1
    omega

/-- Nodes that are added one after the other stand in the document one after the other; none of
    them does where there is no parent to take them. -/
theorem places_foldl_addChild (doc : Document) (parent : Nat) (nodes : List Node) :
    (nodes.foldl (·.addChild parent ·) doc).places
      = doc.places ++ if parent < doc.size then nodes.map (·.origin) else [] := by
  induction nodes generalizing doc with
  | nil => simp
  | cons node rest ih =>
    rw [List.foldl_cons, ih, Document.places_addChild]
    by_cases inside : parent < doc.size
    · have still : parent < (doc.addChild parent node).size := by
        rw [Document.size_addChild doc inside]
        omega
      rw [if_pos inside, if_pos still, if_pos inside, List.append_assoc]
      rfl
    · have still : ¬ parent < (doc.addChild parent node).size := by
        rwa [Document.addChild, dif_neg inside]
      rw [if_neg inside, if_neg still, if_neg inside, List.append_nil]

/-- **Plural images** stand at the lines of the body: nothing else goes further than the header. -/
theorem addImages_lays (w : Walk) (title : String) (kind : LeafKind) (block : Block) :
    Lays block.origin block.body.length w (w.addImages title kind block).1 := by
  unfold addImages
  split
  · exact (Lays.refl block.origin w).widen (Nat.zero_le _)
  · rename_i item opened
    refine ⟨⟨_, places_foldl_addChild w.document item _, ?_⟩,
      [], (List.append_nil _).symm, nofun⟩
    split
    · exact imageNodes_inOrder title kind block
    · exact .nil ..

theorem addWordList_lays (w : Walk) (list : WordList) (block : Block) :
    Lays block.origin 0 w (w.addWordList list block).1 := by
  unfold addWordList
  split
  · exact .refl block.origin w
  · exact .of_puts (.trans (.addChild _ _ rfl) (.mapKind _ _ _ _)) rfl

/-- A File is made up where a rule asks for no parent and none is open. -/
theorem placeFor_lays (w : Walk) (rule : Rule) (origin : Origin) :
    Lays origin 0 w (w.placeFor rule origin).1 := by
  unfold placeFor
  split
  · exact .refl origin w
  · exact .refl origin w
  · exact ensureFile_lays w origin
  · exact .refl origin w

/-- A hook adds no node and no entry. -/
theorem runHook_lays (w : Walk) (hook : Option Hook) (parent : Nat) (block : Block)
    (aliases : List String) : Lays origin 0 w (w.runHook hook parent block aliases) := by
  unfold runHook
  split
  · exact .refl origin w
  · exact .of_puts (.mapKind _ _ _ _) rfl
  · induction aliases generalizing w with
    | nil => exact .refl origin w
    | cons name rest ih =>
      refine Lays.trans ?_ (ih _)
      unfold addAlias
      split
      · exact .refl origin w
      · exact .of_puts (.mapKind _ _ _ _) rfl

/-- A block with a rule stands at its header, behind what was made up for it. -/
theorem addRegistered_lays (w : Walk) (rule : Rule) (block : Block) :
    Lays block.origin 0 w (w.addRegistered rule block).1 := by
  have placed := placeFor_lays w rule block.origin
  unfold addRegistered
  generalize w.placeFor rule block.origin = place at placed
  obtain ⟨w', parent⟩ := place
  cases parent with
  | none => exact placed
  | some parent =>
    simp only
    split
    · exact placed
    · rename_i shapedBlock shape
      have origin : shapedBlock.origin = block.origin := by
        rcases shaped_eq_ok shape with rfl | rfl <;> rfl
      split
      · exact placed
      · have added : Lays block.origin 0 w'
            { w' with document := w'.document.addChild parent (shapedBlock.node (.leaf rule.kind)) } :=
          .of_puts (.addChild _ _ origin) rfl
        exact (placed.trans added).trans (runHook_lays _ _ _ _ _)

/-- **A leaf** stands at its header or, if it is a plural block of images, at the lines of its
    body. -/
theorem addLeaf_lays (w : Walk) (block : Block) :
    Lays block.origin block.body.length w (w.addLeaf block).1 := by
  unfold addLeaf
  split
  · exact (addImage_lays w _ block).widen (Nat.zero_le _)
  · exact addImages_lays w _ _ block
  · split
    · exact (addRegistered_lays w _ block).widen (Nat.zero_le _)
    · split
      · exact (addWordList_lays w _ block).widen (Nat.zero_le _)
      · exact (Lays.refl block.origin w).widen (Nat.zero_le _)

/-! ## Directives -/

/-- A definition adds nothing and logs nothing, and no more does a directive. -/
theorem define_lays (w : Walk) (block : Block) : Lays block.origin 0 w (w.define block).1 := by
  unfold define
  split
  · exact .refl block.origin w
  · split
    · exact .refl block.origin w
    · exact .of_puts (.refl _ _) rfl

theorem configure_lays (w : Walk) (directive : Directive) (block : Block) :
    Lays block.origin 0 w (w.configure directive block).1 := by
  unfold configure
  split
  · exact .refl block.origin w
  · split
    · exact .refl block.origin w
    · exact .of_puts (.refl _ _) rfl

end Walk

end DocComments
