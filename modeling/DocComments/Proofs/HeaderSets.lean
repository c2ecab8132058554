/-
  Header sets, from their text to the tables in the document.

  Cells are joined with `|` and header sets with `||`, so the one separator is the beginning of the
  other.  They cannot be mistaken for each other as long as no cell is empty: then no two bars stand
  side by side within a set, nor does a set end with one (`Unpaired`), and the first pair of bars
  from the left is the end of the first set (`piecesAtPair_append`).  In the other direction nothing
  is asked of a text: it always gives at least one set, and each set at least one column.  Tables
  have their header sets from such a text, or they are those of the arguments
  (`LeafKind.Made.columns`).

    * `cut_joinWith`             a text is cut where it was joined, at one bar as at two;
    * `headerSetsOf_write`       what is written in cells is read back;
    * `header_sets_round_trip`   both directions, for texts and for tables.
-/
import Mathlib.Data.List.Chain
import DocComments.Proofs.Edits

namespace DocComments

/-! ## Texts cut where they were joined -/

namespace Text

variable {sep : Char}

theorem joinWith_eq_intercalate (sep : List Char) (texts : List (List Char)) :
    joinWith sep texts = sep.intercalate texts := by
  induction texts with
  | nil => rfl
  | cons text rest ih =>
    cases rest with
    | nil => simp [joinWith, List.intercalate]
    | cons next rest =>
      rw [joinWith_cons_of_ne_nil _ _ (List.cons_ne_nil next rest), ih]
      simp [List.intercalate]

/-- **A joined text is cut into its parts again** if the cut ends the first part at the separator
    after it, and leaves a part alone that nothing follows. -/
theorem cut_joinWith {cut : List Char → List (List Char)} {sep : List Char}
    {texts : List (List Char)} (given : texts ≠ []) (alone : ∀ text ∈ texts, cut text = [text])
    (first : ∀ text ∈ texts, ∀ rest, cut (text ++ sep ++ rest) = text :: cut rest) :
    cut (joinWith sep texts) = texts := by
  induction texts with
  | nil => exact absurd rfl given
  | cons text rest ih =>
    cases rest with
    | nil => exact alone text (List.mem_singleton.mpr rfl)
    | cons next rest =>
      have more : next :: rest ≠ [] := List.cons_ne_nil next rest
      rw [joinWith_cons_of_ne_nil _ _ more, first text (List.mem_cons_self ..)]
      congr 1
      exact ih more (fun other mem => alone other (List.mem_cons_of_mem _ mem))
        fun other mem => first other (List.mem_cons_of_mem _ mem)

/-! ### At one character -/

theorem pieces_joinWith {texts : List (List Char)} (given : texts ≠ [])
    (free : ∀ text ∈ texts, sep ∉ text) : pieces sep (joinWith [sep] texts) = texts := by
  refine cut_joinWith given (fun text mem => pieces_of_not_mem (free text mem)) ?_
  intro text mem rest
  rw [List.append_assoc]
  exact pieces_append_of_not_mem (free text mem) rest

/-! ### At a doubled character -/

/-- No two separators stand side by side, not even if one more follows the text. -/
def Unpaired (sep : Char) (cs : List Char) : Prop :=
  (cs ++ [sep]).IsChain fun c d => ¬ (c = sep ∧ d = sep)

theorem unpaired_nil (sep : Char) : Unpaired sep [] := .singleton sep

/-- A character with which no pair begins joins the first piece. -/
theorem piecesAtPair_cons {c : Char} {cs : List Char}
    (noPair : ∀ d ∈ cs.head?, ¬ (c = sep ∧ d = sep)) :
    piecesAtPair sep (c :: cs) = consFirst c (piecesAtPair sep cs) := by
  cases cs with
  | nil => rfl
  | cons d cs => rw [piecesAtPair, if_neg (noPair d rfl)]

theorem Unpaired.of_cons {c : Char} {cs : List Char} (unpaired : Unpaired sep (c :: cs)) :
    (∀ d ∈ (cs ++ [sep]).head?, ¬ (c = sep ∧ d = sep)) ∧ Unpaired sep cs :=
  List.isChain_cons.mp unpaired

/-- **The first pair from the left ends the first part.** -/
theorem piecesAtPair_append {front : List Char} (unpaired : Unpaired sep front) (rest : List Char) :
    piecesAtPair sep (front ++ sep :: sep :: rest) = front :: piecesAtPair sep rest := by
  induction front with
  | nil => rw [List.nil_append, piecesAtPair, if_pos ⟨rfl, rfl⟩]
  | cons c front ih =>
    obtain ⟨noPair, unpaired⟩ := unpaired.of_cons
    have head : (front ++ sep :: sep :: rest).head? = (front ++ [sep]).head? := by
      cases front <;> rfl
    rw [List.cons_append, piecesAtPair_cons (by rwa [head]), ih unpaired]
    rfl

theorem piecesAtPair_of_unpaired {cs : List Char} (unpaired : Unpaired sep cs) :
    piecesAtPair sep cs = [cs] := by
  induction cs with
  | nil => rfl
  | cons c cs ih =>
    obtain ⟨noPair, unpaired⟩ := unpaired.of_cons
    have head : ∀ d ∈ cs.head?, d ∈ (cs ++ [sep]).head? := by
      cases cs with
      | nil => nofun
      | cons d cs => exact fun _ mem => mem
    rw [piecesAtPair_cons fun d mem => noPair d (head d mem), ih unpaired]
    rfl

theorem piecesAtPair_joinWith {texts : List (List Char)} (given : texts ≠ [])
    (unpaired : ∀ text ∈ texts, Unpaired sep text) :
    piecesAtPair sep (joinWith [sep, sep] texts) = texts := by
  refine cut_joinWith given (fun text mem => piecesAtPair_of_unpaired (unpaired text mem)) ?_
  intro text mem rest
  rw [List.append_assoc]
  exact piecesAtPair_append (unpaired text mem) rest

/-- A text with no separator in it, and something after which none stands. -/
theorem Unpaired.append {front cs : List Char} (filled : front ≠ []) (free : sep ∉ front)
    (rest : Unpaired sep cs) : Unpaired sep (front ++ cs) := by
  induction front with
  | nil => exact absurd rfl filled
  | cons c front ih =>
    have ne : c ≠ sep := (List.ne_of_not_mem_cons free).symm
    have tail : Unpaired sep (front ++ cs) := by
      cases front with
      | nil => exact rest
      | cons d front => exact ih (List.cons_ne_nil d front) (List.not_mem_of_not_mem_cons free)
    exact List.isChain_cons.mpr ⟨fun d _ both => ne both.1, tail⟩

/-- **Joined with single separators, filled parts hold no pair.** -/
theorem unpaired_joinWith {texts : List (List Char)} (filled : ∀ text ∈ texts, text ≠ [])
    (free : ∀ text ∈ texts, sep ∉ text) : Unpaired sep (joinWith [sep] texts) := by
  induction texts with
  | nil => exact unpaired_nil sep
  | cons text rest ih =>
    have own := filled text (List.mem_cons_self ..)
    have ownFree := free text (List.mem_cons_self ..)
    have others := ih (fun other mem => filled other (List.mem_cons_of_mem _ mem))
      fun other mem => free other (List.mem_cons_of_mem _ mem)
    cases rest with
    | nil =>
      rw [joinWith, ← text.append_nil]
      exact .append own ownFree (unpaired_nil sep)
    | cons next rest =>
      -- the separator between the two is followed by the next part, which does not begin with one
      obtain ⟨c, cs, rfl⟩ := List.exists_cons_of_ne_nil
        (filled next (List.mem_cons_of_mem _ (List.mem_cons_self ..)))
      have ne : c ≠ sep := by
        rintro rfl
        exact free _ (List.mem_cons_of_mem _ (List.mem_cons_self ..)) (List.mem_cons_self ..)
      obtain ⟨tail, begins⟩ : ∃ tail, joinWith [sep] ((c :: cs) :: rest) = c :: tail := by
        cases rest with
        | nil => exact ⟨cs, rfl⟩
        | cons other rest => exact ⟨_, rfl⟩
      rw [joinWith_cons_of_ne_nil _ _ (List.cons_ne_nil _ _), List.append_assoc]
      refine .append own ownFree ?_
      rw [begins] at others ⊢
      refine List.isChain_cons.mpr ⟨?_, others⟩
      rintro _ ⟨⟩ both
      exact ne both.2

end Text

/-! ## Header sets -/

/-- The text can stand as a cell: it is not empty, has no blanks around it and holds no bar. -/
structure IsCell (cell : String) : Prop where
  filled : cell ≠ ""
  trimmed : Text.strip cell = cell
  free : '|' ∉ cell.toList

/-- Header sets as a text. -/
def writeHeaderSets (sets : List (List String)) : String :=
  "||".intercalate (sets.map ("|".intercalate ·))

/-- **Header sets are read as they are written.** -/
theorem headerSetsOf_write {sets : List (List String)} (given : sets ≠ [])
    (columns : ∀ set ∈ sets, set ≠ []) (cells : ∀ set ∈ sets, ∀ cell ∈ set, IsCell cell) :
    headerSetsOf (writeHeaderSets sets) = sets := by
  have free : ∀ set ∈ sets, ∀ text ∈ set.map String.toList, '|' ∉ text := by
    intro set mem text isText
    obtain ⟨cell, inside, rfl⟩ := List.mem_map.mp isText
    exact (cells set mem cell inside).free
  have filled : ∀ set ∈ sets, ∀ text ∈ set.map String.toList, text ≠ [] := by
    intro set mem text isText
    obtain ⟨cell, inside, rfl⟩ := List.mem_map.mp isText
    simpa using (cells set mem cell inside).filled
  have written : (writeHeaderSets sets).toList
      = Text.joinWith ['|', '|']
          (sets.map fun set => Text.joinWith ['|'] (set.map String.toList)) := by
    simp [writeHeaderSets, Text.joinWith_eq_intercalate, Function.comp_def]
  have atPairs : Text.piecesAtPair '|' (writeHeaderSets sets).toList
      = sets.map fun set => Text.joinWith ['|'] (set.map String.toList) := by
    rw [written]
    refine Text.piecesAtPair_joinWith (by simpa using given) fun text mem => ?_
    obtain ⟨set, inside, rfl⟩ := List.mem_map.mp mem
    exact Text.unpaired_joinWith (filled set inside) (free set inside)
  have read : ∀ set ∈ sets,
      (Text.pieces '|' (Text.joinWith ['|'] (set.map String.toList))).map
        (fun heading => String.ofList (Text.trim heading)) = set := by
    intro set mem
    rw [Text.pieces_joinWith (by simpa using columns set mem) (free set mem), List.map_map]
    refine (List.map_congr_left fun cell inside => ?_).trans (List.map_id set)
    exact (cells set mem cell inside).trimmed
  rw [headerSetsOf, atPairs, List.map_map]
  exact (List.map_congr_left read).trans (List.map_id sets)

/-! ## Texts and tables -/

/-- **Header sets are read as written, and tables have them.**  Take any header sets, at least one
    and each with at least one cell, of cells that are not empty, have no blanks around them and
    hold no bar: joined with `|`, and the sets with `||`, they are read back.  Any text at all gives
    at least one header set, each with at least one column, and so has every table of every
    session. -/
theorem header_sets_round_trip :
    (∀ sets : List (List String), sets ≠ [] → (∀ set ∈ sets, set ≠ []) →
        (∀ set ∈ sets, ∀ cell ∈ set, IsCell cell) →
          headerSetsOf (writeHeaderSets sets) = sets)
      ∧ (∀ text, headerSetsOf text ≠ [] ∧ ∀ set ∈ headerSetsOf text, set ≠ [])
      ∧ ∀ s : Session, s.Reachable → ∀ id node sets, s.document.node? id = some node →
          node.headerSets? = some sets → sets ≠ [] ∧ ∀ set ∈ sets, set ≠ [] := by
  refine ⟨fun sets given columns cells => headerSetsOf_write given columns cells,
    fun text => ⟨headerSetsOf_ne_nil text, fun set mem => columns_ne_nil mem⟩, ?_⟩
  intro s reached id node sets found given
  have leaf : node.kind = .leaf (.table sets) := by
    unfold Node.headerSets? at given
    split at given
    · rename_i sets' kind
      rw [kind, Option.some.inj given]
    · cases given
  exact (reached.made.leaves id node _ found leaf).columns

/-- Two sets of different length, and a table whose header text is bars alone. -/
theorem header_sets_round_trip_bars :
    headerSetsOf "a|b c||d" = [["a", "b c"], ["d"]]
      ∧ ∃ node, ((Session.start {}).after [.readLines
            ["// DefineHeader(Table;Headers=|||): Grid", "// Grid: g"] "a"]).document.node? 1
          = some node
        ∧ node.headerSets? = some [[""], ["", ""]]
        ∧ ∀ set ∈ [[""], ["", ""]], set ≠ [] := by
  have cell : ∀ cell ∈ ["a", "b c", "d"], IsCell cell := by
    intro cell mem
    simp only [List.mem_cons, List.not_mem_nil, or_false] at mem
    rcases mem with rfl | rfl | rfl
    all_goals exact ⟨by decide, by decide +kernel, by decide +kernel⟩
  have read := header_sets_round_trip.1 [["a", "b c"], ["d"]] (by decide) (by decide) (by
    intro set mem text inside
    exact cell text (List.mem_flatten.mpr ⟨set, mem, inside⟩))
  have written : writeHeaderSets [["a", "b c"], ["d"]] = "a|b c||d" := by decide +kernel
  rw [written] at read
  refine ⟨read, ?_⟩
  have reached : ((Session.start {}).after [.readLines
      ["// DefineHeader(Table;Headers=|||): Grid", "// Grid: g"] "a"]).Reachable :=
    (Session.reachable_start {}).after _
  have there : (((Session.start {}).after [.readLines
      ["// DefineHeader(Table;Headers=|||): Grid", "// Grid: g"] "a"]).document.node? 1).bind
        Node.headerSets? = some [[""], ["", ""]] := by decide +kernel
  obtain ⟨node, found, given⟩ := Option.bind_eq_some_iff.mp there
  exact ⟨node, found, given, (header_sets_round_trip.2.2 _ reached 1 node _ found given).2⟩

end DocComments
