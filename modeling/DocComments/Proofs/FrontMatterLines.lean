/-
  Fixtures, line by line.

  A fixture is written in lines: a fence, the settings, a fence again, and then the source.  The
  reader does not see lines.  It cuts the text at the first line feed that three dashes follow, and
  what it cuts off has its line ends stripped with rules of their own at each of the seams.  The crux
  is `cutAt_fence`: cut like this, the lines of a text fall apart at the first line AFTER ITS FIRST
  LINE that starts with the fence.

  So the settings and the source come out as they were written when there is at least one line of
  settings, whatever the line ends are and whatever the source holds (`split_document`).  When there
  is none, the first line of the text that is searched is the closing fence itself: it is passed
  over, and the search goes on into the source.  There it finds nothing, or settings that begin with
  a fence, which no reader of settings accepts.

  Of the reader of settings no more is asked than that, and that no settings at all are good ones
  (`SettingsReader.Lawful`).  The reader of TOML is one such reader (`ofToml_lawful`).

    * `cutAt_fence`, `cutAt_noFence`     the cut, in lines;
    * `settings_between_fences`          every fixture that is written in lines, read;
    * `empty_settings_never_close`       one without settings, which is refused.
-/
import Mathlib.Data.List.Basic
import DocComments.Fixture

namespace DocComments

/-! ## A fence is no setting -/

/-- The text goes on with the end of a line, or not at all. -/
def FrontMatter.AtLineEnd (cs : List Char) : Prop := ∀ c ∈ cs.head?, c = '\n' ∨ c = '\r'

namespace Toml

open FrontMatter (fence AtLineEnd)

variable {rest : List Char}

/-- No value follows where a line ends. -/
theorem after_eq_none (ends : AtLineEnd rest) : after '=' rest = none := by
  cases rest with
  | nil => rfl
  | cons c rest =>
    rcases ends c rfl with rfl | rfl
    · rfl
    · rfl

/-- Dashes are characters of a key, so that a fence is one. -/
theorem key_fence (ends : AtLineEnd rest) : key (fence ++ rest) = some (["---"], rest) := by
  cases rest with
  | nil => decide
  | cons c rest =>
    rcases ends c rfl with rfl | rfl
    · rfl
    · rfl

/-- **No settings begin with the line of a fence:** it is a key without a value. -/
theorem read?_fence (ends : AtLineEnd rest) : read? (String.ofList (fence ++ rest)) = none := by
  have unpaired : pair (value maxDepth) (fence ++ rest) = none := by
    rw [pair, key_fence ends]
    show (after '=' rest).bind _ = _
    rw [after_eq_none ends]
    rfl
  have unread : line (fence ++ rest) = none := by
    show (pair (value maxDepth) (fence ++ rest)).bind _ = none
    rw [unpaired]
    rfl
  have noLines : documentLines (fence ++ rest) = none := by
    rw [documentLines]
    show (line (fence ++ rest)).bind _ = none
    rw [unread]
    rfl
  rw [read?, String.toList_ofList]
  show (documentLines (fence ++ rest)).bind _ = none
  rw [noLines]
  rfl

end Toml

namespace FrontMatter

/-! ## Lines as they are written -/

/-- The end of a line: a line feed, with or without a carriage return before it. -/
inductive LineEnd where
  | feed
  | returnFeed
deriving Repr, DecidableEq

/-- The carriage return of a line end. -/
def LineEnd.returns : LineEnd → List Char
  | feed => []
  | returnFeed => ['\r']

/-- A line end as it is written. -/
def LineEnd.text (stop : LineEnd) : List Char := stop.returns ++ ['\n']

/-- Lines as they are written, each with its end. -/
def written (lines : List (List Char × LineEnd)) : List Char :=
  lines.flatMap fun line => line.1 ++ line.2.text

/-- The text of lines up to the end of the last one. -/
def textOf : List (List Char × LineEnd) → List Char
  | [] => []
  | [line] => line.1
  | line :: rest => line.1 ++ line.2.text ++ textOf rest

/-- A fixture as it is written: byte-order marks, a fence, the settings, a fence, the source. -/
def document (marks : Nat) (opening : LineEnd) (settings : List (List Char × LineEnd))
    (closing : LineEnd) (source : List Char) : List Char :=
  List.replicate marks '\ufeff' ++ fence ++ opening.text ++ written settings
    ++ fence ++ closing.text ++ source

/-- A text that can be one line of settings. -/
def IsSettingsLine (line : List Char) : Prop := '\n' ∉ line ∧ ¬ fence <+: line

/-- Some line of a text starts with the fence. -/
def hasFence (cs : List Char) : Bool := (Text.pieces '\n' cs).any (Text.startsWith fence)

/-! ## The cut, in lines -/

/-- Text before the first line feed is passed over. -/
theorem cutAt_free {line : List Char} (free : '\n' ∉ line) (cs : List Char) :
    Text.cutAt ('\n' :: fence) (line ++ cs)
      = (Text.cutAt ('\n' :: fence) cs).map fun (front, rest) => (line ++ front, rest) := by
  induction line with
  | nil => simp
  | cons c line ih =>
    have ne : c ≠ '\n' := (List.ne_of_not_mem_cons free).symm
    have off : Text.startsWith ('\n' :: fence) (c :: (line ++ cs)) = false := by
      simp [Text.startsWith, List.isPrefixOf, Ne.symm ne]
    rw [List.cons_append, Text.cutAt, off, ih (List.not_mem_of_not_mem_cons free), Option.map_map]
    rfl

/-- A line feed is cut at exactly if the fence follows. -/
theorem cutAt_feed (cs : List Char) :
    Text.cutAt ('\n' :: fence) ('\n' :: cs)
      = if Text.startsWith fence cs then some ([], cs.drop fence.length)
        else (Text.cutAt ('\n' :: fence) cs).map fun (front, rest) => ('\n' :: front, rest) := by
  rw [Text.cutAt]
  rfl

/-- A fence does not reach over a character that is not in it. -/
theorem startsWith_fence_append {c : Char} (other : c ≠ '-') (line rest : List Char) :
    Text.startsWith fence (line ++ c :: rest) = Text.startsWith fence line := by
  match line with
  | [] => simp [Text.startsWith, fence, List.isPrefixOf, other.symm]
  | [a] => simp [Text.startsWith, fence, List.isPrefixOf, other.symm]
  | [a, b] => simp [Text.startsWith, fence, List.isPrefixOf, other.symm]
  | a :: b :: d :: line => simp [Text.startsWith, fence, List.isPrefixOf]

/-- Nor over the end of a line. -/
theorem startsWith_fence_joinWith {line : List Char} (rest : List (List Char)) :
    Text.startsWith fence (Text.joinWith ['\n'] (line :: rest)) = Text.startsWith fence line := by
  cases rest with
  | nil => rfl
  | cons next rest =>
    rw [Text.joinWith_cons_of_ne_nil _ _ (List.cons_ne_nil next rest), List.append_assoc]
    exact startsWith_fence_append (by decide) line _

/-- The cut at the end of a first line that others follow. -/
theorem cutAt_line {first : List Char} (free : '\n' ∉ first) (next : List Char)
    (rest : List (List Char)) :
    Text.cutAt ('\n' :: fence) (Text.joinWith ['\n'] (first :: next :: rest))
      = if Text.startsWith fence next then
          some (first, (Text.joinWith ['\n'] (next :: rest)).drop fence.length)
        else (Text.cutAt ('\n' :: fence) (Text.joinWith ['\n'] (next :: rest))).map
          fun (front, rest) => (first ++ '\n' :: front, rest) := by
  have more : next :: rest ≠ [] := List.cons_ne_nil next rest
  rw [Text.joinWith_cons_of_ne_nil _ _ more, List.append_assoc, List.singleton_append,
    cutAt_free free, cutAt_feed, startsWith_fence_joinWith]
  split
  · simp
  · rw [Option.map_map]
    rfl

theorem joinWith_append_cons (sep lead line : List Char) (rest : List (List Char)) :
    Text.joinWith sep ((lead ++ line) :: rest) = lead ++ Text.joinWith sep (line :: rest) := by
  cases rest with
  | nil => rfl
  | cons next rest =>
    rw [Text.joinWith_cons_of_ne_nil _ _ (List.cons_ne_nil next rest),
      Text.joinWith_cons_of_ne_nil _ _ (List.cons_ne_nil next rest)]
    simp only [List.append_assoc]

/-- **The cut falls at the first line, after the first of all, that starts with the fence.** -/
theorem cutAt_fence {first tail : List Char} {before after : List (List Char)}
    (free : ∀ line ∈ first :: before, '\n' ∉ line)
    (plain : ∀ line ∈ before, Text.startsWith fence line = false) :
    Text.cutAt ('\n' :: fence) (Text.joinWith ['\n'] (first :: before ++ (fence ++ tail) :: after))
      = some (Text.joinWith ['\n'] (first :: before), Text.joinWith ['\n'] (tail :: after)) := by
  induction before generalizing first with
  | nil =>
    have fenced : Text.startsWith fence (fence ++ tail) = true := by
      rw [Text.startsWith, List.isPrefixOf_iff_prefix]
      exact List.prefix_append fence tail
    show Text.cutAt _ (Text.joinWith _ (first :: (fence ++ tail) :: after)) = _
    rw [cutAt_line (free first List.mem_cons_self), if_pos fenced, joinWith_append_cons,
      List.drop_left]
    rfl
  | cons next before ih =>
    have others : next :: before ≠ [] := List.cons_ne_nil next before
    show Text.cutAt _ (Text.joinWith _ (first :: next :: (before ++ (fence ++ tail) :: after))) = _
    rw [cutAt_line (free first List.mem_cons_self), plain next List.mem_cons_self,
      if_neg Bool.false_ne_true]
    have cut := ih (fun line mem => free line (List.mem_cons_of_mem _ mem))
      fun line mem => plain line (List.mem_cons_of_mem _ mem)
    rw [List.cons_append] at cut
    rw [cut, Text.joinWith_cons_of_ne_nil _ _ others]
    simp

/-- There is no cut where no line but the first starts with the fence. -/
theorem cutAt_noFence {first : List Char} {rest : List (List Char)}
    (free : ∀ line ∈ first :: rest, '\n' ∉ line)
    (plain : ∀ line ∈ rest, Text.startsWith fence line = false) :
    Text.cutAt ('\n' :: fence) (Text.joinWith ['\n'] (first :: rest)) = none := by
  induction rest generalizing first with
  | nil =>
    have cut := cutAt_free (free first List.mem_cons_self) []
    rw [List.append_nil] at cut
    exact cut
  | cons next rest ih =>
    rw [cutAt_line (free first List.mem_cons_self), plain next List.mem_cons_self,
      if_neg Bool.false_ne_true, ih (fun line mem => free line (List.mem_cons_of_mem _ mem))
        fun line mem => plain line (List.mem_cons_of_mem _ mem)]
    rfl

/-! ## Written lines -/

/-- A line with what stands before its line feed. -/
def rawLine (line : List Char × LineEnd) : List Char := line.1 ++ line.2.returns

theorem written_append (lines : List (List Char × LineEnd)) (next : List Char)
    (rest : List (List Char)) :
    written lines ++ Text.joinWith ['\n'] (next :: rest)
      = Text.joinWith ['\n'] (lines.map rawLine ++ next :: rest) := by
  induction lines with
  | nil => rfl
  | cons line lines ih =>
    have more : lines.map rawLine ++ next :: rest ≠ [] := by simp
    rw [List.map_cons, List.cons_append, Text.joinWith_cons_of_ne_nil _ _ more, ← ih]
    simp [written, rawLine, LineEnd.text]

/-- Raw lines are the text of the lines, and perhaps one more carriage return. -/
theorem joinWith_rawLines (lines : List (List Char × LineEnd)) :
    ∃ n, Text.joinWith ['\n'] (lines.map rawLine) = textOf lines ++ List.replicate n '\r' := by
  induction lines with
  | nil => exact ⟨0, rfl⟩
  | cons line lines ih =>
    cases lines with
    | nil =>
      cases stop : line.2 with
      | feed => exact ⟨0, by simp [rawLine, stop, textOf, Text.joinWith, LineEnd.returns]⟩
      | returnFeed => exact ⟨1, by simp [rawLine, stop, textOf, Text.joinWith, LineEnd.returns]⟩
    | cons next lines =>
      obtain ⟨n, same⟩ := ih
      refine ⟨n, ?_⟩
      rw [List.map_cons, Text.joinWith_cons_of_ne_nil _ _ (by simp), same]
      simp [textOf, rawLine, LineEnd.text]

theorem free_rawLine {line : List Char × LineEnd} (free : '\n' ∉ line.1) : '\n' ∉ rawLine line := by
  cases stop : line.2 with
  | feed => simp [rawLine, stop, LineEnd.returns, free]
  | returnFeed => simp [rawLine, stop, LineEnd.returns, free]

/-- A carriage return at its end makes no fence of a line. -/
theorem startsWith_rawLine (line : List Char × LineEnd) :
    Text.startsWith fence (rawLine line) = Text.startsWith fence line.1 := by
  obtain ⟨cs, stop⟩ := line
  cases stop with
  | feed => simp [rawLine, LineEnd.returns]
  | returnFeed => exact startsWith_fence_append (by decide) cs []

/-! ## The seams -/

theorem dropMarks_replicate (marks : Nat) (cs : List Char) :
    dropMarks (List.replicate marks '\ufeff' ++ fence ++ cs) = fence ++ cs := by
  rw [dropMarks, List.append_assoc, List.dropWhile_append_of_pos (by simp)]
  rfl

theorem dropLineEnd_text (stop : LineEnd) (cs : List Char) : dropLineEnd (stop.text ++ cs) = cs := by
  cases stop with
  | feed => rfl
  | returnFeed => rfl

/-- Nothing after a character that is no carriage return reaches back over it. -/
theorem dropReturns_append_cons (front : List Char) {c : Char} (ne : c ≠ '\r') (cs : List Char) :
    dropReturns (front ++ c :: cs) = front ++ c :: dropReturns cs := by
  rw [dropReturns, dropReturns, List.reverse_append, List.reverse_cons, List.append_assoc,
    List.dropWhile_append]
  split
  · rename_i nothing
    rw [List.isEmpty_iff.mp nothing]
    simp [ne]
  · simp

theorem dropReturns_append_replicate (cs : List Char) (n : Nat) :
    dropReturns (cs ++ List.replicate n '\r') = dropReturns cs := by
  rw [dropReturns, dropReturns, List.reverse_append, List.reverse_replicate,
    List.dropWhile_append_of_pos (by simp)]

/-- A text that does not end in a carriage return stays. -/
theorem dropReturns_eq_self {cs : List Char} (stays : cs.getLast? ≠ some '\r') :
    dropReturns cs = cs := by
  rcases List.eq_nil_or_concat cs with rfl | ⟨front, c, rfl⟩
  · rfl
  · have ne : c ≠ '\r' := by simpa using stays
    rw [List.concat_eq_append, dropReturns_append_cons front ne]
    rfl

/-! ## Reading a written fixture -/

variable {marks : Nat} {opening closing : LineEnd} {settings : List (List Char × LineEnd)}
  {source : List Char}

/-- What is searched for the closing fence, as lines joined by line feeds. -/
theorem split_document (marks : Nat) (opening : LineEnd) (settings : List (List Char × LineEnd))
    (closing : LineEnd) (source : List Char) :
    split (document marks opening settings closing source)
      = match Text.cutAt ('\n' :: fence) (Text.joinWith ['\n']
            (settings.map rawLine ++ (fence ++ closing.returns) :: Text.pieces '\n' source)) with
        | none => .error .noClosing
        | some (front, rest) => .ok (dropReturns front, dropLineEnd rest) := by
  have unmarked : dropMarks (document marks opening settings closing source)
      = fence ++ (opening.text ++ written settings ++ fence ++ closing.text ++ source) := by
    rw [← dropMarks_replicate marks]
    simp [document]
  have closed : fence ++ closing.text ++ source
      = Text.joinWith ['\n'] ((fence ++ closing.returns) :: Text.pieces '\n' source) := by
    rw [Text.joinWith_cons_of_ne_nil _ _ (Text.pieces_ne_nil '\n' source), Text.joinWith_pieces]
    simp [LineEnd.text]
  have searched : dropLineEnd
        (opening.text ++ written settings ++ fence ++ closing.text ++ source)
      = Text.joinWith ['\n']
          (settings.map rawLine ++ (fence ++ closing.returns) :: Text.pieces '\n' source) := by
    rw [← written_append, ← closed, ← dropLineEnd_text opening (written settings ++ _)]
    simp only [List.append_assoc]
  have opened : Text.startsWith fence
      (fence ++ (opening.text ++ written settings ++ fence ++ closing.text ++ source)) = true := by
    rw [Text.startsWith, List.isPrefixOf_iff_prefix]
    exact List.prefix_append fence _
  rw [split, unmarked, if_pos opened, List.drop_left]
  exact congrArg (fun cs => match Text.cutAt ('\n' :: fence) cs with
    | none => Except.error Defect.noClosing
    | some (front, rest) => .ok (dropReturns front, dropLineEnd rest)) searched

/-- **Settings and source come out as they were written,** if there are lines of settings. -/
theorem split_settings (given : settings ≠ []) (plain : ∀ line ∈ settings, IsSettingsLine line.1) :
    split (document marks opening settings closing source)
      = .ok (dropReturns (textOf settings), source) := by
  obtain ⟨first, others, rfl⟩ := List.exists_cons_of_ne_nil given
  obtain ⟨n, raw⟩ := joinWith_rawLines (first :: others)
  have cut : Text.cutAt ('\n' :: fence) (Text.joinWith ['\n']
        ((first :: others).map rawLine ++ (fence ++ closing.returns) :: Text.pieces '\n' source))
      = some (textOf (first :: others) ++ List.replicate n '\r',
          Text.joinWith ['\n'] (closing.returns :: Text.pieces '\n' source)) := by
    rw [← raw, List.map_cons]
    refine cutAt_fence ?_ ?_
    · intro line mem
      obtain ⟨line', inside, rfl⟩ := List.mem_map.mp (List.map_cons ▸ mem)
      exact free_rawLine (plain line' inside).1
    · intro line mem
      obtain ⟨line', inside, rfl⟩ := List.mem_map.mp mem
      rw [startsWith_rawLine, ← Bool.not_eq_true, Text.startsWith, List.isPrefixOf_iff_prefix]
      exact (plain line' (List.mem_cons_of_mem _ inside)).2
  have ended : dropLineEnd (Text.joinWith ['\n'] (closing.returns :: Text.pieces '\n' source))
      = source := by
    rw [Text.joinWith_cons_of_ne_nil _ _ (Text.pieces_ne_nil '\n' source), Text.joinWith_pieces]
    exact dropLineEnd_text closing source
  rw [split_document, cut]
  simp only [dropReturns_append_replicate, ended]

/-- **Without settings the closing fence is not seen.**  The search goes on into the source, and
    what it finds there leaves settings that begin with the line of that fence. -/
theorem split_noSettings (marks : Nat) (opening closing : LineEnd) (source : List Char) :
    (hasFence source = false →
        split (document marks opening [] closing source) = .error .noClosing)
      ∧ (hasFence source = true → ∃ tail rest,
          split (document marks opening [] closing source) = .ok (fence ++ tail, rest)
            ∧ AtLineEnd tail) := by
  have freeFirst : '\n' ∉ fence ++ closing.returns := by
    cases closing with
    | feed => decide
    | returnFeed => decide
  have freePiece : ∀ piece ∈ Text.pieces '\n' source, '\n' ∉ piece :=
    fun piece mem => Text.not_mem_of_mem_pieces mem
  rw [split_document, List.map_nil, List.nil_append]
  constructor
  · intro noFence
    have plain : ∀ piece ∈ Text.pieces '\n' source, Text.startsWith fence piece = false := by
      simpa [hasFence] using noFence
    rw [cutAt_noFence (List.forall_mem_cons.mpr ⟨freeFirst, freePiece⟩) plain]
  · intro fenced
    obtain ⟨piece, found⟩ := Option.isSome_iff_exists.mp
      (List.find?_isSome.mpr (List.any_eq_true.mp fenced))
    obtain ⟨starts, before, after, pieces, earlier⟩ := List.find?_eq_some_iff_append.mp found
    obtain ⟨tail, rfl⟩ := List.isPrefixOf_iff_prefix.mp starts
    rw [pieces] at freePiece ⊢
    have free : ∀ line ∈ (fence ++ closing.returns) :: before, '\n' ∉ line :=
      List.forall_mem_cons.mpr
        ⟨freeFirst, fun line mem => freePiece line (List.mem_append_left _ mem)⟩
    have plain : ∀ line ∈ before, Text.startsWith fence line = false :=
      fun line mem => by simpa using earlier line mem
    rw [← List.cons_append, cutAt_fence free plain]
    cases before with
    | nil =>
      refine ⟨[], dropLineEnd (Text.joinWith ['\n'] (tail :: after)), ?_, nofun⟩
      cases closing with
      | feed => rfl
      | returnFeed => rfl
    | cons next before =>
      have more : next :: before ≠ [] := List.cons_ne_nil next before
      refine ⟨closing.returns ++ '\n' :: dropReturns (Text.joinWith ['\n'] (next :: before)),
        dropLineEnd (Text.joinWith ['\n'] (tail :: after)), ?_, ?_⟩
      · -- the line feed after the fence keeps the carriage return before it
        simp only [Text.joinWith_cons_of_ne_nil _ _ more, List.append_assoc _ ['\n'],
          List.singleton_append, dropReturns_append_cons _ (show '\n' ≠ '\r' by decide)]
        simp only [List.append_assoc]
      · cases closing with
        | feed => simp [AtLineEnd, LineEnd.returns]
        | returnFeed => simp [AtLineEnd, LineEnd.returns]

/-! ## Every written fixture -/

/-- The text of lines is that of all lines but the last, and the last without its end. -/
theorem textOf_append (lines : List (List Char × LineEnd)) (last : List Char × LineEnd) :
    textOf (lines ++ [last]) = written lines ++ last.1 := by
  induction lines with
  | nil => rfl
  | cons line lines ih =>
    have step : textOf (line :: (lines ++ [last]))
        = line.1 ++ line.2.text ++ textOf (lines ++ [last]) := by
      cases lines with
      | nil => rfl
      | cons next lines => rfl
    rw [List.cons_append, step, ih]
    simp [written]

/-- The text of lines ends in a carriage return only if the last line does. -/
theorem dropReturns_textOf {lines : List (List Char × LineEnd)}
    (ends : ∀ last ∈ lines.getLast?, last.1.getLast? ≠ some '\r') :
    dropReturns (textOf lines) = textOf lines := by
  rcases List.eq_nil_or_concat lines with rfl | ⟨front, last, rfl⟩
  · rfl
  · rw [List.concat_eq_append] at ends ⊢
    rw [textOf_append]
    refine dropReturns_eq_self ?_
    have ended := ends last (by simp)
    obtain ⟨cs, stop⟩ := last
    rcases List.eq_nil_or_concat cs with rfl | ⟨cs, c, rfl⟩
    · -- an empty last line: the text ends in the line feed before it, if in anything
      rcases List.eq_nil_or_concat front with rfl | ⟨front, line, rfl⟩
      · simp [written]
      · simp [written, LineEnd.text]
    · simpa using ended

end FrontMatter

namespace Fixture

open FrontMatter

/-- What is asked of a reader of settings. -/
structure SettingsReader.Lawful (reader : SettingsReader) : Prop where
  /-- No settings begin with the line of a fence. -/
  fence : ∀ rest : List Char, AtLineEnd rest →
    reader (String.ofList (FrontMatter.fence ++ rest)) = none
  /-- No settings at all are good settings. -/
  empty : (reader "").isSome

/-- **The reader of TOML** is such a reader. -/
theorem ofToml_lawful : ofToml.Lawful where
  fence rest ends := by rw [ofToml, Toml.read?_fence ends, Option.bind_none]
  empty := by decide +kernel

variable {reader : SettingsReader}

/-- What becomes of a text with two parts. -/
theorem ofText_of_split {cs settings source : List Char} (cut : split cs = .ok (settings, source)) :
    ofText (String.ofList cs) reader
      = (reader (String.ofList settings)).elim (.error .badSettings)
          fun settings => .ok { settings with source := String.ofList source } := by
  rw [ofText, String.toList_ofList, cut]
  cases made : reader (String.ofList settings) with
  | none => simp only [made, Option.elim]
  | some settings => simp only [made, Option.elim]

/-- **Fixtures fall apart at their fences.**  Take any lines of settings, none of which starts with
    a fence, any source, any line ends and any number of byte-order marks, and any lawful reader of
    settings.

    If there are lines of settings, their text up to the end of the last one goes to the reader,
    less the carriage returns at its very end: none are left out unless the last line itself ends in
    some.  What the reader makes of it becomes the fixture, with exactly the given source; where it
    accepts nothing, the fixture is refused for its settings.

    If there are none, the reader would accept their text; but the fixture is refused: the closing
    fence is not found, or else, where the source has a line that starts with a fence too, the
    settings are called bad. -/
theorem settings_between_fences (lawful : reader.Lawful) (marks : Nat) (opening closing : LineEnd)
    (settings : List (List Char × LineEnd)) (source : List Char)
    (plain : ∀ line ∈ settings, IsSettingsLine line.1) :
    let text := String.ofList (document marks opening settings closing source)
    (settings ≠ [] →
        ofText text reader
            = (reader (String.ofList (dropReturns (textOf settings)))).elim (.error .badSettings)
                (fun settings => .ok { settings with source := String.ofList source })
          ∧ (∀ fixture, ofText text reader = .ok fixture → fixture.source = String.ofList source)
          ∧ ((∀ last ∈ settings.getLast?, last.1.getLast? ≠ some '\r') →
              dropReturns (textOf settings) = textOf settings))
      ∧ (settings = [] →
          (reader (String.ofList (textOf settings))).isSome
          ∧ ofText text reader
              = .error (if hasFence source then .badSettings else .noClosing)) := by
  intro text
  constructor
  · intro given
    have cut : split (document marks opening settings closing source)
        = .ok (dropReturns (textOf settings), source) := split_settings given plain
    have read : ofText text reader = _ := ofText_of_split cut
    refine ⟨read, fun fixture accepted => ?_, dropReturns_textOf⟩
    rw [read] at accepted
    cases result : reader (String.ofList (dropReturns (textOf settings))) with
    | none => simp [result] at accepted
    | some made =>
      rw [result] at accepted
      obtain rfl := Except.ok.inj accepted
      rfl
  · rintro rfl
    refine ⟨lawful.empty, ?_⟩
    obtain ⟨unclosed, closedLate⟩ := split_noSettings marks opening closing source
    cases fenced : hasFence source with
    | false =>
      rw [ofText, String.toList_ofList, unclosed fenced]
      rfl
    | true =>
      obtain ⟨tail, rest, cut, ends⟩ := closedLate fenced
      rw [show ofText text reader = _ from ofText_of_split cut, lawful.fence _ ends]
      rfl

/-- Settings in TOML after two byte-order marks, with both line ends, an empty line of settings at
    the end, and a source that begins with a fence of its own. -/
theorem settings_between_fences_mixed :
    let settings := [("strict = true".toList, LineEnd.returnFeed), ([], LineEnd.returnFeed)]
    let text := "\ufeff\ufeff---\nstrict = true\r\n\r\n---\r\n---\n// Bogus:"
    ofToml.Lawful ∧ (∀ line ∈ settings, IsSettingsLine line.1)
      ∧ ofText text = .ok { strict := true, source := "---\n// Bogus:" } := by
  intro settings text
  have plain : ∀ line ∈ settings, IsSettingsLine line.1 := by
    refine List.forall_mem_cons.mpr ⟨⟨by decide, by decide⟩, ?_⟩
    exact List.forall_mem_cons.mpr ⟨⟨by decide, by decide⟩, nofun⟩
  obtain ⟨read, -, -⟩ := (settings_between_fences ofToml_lawful 2 .feed .returnFeed settings
    "---\n// Bogus:".toList plain).1 (by simp [settings])
  have same : text = String.ofList
      (document 2 .feed settings .returnFeed "---\n// Bogus:".toList) := by decide +kernel
  refine ⟨ofToml_lawful, plain, ?_⟩
  rw [same, read]
  decide +kernel

/-- **A fixture without settings is refused,** although its closing fence is there, and although no
    settings at all are good TOML and make a fixture: one that expects nothing. -/
theorem empty_settings_never_close :
    let source := "// Function: foo()\n"
    String.ofList (document 0 .feed [] .feed source.toList) = "---\n---\n// Function: foo()\n"
      ∧ ofText "---\n---\n// Function: foo()\n" = .error .noClosing
      ∧ ofToml (String.ofList (textOf [])) = some {} := by
  intro source
  exact ⟨by decide +kernel, by decide +kernel, by decide +kernel⟩

end Fixture

end DocComments
