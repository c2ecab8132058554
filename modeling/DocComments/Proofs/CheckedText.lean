/-
  Slices of text, checked.

  Reading cuts texts by counting bytes: a body line loses as many bytes as the first line of its
  body has white space, and the options of a header are what stands between two parentheses.  A cut
  that is past the end or inside a character fails.  `cutBytes?` and `slice?` are cuts that say so;
  the functions of `Checked` read bodies, headers and tables with nothing but such cuts and with
  indices that are looked up, and none of them ever fails: each gives what the function of the same
  kind gives that it checks.

    * `Checked.bodyFrom_eq`  a body: the width is counted in bytes on the first line, whatever white
      space stands there, and the later lines begin with at least that many spaces, of a byte each;
    * `Checked.parts_eq`     a header: its options are what the parentheses hold;
    * `Checked.split_eq`     a heading line of a body is looked up at an index below its length;
    * `Checked.tables_eq`    tables: the index of the header set runs past the sets, but rows are
      only waiting while it is among them.
-/
import DocComments.Header
import DocComments.SourceUnit
import DocComments.Table

namespace DocComments

/-! ## Cuts -/

open Body (byteWidth byteWidth_append)

/-- The text from a byte on; a byte past the end or inside a character gives none. -/
def cutBytes? (bytes : Nat) : List Char → Option (List Char)
  | [] => if bytes = 0 then some [] else none
  | c :: cs =>
    if bytes = 0 then some (c :: cs)
    else if c.utf8Size ≤ bytes then cutBytes? (bytes - c.utf8Size) cs
    else none

/-- The text up to a byte; a byte past the end or inside a character gives none. -/
def takeBytes? (bytes : Nat) : List Char → Option (List Char)
  | [] => if bytes = 0 then some [] else none
  | c :: cs =>
    if bytes = 0 then some []
    else if c.utf8Size ≤ bytes then (takeBytes? (bytes - c.utf8Size) cs).map (c :: ·)
    else none

/-- The text between two bytes. -/
def slice? (first last : Nat) (cs : List Char) : Option (List Char) :=
  if first ≤ last then (cutBytes? first cs).bind (takeBytes? (last - first)) else none

theorem cutBytes?_zero (cs : List Char) : cutBytes? 0 cs = some cs := by
  cases cs <;> rfl

theorem takeBytes?_zero (cs : List Char) : takeBytes? 0 cs = some [] := by
  cases cs <;> rfl

/-- A cut after whole characters. -/
theorem cutBytes?_append (front rest : List Char) :
    cutBytes? (byteWidth front) (front ++ rest) = some rest := by
  induction front with
  | nil => exact cutBytes?_zero rest
  | cons c front ih =>
    have pos : 0 < c.utf8Size := c.utf8Size_pos
    have wide : byteWidth (c :: front) = c.utf8Size + byteWidth front := rfl
    rw [List.cons_append, cutBytes?, wide, if_neg (by omega), if_pos (by omega),
      Nat.add_sub_cancel_left, ih]

/-- A wide space is cut off whole or not at all. -/
example : cutBytes? 3 ['\u3000', 'a'] = some ['a'] ∧ cutBytes? 2 ['\u3000', 'a'] = none := by
  decide

theorem takeBytes?_append (front rest : List Char) :
    takeBytes? (byteWidth front) (front ++ rest) = some front := by
  induction front with
  | nil => exact takeBytes?_zero rest
  | cons c front ih =>
    have pos : 0 < c.utf8Size := c.utf8Size_pos
    have wide : byteWidth (c :: front) = c.utf8Size + byteWidth front := rfl
    rw [List.cons_append, takeBytes?, wide, if_neg (by omega), if_pos (by omega),
      Nat.add_sub_cancel_left, ih]
    rfl

/-! ## Bodies -/

namespace Body

/-- A text with so many spaces at its start, a byte each, can be cut after them. -/
theorem cutBytes?_of_le_leadingSpaces {width : Nat} {text : List Char}
    (le : width ≤ leadingSpaces text) : cutBytes? width text = some (text.drop width) := by
  induction width generalizing text with
  | zero => exact cutBytes?_zero text
  | succ width ih =>
    cases text with
    | nil => simp [leadingSpaces] at le
    | cons c text =>
      by_cases space : c = ' '
      · subst space
        have one : ' '.utf8Size = 1 := by decide
        have le : width ≤ leadingSpaces text := by simpa [leadingSpaces] using le
        rw [cutBytes?, if_neg (by omega), one, if_pos (by omega), Nat.add_sub_cancel, ih le,
          List.drop_succ_cons]
      · simp [leadingSpaces, space] at le

/-- Spaces are white space, and there may be more of that. -/
theorem leadingSpaces_le_blankWidth (text : List Char) : leadingSpaces text ≤ blankWidth text := by
  induction text with
  | nil => exact Nat.le_refl 0
  | cons c text ih =>
    by_cases space : c = ' '
    · subst space
      have blank : Text.isBlank ' ' = true := by decide
      have one : ' '.utf8Size = 1 := by decide
      simp only [leadingSpaces, blankWidth, List.takeWhile_cons, blank, byteWidth, one,
        beq_self_eq_true, if_true, List.length_cons] at ih ⊢
      omega
    · have none : leadingSpaces (c :: text) = 0 := by simp [leadingSpaces, space]
      omega

/-- What trimming takes off the front is the white space there. -/
theorem byteWidth_trimStart (text : List Char) :
    byteWidth text - byteWidth (Text.trimStart text) = blankWidth text := by
  have whole : byteWidth (text.takeWhile Text.isBlank) + byteWidth (Text.trimStart text)
      = byteWidth text := by
    rw [← byteWidth_append, Text.trimStart, List.takeWhile_append_dropWhile]
  rw [blankWidth]
  omega

theorem cutBytes?_blankWidth (text : List Char) :
    cutBytes? (blankWidth text) text = some (Text.trimStart text) := by
  have cut := cutBytes?_append (text.takeWhile Text.isBlank) (Text.trimStart text)
  rwa [Text.trimStart, List.takeWhile_append_dropWhile] at cut

end Body

namespace Checked

open Body (comment? candidate? leadingSpaces blankWidth minIndent following)

/-- Take the lines of a body.  `width` is the least indentation, until the first line has fixed
    it. -/
def bodyFrom (width : Nat) (first : Bool) : List String → Option (Except Nat (List String))
  | [] => some (.ok [])
  | line :: rest =>
    match comment? line with
    | none => some (.ok [])
    | some text =>
      if leadingSpaces text < width then
        some (if minIndent ≤ leadingSpaces text then .error 0 else .ok [])
      else do
        let width := if first then byteWidth text - byteWidth (Text.trimStart text) else width
        let cut ← cutBytes? width text
        let others ← bodyFrom width false rest
        match others with
        | .ok body => some (.ok (String.ofList (Text.trimEnd cut) :: body))
        | .error n => some (.error (n + 1))

/-- Every later line can be cut. -/
theorem bodyFrom_eq_following {width : Nat} (enough : minIndent ≤ width) (lines : List String) :
    bodyFrom width false lines = some (following width lines) := by
  induction lines with
  | nil => rfl
  | cons line rest ih =>
    rw [bodyFrom, following, candidate?]
    cases comment? line with
    | none => rfl
    | some text =>
      by_cases short : leadingSpaces text < width
      · by_cases candidate : minIndent ≤ leadingSpaces text
        · simp [short, candidate, Option.filter]
        · simp [short, candidate, Option.filter]
      · have cut := Body.cutBytes?_of_le_leadingSpaces (Nat.le_of_not_lt short)
        have candidate : minIndent ≤ leadingSpaces text := by omega
        simp only [short, candidate, Option.filter, cut, ih, if_false, decide_true, if_true,
          Bool.false_eq_true, Option.bind_eq_bind, Option.bind_some]
        cases following width rest <;> rfl

/-- **A body can always be cut**, and it is the body that reading takes. -/
theorem bodyFrom_eq (lines : List String) :
    bodyFrom minIndent true lines = some (Body.ofLines lines) := by
  cases lines with
  | nil => rfl
  | cons line rest =>
    rw [bodyFrom, Body.ofLines, candidate?]
    cases comment? line with
    | none => rfl
    | some text =>
      by_cases short : leadingSpaces text < minIndent
      · have plain : ¬ minIndent ≤ leadingSpaces text := Nat.not_le.mpr short
        simp [short, plain, Option.filter]
      · have candidate : minIndent ≤ leadingSpaces text := Nat.le_of_not_lt short
        -- the white space that is cut off is at least as wide as the spaces it begins with
        have enough : minIndent ≤ blankWidth text :=
          Nat.le_trans candidate (Body.leadingSpaces_le_blankWidth text)
        simp only [short, candidate, Option.filter, Body.byteWidth_trimStart,
          Body.cutBytes?_blankWidth, bodyFrom_eq_following enough, if_false, decide_true, if_true,
          Option.bind_eq_bind, Option.bind_some]
        cases following (blankWidth text) rest <;> rfl

/-! ## Headers -/

/-- The parentheses of a header with what they hold, and the text after them; where none open,
    nothing is taken. -/
def takeGroup : List Char → Option (Option (List Char) × List Char)
  | '(' :: cs => (Text.cutOnce ')' cs).map fun (held, rest) => (some ('(' :: held ++ [')']), rest)
  | cs => some (none, cs)

/-- What parentheses hold: the group without its first and its last byte. -/
def heldBy : Option (List Char) → Option (List Char)
  | none => some []
  | some group => slice? 1 (byteWidth group - 1) group

/-- The group begins and ends with a character of one byte. -/
theorem heldBy_parentheses (held : List Char) :
    heldBy (some ('(' :: held ++ [')'])) = some held := by
  have opening : byteWidth ['('] = 1 := by decide
  have closing : byteWidth [')'] = 1 := by decide
  have wide : byteWidth ('(' :: held ++ [')']) = 1 + (byteWidth held + 1) := by
    show byteWidth (['('] ++ held ++ [')']) = _
    rw [byteWidth_append, byteWidth_append, opening, closing, Nat.add_assoc]
  have cut : cutBytes? 1 ('(' :: held ++ [')']) = some (held ++ [')']) := by
    rw [← opening]
    exact cutBytes?_append ['('] (held ++ [')'])
  rw [heldBy, wide, slice?, if_pos (by omega), cut, Option.bind_some,
    show 1 + (byteWidth held + 1) - 1 - 1 = byteWidth held by omega]
  exact takeBytes?_append held [')']

/-- Where the parentheses are never closed there are no options. -/
theorem takeOptions_eq_none {cs : List Char} (unclosed : takeGroup cs = none) :
    Header.takeOptions cs = none := by
  unfold takeGroup at unclosed
  split at unclosed
  · exact Option.map_eq_none_iff.mp unclosed
  · simp at unclosed

/-- The options are what the parentheses hold, and can be cut out of them. -/
theorem takeOptions_eq_some {cs rest : List Char} {group : Option (List Char)}
    (taken : takeGroup cs = some (group, rest)) :
    ∃ held, heldBy group = some held ∧ Header.takeOptions cs = some (held, rest) := by
  unfold takeGroup at taken
  split at taken
  · obtain ⟨⟨held, after⟩, closed, same⟩ := Option.map_eq_some_iff.mp taken
    cases same
    exact ⟨held, heldBy_parentheses held, closed⟩
  · rename_i unopened
    cases taken
    refine ⟨[], rfl, ?_⟩
    unfold Header.takeOptions
    split
    · exact absurd rfl (unopened _)
    · rfl

/-- The parts of a header, the options cut out of their parentheses. -/
def parts : List Char → Option (Option (List Char × List Char × List Char))
  | '/' :: '/' :: ' ' :: cs =>
    match Header.takeTitle cs with
    | none => some none
    | some (title, rest) =>
      match takeGroup rest with
      | none => some none
      | some (group, rest) => do
        let options ← heldBy group
        some ((Header.takeSubtitle rest).map fun subtitle => (title, options, subtitle))
  | _ => some none

/-- **The options can always be cut out.** -/
theorem parts_eq (cs : List Char) : parts cs = some (Header.parts? cs) := by
  by_cases slashes : ∃ rest, cs = '/' :: '/' :: ' ' :: rest
  · obtain ⟨cs, rfl⟩ := slashes
    rw [parts, Header.parts?]
    cases Header.takeTitle cs with
    | none => rfl
    | some taken =>
      obtain ⟨title, rest⟩ := taken
      simp only [Option.bind_eq_bind, Option.bind_some]
      cases grouped : takeGroup rest with
      | none =>
        rw [takeOptions_eq_none grouped]
        rfl
      | some taken =>
        obtain ⟨group, after⟩ := taken
        obtain ⟨held, cut, options⟩ := takeOptions_eq_some grouped
        simp only [cut, options, Option.bind_some]
        cases Header.takeSubtitle after <;> rfl
  · have plain : Header.parts? cs = none := by
      unfold Header.parts?
      split
      · exact absurd ⟨_, rfl⟩ slashes
      · rfl
    rw [plain]
    unfold parts
    split
    · exact absurd ⟨_, rfl⟩ slashes
    · rfl

/-- Read a line as a header. -/
def header (line : String) : Option (Option Header) :=
  (parts line.toList).map fun found => found.map fun (title, options, subtitle) =>
    ⟨String.ofList title, String.ofList options, String.ofList subtitle⟩

theorem header_eq (line : String) : header line = some (Header.ofLine? line) := by
  rw [header, parts_eq]
  rfl

/-! ## Headings -/

/-- Split a body at its underlined headings from a line on, each line looked up by its number. -/
def split (origin : Origin) (body : List String) (i : Nat) : Option (List String × List Block) :=
  if i < body.length then do
    let line ← body[i]?
    if body[i + 1]?.any (isHeading line) then do
      let (inner, blocks) ← split origin body (i + 2)
      let heading := ⟨origin.file, origin.line + i + 1⟩
      some ([], { title := Text.strip line, body := inner, origin := heading } :: blocks)
    else do
      let (own, blocks) ← split origin body (i + 1)
      some (line :: own, blocks)
  else some ([], [])
termination_by body.length - i

/-- **Every line that the splitting looks up is there.** -/
theorem split_eq (origin : Origin) (body : List String) (i : Nat) :
    split origin body i = some (splitAtHeadings origin i (body.drop i)) := by
  induction left : body.length - i using Nat.strongRecOn generalizing i with
  | ind left ih =>
    rw [split]
    by_cases more : i < body.length
    · rw [if_pos more, List.getElem?_eq_getElem more, List.drop_eq_getElem_cons more,
        ih (body.length - (i + 2)) (by omega) (i + 2) rfl,
        ih (body.length - (i + 1)) (by omega) (i + 1) rfl]
      by_cases last : i + 1 < body.length
      · rw [List.getElem?_eq_getElem last, List.drop_eq_getElem_cons last, splitAtHeadings]
        simp only [Option.bind_eq_bind, Option.bind_some, Option.any_some]
        by_cases heading : isHeading body[i] body[i + 1]
        · simp only [heading, if_true]
        · simp only [heading, if_false, Bool.false_eq_true]
      · have done : body.drop (i + 1) = [] := List.drop_eq_nil_of_le (Nat.le_of_not_lt last)
        rw [List.getElem?_eq_none (Nat.le_of_not_lt last), done]
        rfl
    · rw [if_neg more, List.drop_eq_nil_of_le (Nat.le_of_not_lt more)]
      rfl

/-! ## Tables -/

/-- The table of the rows gathered so far, if there are any, with the header set at an index. -/
def gather (sets : List (List String)) (index : Nat) : List (List String) → Option (List Table)
  | [] => some []
  | row :: rows => do
    let headers ← sets[index]?
    some [⟨headers, row :: rows⟩]

/-- The tables of a body, the header set at an index being the present one. -/
def tables (sets : List (List String)) (index : Nat) (rows : List (List String)) :
    List String → Option (Except Cause (List Table))
  | [] => (gather sets index rows).map .ok
  | line :: rest =>
    if Table.isSeparator line then do
      let first ← gather sets index rows
      match ← tables sets (index + 1) [] rest with
      | .ok others => some (.ok (first ++ others))
      | .error cause => some (.error cause)
    else
      match sets[index]? with
      | none => some (.error .tooManyTables)
      | some headers =>
        if (Table.cellsOf headers.length line).length ≠ headers.length then
          some (.error .tooFewCells)
        else tables sets index (rows ++ [Table.cellsOf headers.length line]) rest

/-- Rows only wait while there is a header set for them. -/
theorem gather_eq {sets : List (List String)} {index : Nat} {rows : List (List String)}
    (waiting : rows ≠ [] → index < sets.length) :
    gather sets index rows = some (Table.gather (sets.drop index) rows) := by
  cases rows with
  | nil =>
    have nothing : Table.gather (sets.drop index) [] = [] := by cases sets.drop index <;> rfl
    rw [gather, nothing]
  | cons row rows =>
    have lt : index < sets.length := waiting (List.cons_ne_nil row rows)
    rw [gather, List.getElem?_eq_getElem lt, List.drop_eq_getElem_cons lt]
    rfl

/-- **A table that is put out has its header set.**  A separator puts the rows out before the index
    moves on, and a row joins them only under a header set that was found. -/
theorem tables_eq {sets : List (List String)} {index : Nat} {rows : List (List String)}
    (waiting : rows ≠ [] → index < sets.length) (lines : List String) :
    tables sets index rows lines = some (Table.split (sets.drop index) rows lines) := by
  induction lines generalizing index rows with
  | nil =>
    rw [tables, Table.split, gather_eq waiting]
    rfl
  | cons line rest ih =>
    rw [tables, Table.split.eq_def]
    simp only
    by_cases separator : Table.isSeparator line
    · have nothing : ([] : List (List String)) ≠ [] → index + 1 < sets.length :=
        fun waits => absurd rfl waits
      rw [if_pos separator, if_pos separator, gather_eq waiting, ih nothing, List.tail_drop]
      simp only [Option.bind_eq_bind, Option.bind_some]
      cases Table.split (sets.drop (index + 1)) [] rest <;> rfl
    · rw [if_neg separator, if_neg separator]
      by_cases lt : index < sets.length
      · rw [List.getElem?_eq_getElem lt, List.drop_eq_getElem_cons lt]
        simp only
        by_cases short : (Table.cellsOf sets[index].length line).length ≠ sets[index].length
        · rw [if_pos short, if_pos short]
        · rw [if_neg short, if_neg short, ih (fun _ => lt), List.drop_eq_getElem_cons lt]
      · rw [List.getElem?_eq_none (Nat.le_of_not_lt lt),
          List.drop_eq_nil_of_le (Nat.le_of_not_lt lt)]

/-- The tables of any body under any header sets. -/
theorem tables_ofBody (sets : List (List String)) (body : List String) :
    tables sets 0 [] body = some (Table.ofBody sets body) :=
  tables_eq (fun waits => absurd rfl waits) body

end Checked

end DocComments
