/-
  The tables of a body, exactly.

  The separators cut a body into segments.  The k-th segment belongs to the k-th header set, whether
  it holds lines or not; what is put out is a table for each segment that does, with a row for each
  of its lines (`ShowsSegment`).  A line is at FAULT when its segment has no header set, or when it
  holds too few `=` for the columns of that set (`FaultAt`), and the first such line decides about
  the body.

  The scan knows nothing of this.  It has the sets that are left and the rows of the present segment,
  and goes from line to line; so the fault of a line is followed through the sets that are left
  (`firstFault_cons`), and the rows through the lines they came from (`split_shows`).

    * `isRow_iff`     a row is the one way to take a line apart into the columns;
    * `tables_exact`  what the tables of a body are, and when there are none.
-/
import DocComments.Table
import Mathlib.Data.List.Forall2

namespace DocComments.Table

/-! ## Rows -/

/-- The cells are those of a line: as many as there are columns, and the line is made of their raw
    texts with `=` between them, none of which holds a `=` but the last. -/
def IsRow (columns : Nat) (line : String) (cells : List String) : Prop :=
  ∃ raw : List (List Char), raw.length = columns
    ∧ Text.joinWith ['='] raw = line.toList
    ∧ (∀ text ∈ raw.dropLast, '=' ∉ text)
    ∧ cells = raw.map fun text => String.ofList (Text.trim text)

theorem length_cellsOf (columns : Nat) (line : String) :
    (cellsOf columns line).length = min columns (line.toList.count '=' + 1) := by
  rw [cellsOf, List.length_map, Text.length_piecesAtMost]

/-- **A line has one row** of a number of columns if it has enough `=` for them, and else none. -/
theorem isRow_iff {columns : Nat} (pos : 0 < columns) {line : String} {cells : List String} :
    IsRow columns line cells
      ↔ columns ≤ line.toList.count '=' + 1 ∧ cells = cellsOf columns line := by
  constructor
  · rintro ⟨raw, rfl, joined, free, rfl⟩
    have cut := Text.piecesAtMost_joinWith (List.length_pos_iff.mp pos) free
    rw [joined] at cut
    have count := Text.length_piecesAtMost '=' raw.length line.toList
    rw [cut] at count
    exact ⟨by omega, by rw [cellsOf, cut]⟩
  · rintro ⟨enough, rfl⟩
    refine ⟨Text.piecesAtMost '=' columns line.toList, ?_, Text.joinWith_piecesAtMost '=' pos _,
      fun text mem => Text.not_mem_of_mem_piecesAtMost mem, rfl⟩
    rw [Text.length_piecesAtMost]
    omega

/-! ## Faults -/

/-- What is wrong with a line as a row of the segment with a number. -/
def fault? (headerSets : List (List String)) (segment : Nat) (line : String) : Option Cause :=
  match headerSets[segment]? with
  | none => some .tooManyTables
  | some headers =>
    if line.toList.count '=' + 1 < headers.length then some .tooFewCells else none

/-- The line with an index is no separator, and something is wrong with it as a row of its segment,
    the number of which is that of the separators before it. -/
def FaultAt (headerSets : List (List String)) (body : List String) (i : Nat) (cause : Cause) :
    Prop :=
  ∃ line, body[i]? = some line ∧ isSeparator line = false
    ∧ fault? headerSets ((body.take i).countP isSeparator) line = some cause

/-- What is wrong with the first line that is at fault. -/
def FirstFault (headerSets : List (List String)) (body : List String) (cause : Cause) : Prop :=
  ∃ i, FaultAt headerSets body i cause ∧ ∀ j, j < i → ∀ other, ¬ FaultAt headerSets body j other

variable {headerSets : List (List String)} {line : String} {rest body : List String}
  {cause : Cause}

/-- The header sets that are left after a line. -/
def setsAfter (headerSets : List (List String)) (line : String) : List (List String) :=
  if isSeparator line then headerSets.tail else headerSets

theorem faultAt_zero :
    FaultAt headerSets (line :: rest) 0 cause
      ↔ isSeparator line = false ∧ fault? headerSets 0 line = some cause := by
  simp [FaultAt]

/-- A later line is at fault under the sets that are left. -/
theorem faultAt_succ {i : Nat} :
    FaultAt headerSets (line :: rest) (i + 1) cause
      ↔ FaultAt (setsAfter headerSets line) rest i cause := by
  have same : ∀ other n, fault? (setsAfter headerSets line) n other
      = fault? headerSets (n + if isSeparator line then 1 else 0) other := by
    intro other n
    by_cases separator : isSeparator line
    · simp [fault?, setsAfter, separator, List.getElem?_tail]
    · simp [fault?, setsAfter, separator]
  simp only [FaultAt, List.getElem?_cons_succ, List.take_succ_cons, List.countP_cons, same]

theorem firstFault_cons :
    FirstFault headerSets (line :: rest) cause
      ↔ (isSeparator line = false ∧ fault? headerSets 0 line = some cause)
        ∨ (isSeparator line = true ∨ fault? headerSets 0 line = none)
          ∧ FirstFault (setsAfter headerSets line) rest cause := by
  constructor
  · rintro ⟨i, faulty, first⟩
    cases i with
    | zero => exact .inl (faultAt_zero.mp faulty)
    | succ i =>
      refine .inr ⟨?_, i, faultAt_succ.mp faulty, fun j lt other faulty' => ?_⟩
      · -- the first line is not at fault
        have good := fun other => mt faultAt_zero.mpr (first 0 (Nat.succ_pos i) other)
        cases separator : isSeparator line with
        | true => exact .inl rfl
        | false =>
          refine .inr (Option.eq_none_iff_forall_ne_some.mpr fun other found => ?_)
          exact good other ⟨separator, found⟩
      · exact first (j + 1) (Nat.succ_lt_succ lt) other (faultAt_succ.mpr faulty')
  · rintro (here | ⟨good, i, faulty, first⟩)
    · exact ⟨0, faultAt_zero.mpr here, fun j lt => absurd lt (Nat.not_lt_zero j)⟩
    · refine ⟨i + 1, faultAt_succ.mpr faulty, fun j lt other faulty' => ?_⟩
      cases j with
      | zero =>
        obtain ⟨row, found⟩ := faultAt_zero.mp faulty'
        rcases good with separator | none
        · simp [row] at separator
        · simp [none] at found
      | succ j => exact first j (Nat.lt_of_succ_lt_succ lt) other (faultAt_succ.mp faulty')

/-- If any line is at fault, a line is the first. -/
theorem FaultAt.first {i : Nat} (faulty : FaultAt headerSets body i cause) :
    ∃ cause, FirstFault headerSets body cause := by
  induction i using Nat.strongRecOn generalizing cause with
  | ind i ih =>
    by_cases earlier : ∃ j, j < i ∧ ∃ other, FaultAt headerSets body j other
    · obtain ⟨j, lt, other, faulty'⟩ := earlier
      exact ih j lt faulty'
    · exact ⟨cause, i, faulty, fun j lt other faulty' => earlier ⟨j, lt, other, faulty'⟩⟩

/-- A row is refused for want of `=`. -/
theorem fault?_cons {headers : List String} {sets : List (List String)} :
    fault? (headers :: sets) 0 line
      = if (cellsOf headers.length line).length ≠ headers.length then some .tooFewCells
        else none := by
  have short : (cellsOf headers.length line).length ≠ headers.length
      ↔ line.toList.count '=' + 1 < headers.length := by
    rw [length_cellsOf]
    omega
  simp only [fault?, List.getElem?_cons_zero, short]

/-- **The scan fails at the first line that is at fault,** whatever rows it has. -/
theorem split_error_iff (headerSets : List (List String)) (rows : List (List String))
    (body : List String) (cause : Cause) :
    split headerSets rows body = .error cause ↔ FirstFault headerSets body cause := by
  fun_induction split headerSets rows body with
  | case1 => simp [FirstFault, FaultAt]
  | case2 headerSets rows line rest separator tables read ih =>
    rw [read] at ih
    simpa [firstFault_cons, separator, setsAfter] using ih
  | case3 headerSets rows line rest separator other read ih =>
    rw [read] at ih
    simpa [firstFault_cons, separator, setsAfter] using ih
  | case4 rows line rest row =>
    have row : isSeparator line = false := Bool.eq_false_iff.mpr row
    simp [firstFault_cons, row, fault?]
  | case5 rows line rest row headers sets short =>
    have row : isSeparator line = false := Bool.eq_false_iff.mpr row
    rw [firstFault_cons, fault?_cons, if_pos short]
    simp [row]
  | case6 rows line rest row headers sets enough ih =>
    have row : isSeparator line = false := Bool.eq_false_iff.mpr row
    rw [ih, firstFault_cons, fault?_cons, if_neg enough]
    simp [row, setsAfter]

/-! ## Tables -/

/-- The table shows a segment with its number: the headers are those of the header set with that
    number, and there is a row for each line, in order. -/
def ShowsSegment (headerSets : List (List String)) (segment : List String × Nat) (table : Table) :
    Prop :=
  headerSets[segment.2]? = some table.headers
    ∧ List.Forall₂ (IsRow table.headers.length) segment.1 table.rows

/-- The tables of a body: one for each segment that has lines, in order. -/
def ShowsBody (headerSets : List (List String)) (segments : List (List String))
    (tables : List Table) : Prop :=
  List.Forall₂ (ShowsSegment headerSets) (segments.zipIdx.filter (·.1 ≠ [])) tables

/-- The rows so far are those of the lines before in this segment, under the first of the sets. -/
structure Gathered (headerSets : List (List String)) (past : List String)
    (rows : List (List String)) : Prop where
  isRows : ∀ headers, headerSets.head? = some headers →
    List.Forall₂ (IsRow headers.length) past rows
  none : headerSets = [] → past = [] ∧ rows = []

theorem Gathered.nil (headerSets : List (List String)) : Gathered headerSets [] [] :=
  ⟨fun _ _ => .nil, fun _ => ⟨rfl, rfl⟩⟩

/-- **The first segment** is put out as a table if it has lines, and the others under the sets after
    the first. -/
theorem showsBody_cons {past : List String} {rows : List (List String)}
    (gathered : Gathered headerSets past rows) {segments : List (List String)}
    {tables : List Table} (others : ShowsBody headerSets.tail segments tables) :
    ShowsBody headerSets (past :: segments) (gather headerSets rows ++ tables) := by
  have later : List.Forall₂ (ShowsSegment headerSets)
      ((segments.zipIdx 1).filter (·.1 ≠ [])) tables := by
    rw [List.zipIdx_succ, List.filter_map, List.forall₂_map_left_iff]
    refine others.imp fun segment table shows => ?_
    rwa [ShowsSegment, List.getElem?_tail] at shows
  rw [ShowsBody, List.zipIdx_cons, List.filter_cons]
  cases headerSets with
  | nil =>
    obtain ⟨rfl, rfl⟩ := gathered.none rfl
    simpa [gather] using later
  | cons headers sets =>
    cases gathered.isRows headers rfl with
    | nil => simpa [gather] using later
    | cons first more => exact .cons ⟨rfl, .cons first more⟩ later

/-- Nothing in front of the first segment. -/
theorem modifyHead_nil_append (segments : List (List String)) :
    segments.modifyHead ([] ++ ·) = segments := by
  cases segments <;> rfl

/-- **The scan puts out the tables of the segments,** the first of which has the lines of the rows
    that have been gathered. -/
theorem split_shows (columns : ∀ headers ∈ headerSets, headers ≠ []) {past : List String}
    {rows : List (List String)} (gathered : Gathered headerSets past rows) {tables : List Table}
    (read : split headerSets rows body = .ok tables) :
    ShowsBody headerSets ((body.splitOnP isSeparator).modifyHead (past ++ ·)) tables := by
  fun_induction split headerSets rows body generalizing past tables with
  | case1 headerSets rows =>
    cases read
    have done : ShowsBody headerSets.tail [] [] := .nil
    simpa using showsBody_cons gathered done
  | case2 headerSets rows line rest separator tables' read' ih =>
    cases read
    have others := ih (fun headers mem => columns headers (List.mem_of_mem_tail mem)) (.nil _) read'
    rw [modifyHead_nil_append] at others
    rw [List.splitOnP_cons_eq_if_modifyHead, if_pos separator]
    simpa using showsBody_cons gathered others
  | case3 => cases read
  | case4 => cases read
  | case5 => cases read
  | case6 rows line rest row headers sets enough ih =>
    -- the line joins the lines before it, and its cells the rows
    have pos : 0 < headers.length := List.length_pos_iff.mpr (columns headers (by simp))
    have isRow : IsRow headers.length line (cellsOf headers.length line) := by
      rw [length_cellsOf] at enough
      exact (isRow_iff pos).mpr ⟨by omega, rfl⟩
    have joined : Gathered (headers :: sets) (past ++ [line])
        (rows ++ [cellsOf headers.length line]) := by
      refine ⟨?_, nofun⟩
      rintro _ ⟨⟩
      exact List.rel_append (gathered.isRows headers rfl) (.cons isRow .nil)
    have shows := ih columns joined read
    rw [List.splitOnP_cons_eq_if_modifyHead, if_neg row]
    obtain ⟨first, others, segments⟩ := List.exists_cons_of_ne_nil
      (List.splitOnP_ne_nil isSeparator rest)
    simpa [segments] using shows

/-- No two lists of tables show the same segments. -/
theorem ShowsBody.unique (columns : ∀ headers ∈ headerSets, headers ≠ [])
    {segments : List (List String)} {tables other : List Table}
    (shows : ShowsBody headerSets segments tables) (shows' : ShowsBody headerSets segments other) :
    tables = other := by
  have one : Relator.RightUnique (ShowsSegment headerSets) := by
    rintro segment ⟨headers, rows⟩ ⟨headers', rows'⟩ ⟨set, isRows⟩ ⟨set', isRows'⟩
    obtain rfl : headers = headers' := Option.some.inj (set.symm.trans set')
    have pos : 0 < headers.length := List.length_pos_iff.mpr (columns _ (List.mem_of_getElem? set))
    have row : Relator.RightUnique (IsRow headers.length) := by
      intro line cells cells' isRow isRow'
      rw [((isRow_iff pos).mp isRow).2, ((isRow_iff pos).mp isRow').2]
    have same : rows = rows' := row.forall₂ isRows isRows'
    rw [same]
  exact one.forall₂ shows shows'

/-- **The tables of a body, exactly.**  There are none exactly if a line is at fault, and then the
    first such line tells why.  Otherwise there is one for each segment that has lines, in order: its
    headers are the header set with the number of the segment, and it has one row for each line, in
    order, with a cell for each header. -/
theorem tables_exact (columns : ∀ headers ∈ headerSets, headers ≠ []) (body : List String) :
    (∀ cause, ofBody headerSets body = .error cause ↔ FirstFault headerSets body cause)
      ∧ ∀ tables, ofBody headerSets body = .ok tables
          ↔ (∀ i cause, ¬ FaultAt headerSets body i cause)
            ∧ ShowsBody headerSets (body.splitOnP isSeparator) tables := by
  have fails := split_error_iff headerSets [] body
  have shows : ∀ {tables}, ofBody headerSets body = .ok tables →
      ShowsBody headerSets (body.splitOnP isSeparator) tables := by
    intro tables read
    have shown := split_shows columns (.nil _) read
    rwa [modifyHead_nil_append] at shown
  refine ⟨fails, fun tables => ⟨fun read => ⟨fun i cause faulty => ?_, shows read⟩, ?_⟩⟩
  · obtain ⟨cause, first⟩ := faulty.first
    rw [ofBody, (fails cause).mpr first] at read
    cases read
  · rintro ⟨good, shown⟩
    cases read : ofBody headerSets body with
    | error cause =>
      obtain ⟨i, faulty, -⟩ := (fails cause).mp read
      exact absurd faulty (good i cause)
    | ok other => rw [(shows read).unique columns shown]

/-- An empty second segment takes its header set with it, and the last cell keeps its `=`. -/
theorem tables_exact_passed_over :
    ofBody [["By Position"], ["By Name"], ["Key", "Value"]]
        ["x", "---", " --- ", "a = b = c"]
      = .ok [⟨["By Position"], [["x"]]⟩, ⟨["Key", "Value"], [["a", "b = c"]]⟩]
      ∧ ¬ FirstFault [["By Position"], ["By Name"], ["Key", "Value"]]
          ["x", "---", " --- ", "a = b = c"] .tooFewCells
      ∧ FirstFault [["Key", "Value"]] ["a = b", "c", "---", "d"] .tooFewCells := by
  have read : ofBody [["By Position"], ["By Name"], ["Key", "Value"]]
      ["x", "---", " --- ", "a = b = c"]
        = .ok [⟨["By Position"], [["x"]]⟩, ⟨["Key", "Value"], [["a", "b = c"]]⟩] := by
    decide +kernel
  have good := ((tables_exact (by decide) _).2 _).mp read
  refine ⟨read, fun ⟨i, faulty, _⟩ => good.1 i _ faulty, ?_⟩
  exact ((tables_exact (by decide) _).1 _).mp (by decide +kernel)

end DocComments.Table
