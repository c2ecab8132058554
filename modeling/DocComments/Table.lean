/-
  The tables in the body of a Table node.

  A line whose trimmed text is `---` ends a table and passes on to the next header set.  Any other
  line is a row: it is cut at `=` into as many cells as its header set has columns, the last cell
  keeping any further `=`, and the cells are trimmed.  A table without rows is left out, but its
  header set is passed over all the same.  A row with no header set left, or with too few cells,
  refuses the whole body.
-/
import DocComments.Document

namespace DocComments

/-- One table: the column headings and the rows. -/
structure Table where
  headers : List String
  rows : List (List String)
deriving Repr, DecidableEq, Inhabited

namespace Table

/-- The line that ends a table. -/
def isSeparator (line : String) : Bool := Text.strip line == "---"

/-- The cells of a row with a given number of columns. -/
def cellsOf (columns : Nat) (line : String) : List String :=
  (Text.piecesAtMost '=' columns line.toList).map fun cell => String.ofList (Text.trim cell)

/-- The table of the rows gathered so far, if there are any. -/
def gather (headerSets : List (List String)) (rows : List (List String)) : List Table :=
  match headerSets, rows with
  | headers :: _, _ :: _ => [⟨headers, rows⟩]
  | _, _ => []

/-- The tables of a body: the header sets not passed over yet, the rows of the present table, and
    the lines to come. -/
def split (headerSets : List (List String)) (rows : List (List String)) :
    List String → Except Cause (List Table)
  | [] => .ok (gather headerSets rows)
  | line :: rest =>
    if isSeparator line then
      match split headerSets.tail [] rest with
      | .ok tables => .ok (gather headerSets rows ++ tables)
      | .error cause => .error cause
    else
      match headerSets with
      | [] => .error .tooManyTables
      | headers :: _ =>
        if (cellsOf headers.length line).length ≠ headers.length then .error .tooFewCells
        else split headerSets (rows ++ [cellsOf headers.length line]) rest

/-- The tables of a body with its header sets. -/
def ofBody (headerSets : List (List String)) (body : List String) : Except Cause (List Table) :=
  split headerSets [] body

end Table

/-- The tables of a Table node; other nodes have none to ask for. -/
def Node.tables? (node : Node) : Option (Except Cause (List Table)) :=
  node.headerSets?.map fun sets => Table.ofBody sets node.body

end DocComments
