/-
  TOML values, and how the statements of a document build its tables.

  A table remembers how it came about, because that decides what may still be added to it:
    * `inline`  written out between braces; complete as it stands;
    * `header`  opened by a `[header]`; another header may not open it again;
    * `parent`  passed through by a longer header; a header of its own may still open it;
    * `dotted`  passed through by a dotted key; further dotted keys may add to it.
  `[[header]]` makes an array of tables, whose last table is the one that later keys reach.

  `insert` and `openHeader` are partial: they fail on every redefinition.
-/

namespace DocComments.Toml

/-- How a table came about. -/
inductive Making where
  | inline
  | header
  | parent
  | dotted
deriving Repr, DecidableEq, Inhabited

/-- A value.  Floats and dates are kept as they are written. -/
inductive Value where
  | string (s : String)
  | integer (n : Int)
  | boolean (b : Bool)
  | float (text : String)
  | date (text : String)
  | array (items : List Value)
  | table (making : Making) (entries : List (String × Value))
  | tables (elements : List (List (String × Value)))
deriving Repr, Inhabited

/-- The keys of a table with their values. -/
abbrev Entries := List (String × Value)

namespace Entries

/-- The entries with the value of a key replaced. -/
def replace (entries : Entries) (key : String) (value : Value) : Entries :=
  entries.map fun entry => if entry.1 = key then (key, value) else entry

end Entries

/-- Add a value under a dotted key.  `direct` says that the table itself may take a new key: a table
    that was made by a header, or passed through by one, takes none from a dotted key outside it. -/
def insert (value : Value) (direct : Bool) : List String → Entries → Option Entries
  | [], _ => none
  | [key], entries =>
    if direct && (entries.lookup key).isNone then some (entries ++ [(key, value)]) else none
  | key :: path, entries =>
    match entries.lookup key with
    | none => (insert value true path []).map fun sub => entries ++ [(key, .table .dotted sub)]
    | some (.table .dotted sub) =>
      (insert value true path sub).map fun sub => entries.replace key (.table .dotted sub)
    | some (.table .parent sub) =>
      (insert value false path sub).map fun sub => entries.replace key (.table .parent sub)
    | some (.tables elements) =>
      match elements.getLast? with
      | none => none
      | some sub =>
        (insert value false path sub).map fun sub =>
          entries.replace key (.tables (elements.dropLast ++ [sub]))
    | some _ => none

/-- Add several values under dotted keys. -/
def insertAll (entries : Entries) (pairs : List (List String × Value)) : Option Entries :=
  pairs.foldlM (fun entries (path, value) => insert value true path entries) entries

/-- The table that a plain header opens: the key must be free, or its table must only have been
    passed through so far. -/
def openTable (pairs : List (List String × Value)) (key : String) (entries : Entries) :
    Option Entries :=
  match entries.lookup key with
  | none => (insertAll [] pairs).map fun sub => entries ++ [(key, .table .header sub)]
  | some (.table .parent sub) =>
    (insertAll sub pairs).map fun sub => entries.replace key (.table .header sub)
  | some _ => none

/-- The table that a double header adds to an array of tables. -/
def openElement (pairs : List (List String × Value)) (key : String) (entries : Entries) :
    Option Entries :=
  match entries.lookup key with
  | none => (insertAll [] pairs).map fun sub => entries ++ [(key, .tables [sub])]
  | some (.tables elements) =>
    (insertAll [] pairs).map fun sub => entries.replace key (.tables (elements ++ [sub]))
  | some _ => none

/-- Open the table at the end of a path, given how it is opened in the table that holds it. -/
def openHeader (opening : String → Entries → Option Entries) :
    List String → Entries → Option Entries
  | [], _ => none
  | [key], entries => opening key entries
  | key :: path, entries =>
    match entries.lookup key with
    | none => (openHeader opening path []).map fun sub => entries ++ [(key, .table .parent sub)]
    | some (.table .inline _) => none
    | some (.table making sub) =>
      (openHeader opening path sub).map fun sub => entries.replace key (.table making sub)
    | some (.tables elements) =>
      match elements.getLast? with
      | none => none
      | some sub =>
        (openHeader opening path sub).map fun sub =>
          entries.replace key (.tables (elements.dropLast ++ [sub]))
    | some _ => none

end DocComments.Toml
