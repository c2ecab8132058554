/-
  What a block title means: the rule that says under which parent the block may stand, which kind
  of node it becomes, and what else it does to the item it stands in.

  A rule is built from the option list of a definition, for instance `(Table;ItemOnly;Headers=A|B)`.
  The kind words are tried in a fixed order, whatever their order in the list, and the first one
  present wins (`LeafKind.ofOptions`).  A table needs a `Headers=` value: the header sets, separated
  by `||`, each with its column headings separated by `|`.

    * `headerSetsOf_ne_nil`, `columns_ne_nil`  however a header text is written, there is at least
      one header set and each set has at least one column.
-/
import DocComments.OptionList
import DocComments.Rejection

namespace DocComments

/-! ## Kinds -/

/-- The kinds of nodes, without what a node of the kind carries. -/
inductive KindTag where
  | file | sect | subsect | item | text | label | list | table | sample | figure | generic
  | topics | seeAlso
deriving Repr, DecidableEq, Inhabited

/-- How the entries of a list are marked. -/
inductive ListStyle where
  | numbered
  | bulleted
deriving Repr, DecidableEq, Inhabited

/-- The kinds of leaf that a definition can ask for; a table brings its header sets. -/
inductive LeafKind where
  | text
  | label
  | list (style : ListStyle)
  | table (headerSets : List (List String))
  | sample
  | figure
  | generic
deriving Repr, DecidableEq, Inhabited

/-- What a block does to its item besides adding a node. -/
inductive Hook where
  /-- The item is deprecated when the subtitle says so. -/
  | status
  /-- The subtitle lists further names of the item. -/
  | aliases
deriving Repr, DecidableEq, Inhabited

/-- The rule for one title.  Without a parent kind any parent will do. -/
structure Rule where
  kind : LeafKind
  parent : Option KindTag := none
  hook : Option Hook := none
deriving Repr, DecidableEq, Inhabited

/-! ## Header sets -/

/-- Read header sets: `A|B||C|D` is `[[A, B], [C, D]]`. -/
def headerSetsOf (text : String) : List (List String) :=
  (Text.piecesAtPair '|' text.toList).map fun set =>
    (Text.pieces '|' set).map fun heading => String.ofList (Text.trim heading)

theorem piecesAtPair_ne_nil (sep : Char) (cs : List Char) : Text.piecesAtPair sep cs ≠ [] := by
  fun_induction Text.piecesAtPair sep cs with
  | case1 => simp
  | case2 => simp
  | case3 => simp
  | case4 c d cs _ ih =>
    cases h : Text.piecesAtPair sep (d :: cs) with
    | nil => exact absurd h ih
    | cons p ps => simp [Text.consFirst]

/-- There is always a header set. -/
theorem headerSetsOf_ne_nil (text : String) : headerSetsOf text ≠ [] := by
  simp [headerSetsOf, piecesAtPair_ne_nil]

/-- Each header set has a column. -/
theorem columns_ne_nil {text : String} {set : List String} (h : set ∈ headerSetsOf text) :
    set ≠ [] := by
  obtain ⟨piece, -, rfl⟩ := List.mem_map.mp h
  simp [Text.pieces_ne_nil]

/-! ## From a definition's options -/

/-- The word that opens a definition; it is also the title that its rejections name. -/
def defineTitle : String := "DefineHeader"

/-- The kind that an option list selects: the first of these words that it has, whatever their
    order in the list. -/
def LeafKind.ofOptions (opts : OptionList) : Except Cause LeafKind :=
  if opts.has "NumList" then .ok (.list .numbered)
  else if opts.has "BulletList" then .ok (.list .bulleted)
  else if opts.has "Table" then
    match opts.value? "Headers" with
    | none => .error .missingHeaders
    | some headers => .ok (.table (headerSetsOf headers))
  else if opts.has "Example" then .ok .sample
  else if opts.has "Figure" then .ok .figure
  else if opts.has "Label" then .ok .label
  else if opts.has "Text" then .ok .text
  else if opts.has "Generic" then .ok .generic
  else .error .unknownBlockType

/-- The rule that an option list defines; `ItemOnly` asks for an item as parent. -/
def Rule.ofOptions (opts : OptionList) : Except Cause Rule :=
  match LeafKind.ofOptions opts with
  | .error cause => .error cause
  | .ok kind => .ok { kind, parent := if opts.has "ItemOnly" then some .item else none }

/-- A rule that a definition makes has no hook. -/
theorem Rule.hook_ofOptions {opts : OptionList} {rule : Rule} (h : Rule.ofOptions opts = .ok rule) :
    rule.hook = none := by
  unfold Rule.ofOptions at h
  split at h
  · simp at h
  · obtain rfl := Except.ok.inj h
    rfl

end DocComments
