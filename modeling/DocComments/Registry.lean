/-
  The registry of block titles.

  It keeps two tables of rules.  The BASELINE holds the built-in rules, the default definitions and
  what the configuration source declared.  The ACTIVE table starts as a copy of the baseline at
  each source unit and takes the definitions of that unit; the next `reset` forgets them, so that
  no definition leaks from one unit into the next.

  A table is a list of titles with their rules, at most one for each title.

    * `lookup?_insert_self`, `lookup?_insert_of_ne`  an insertion shows at its own title only.
-/
import DocComments.Rule

namespace DocComments

/-- Titles with their rules. -/
abbrev RuleTable := List (String × Rule)

namespace RuleTable

/-- The rule of a title. -/
def lookup? (table : RuleTable) (title : String) : Option Rule := List.lookup title table

/-- The table with a new rule for a title, in place of an old one. -/
def insert (table : RuleTable) (title : String) (rule : Rule) : RuleTable :=
  match table with
  | [] => [(title, rule)]
  | (t, r) :: rest => if t = title then (title, rule) :: rest else (t, r) :: insert rest title rule

theorem lookup?_insert_self (table : RuleTable) (title : String) (rule : Rule) :
    (table.insert title rule).lookup? title = some rule := by
  fun_induction insert table title rule with
  | case1 => simp [lookup?]
  | case2 => simp [lookup?]
  | case3 t r rest hne ih =>
    have : (title == t) = false := by simpa using Ne.symm hne
    simpa [lookup?, List.lookup_cons, this] using ih

theorem lookup?_insert_of_ne (table : RuleTable) {title other : String} (rule : Rule)
    (h : other ≠ title) : (table.insert title rule).lookup? other = table.lookup? other := by
  have hb : (other == title) = false := by simpa using h
  fun_induction insert table title rule with
  | case1 => simp [lookup?, List.lookup_cons, hb]
  | case2 => simp [lookup?, List.lookup_cons, hb]
  | case3 t r rest hne ih => simp only [lookup?, List.lookup_cons] at ih ⊢; rw [ih]

end RuleTable

/-- The two tables of rules. -/
structure Registry where
  baseline : RuleTable := []
  active : RuleTable := []
deriving Repr, DecidableEq, Inhabited

namespace Registry

/-- The rules that no definition is needed for. -/
def builtinRules : RuleTable :=
  [("Status", { kind := .label, parent := some .item, hook := some .status }),
   ("Alias", { kind := .label, parent := some .item, hook := some .aliases }),
   ("Aliases", { kind := .label, parent := some .item, hook := some .aliases }),
   ("Arguments",
     { kind := .table [["By Position", "What it does"], ["By Name", "What it does"]],
       parent := some .item })]

/-- The registry of the built-in rules. -/
def builtin : Registry := ⟨builtinRules, builtinRules⟩

/-- Forget the rules defined since the last `commit`. -/
def reset (registry : Registry) : Registry := { registry with active := registry.baseline }

/-- Make the active rules the baseline. -/
def commit (registry : Registry) : Registry := { registry with baseline := registry.active }

/-- The active rule of a title. -/
def lookup? (registry : Registry) (title : String) : Option Rule := registry.active.lookup? title

/-- The title has an active rule. -/
def contains (registry : Registry) (title : String) : Bool := (registry.lookup? title).isSome

/-- Give a title, trimmed, an active rule. -/
def insert (registry : Registry) (title : String) (rule : Rule) : Registry :=
  { registry with active := registry.active.insert (Text.strip title) rule }

/-- Give a title the rule that an option list defines. -/
def define (registry : Registry) (title : String) (opts : OptionList) : Except Cause Registry :=
  match Rule.ofOptions opts with
  | .error cause => .error cause
  | .ok rule => .ok (registry.insert title rule)

/-- The active titles in order of their code points. -/
def titles (registry : Registry) : List String :=
  (registry.active.map (·.1)).mergeSort fun a b => decide (a ≤ b)

end Registry

end DocComments
