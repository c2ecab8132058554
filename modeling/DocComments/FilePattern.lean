/-
  Shell-style patterns for file names.

    `?`       any one character;
    `*`       any run of characters, `/` included;
    `**`      any run of whole path components; it must be a component of its own;
    `[ab-z]`  one of these characters, `[!ab-z]` one that is none of these;
    other     the character itself.

  A class runs to the first `]` after its first member, so `]` itself can stand first.  Three stars
  in a row, `**` inside a component and a class that is never closed make a pattern malformed.

  Matching keeps the texts that may be left over after each token, all of them endings of the path;
  the pattern matches when the empty text is among them at the end.  Since the endings of one text
  are nested, a `*` needs to look at the longest of them only.
-/
import DocComments.Text.Split

namespace DocComments

/-- One element of a pattern.  A class is a list of inclusive character ranges. -/
inductive PatternToken where
  | char (c : Char)
  | anyChar
  | anyRun
  | anyComponents
  | within (ranges : List (Char × Char))
  | outside (ranges : List (Char × Char))
deriving Repr, DecidableEq, Inhabited

/-- A pattern: the text as written and its tokens. -/
structure FilePattern where
  text : String
  tokens : List PatternToken
deriving Repr, DecidableEq, Inhabited

namespace FilePattern

/-! ## Reading a pattern -/

/-- The ranges of a class: `a-z` is a range, any other member stands for itself. -/
def rangesOf : List Char → List (Char × Char)
  | a :: '-' :: b :: rest => (a, b) :: rangesOf rest
  | a :: rest => (a, a) :: rangesOf rest
  | [] => []

/-- The members of a class, which reach to the first `]` after the first of them, and what follows
    the class. -/
def takeMembers : List Char → Option (List Char × List Char)
  | [] => none
  | c :: cs => (Text.cutOnce ']' cs).map fun (members, rest) => (c :: members, rest)

/-- The class that starts after a `[`, and what follows it. -/
def takeClass : List Char → Option (PatternToken × List Char)
  | '!' :: cs => (takeMembers cs).map fun (members, rest) => (.outside (rangesOf members), rest)
  | cs => (takeMembers cs).map fun (members, rest) => (.within (rangesOf members), rest)

theorem length_lt_of_takeMembers {cs members rest : List Char}
    (h : takeMembers cs = some (members, rest)) : rest.length < cs.length := by
  cases cs with
  | nil => simp [takeMembers] at h
  | cons c cs =>
    simp only [takeMembers, Option.map_eq_some_iff, Prod.mk.injEq, Prod.exists] at h
    obtain ⟨front, back, found, -, rfl⟩ := h
    have := congrArg List.length (Text.eq_of_cutOnce found).1
    simp at this ⊢
    omega

theorem length_lt_of_takeClass {cs rest : List Char} {token : PatternToken}
    (h : takeClass cs = some (token, rest)) : rest.length < cs.length := by
  unfold takeClass at h
  split at h
  all_goals
    simp only [Option.map_eq_some_iff, Prod.mk.injEq, Prod.exists] at h
    obtain ⟨members, back, found, -, rfl⟩ := h
    have := length_lt_of_takeMembers found
    simp at this ⊢
    omega

/-- The tokens of a pattern; `atStart` says that a path component begins here. -/
def tokens? (atStart : Bool) : List Char → Option (List PatternToken)
  | [] => some []
  | '?' :: cs => (tokens? false cs).map (.anyChar :: ·)
  | '*' :: '*' :: '/' :: cs =>
    if atStart then (tokens? true cs).map (.anyComponents :: ·) else none
  | ['*', '*'] => if atStart then some [.anyComponents] else none
  | '*' :: '*' :: _ => none
  | '*' :: cs => (tokens? false cs).map (.anyRun :: ·)
  | '[' :: cs =>
    match _h : takeClass cs with
    | none => none
    | some (token, rest) => (tokens? false rest).map (token :: ·)
  | c :: cs => (tokens? (c == '/') cs).map (.char c :: ·)
termination_by cs => cs.length
decreasing_by all_goals grind [→ length_lt_of_takeClass]

/-- Read a pattern; malformed ones are refused. -/
def ofText? (text : String) : Option FilePattern :=
  (tokens? true text.toList).map fun tokens => ⟨text, tokens⟩

/-! ## Matching -/

/-- All endings of a text, longest first. -/
def endings : List Char → List (List Char)
  | [] => [[]]
  | c :: cs => (c :: cs) :: endings cs

/-- The endings of a text where a path component begins, and the end of the text. -/
def componentEndings : List Char → List (List Char)
  | [] => [[]]
  | c :: cs => if c = '/' then cs :: componentEndings cs else componentEndings cs

/-- A character lies in one of the ranges. -/
def inClass (ranges : List (Char × Char)) (c : Char) : Bool :=
  ranges.any fun range => range.1 ≤ c && c ≤ range.2

/-- The longest of some texts. -/
def longest (texts : List (List Char)) : List Char :=
  texts.foldl (fun best text => if best.length < text.length then text else best) []

/-- The character is one that a token for single characters takes. -/
def PatternToken.takes : PatternToken → Char → Bool
  | .char d, c => c == d
  | .anyChar, _ => true
  | .within ranges, c => inClass ranges c
  | .outside ranges, c => !inClass ranges c
  | .anyRun, _ => false
  | .anyComponents, _ => false

/-- What may be left over after one more token, given what may be left over before it. -/
def advance (left : List (List Char)) (token : PatternToken) : List (List Char) :=
  match token with
  | .anyRun => if left.isEmpty then [] else endings (longest left)
  | .anyComponents => (left ++ left.flatMap componentEndings).eraseDups
  | _ => left.filterMap fun cs =>
    match cs with
    | c :: rest => if PatternToken.takes token c then some rest else none
    | [] => none

/-- The pattern matches the whole of a path. -/
def accepts (pattern : FilePattern) (path : String) : Bool :=
  (pattern.tokens.foldl advance [path.toList]).any (·.isEmpty)

end FilePattern

end DocComments
