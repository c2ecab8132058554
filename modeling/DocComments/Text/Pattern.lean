/-
  Patterns: regular expressions with groups, as far as header lines need them.

  A pattern is matched by a whole text, and a match has captures: the texts of the groups it went
  through.  Matching is a relation (`Pattern.Matches`) and not a search.  Where a pattern can be
  matched in several ways each of them is a match, with captures of its own, so what is shown for
  all of them holds for the one that a search prefers.

  Each form of pattern has one lemma that says what its matches are (`matches_seq`, …), and nothing
  else here looks into the relation.
-/
import Mathlib.Data.List.Basic

namespace DocComments.Text

/-- A set of characters, as a pattern writes it: some ranges, all but some ranges, or all but the
    line feed. -/
inductive CharSet
  | among (ranges : List (Char × Char))
  | besides (ranges : List (Char × Char))
  | dot
deriving Repr, DecidableEq

namespace CharSet

/-- The character is in the set. -/
def Has : CharSet → Char → Prop
  | among ranges, c => ∃ range ∈ ranges, range.1 ≤ c ∧ c ≤ range.2
  | besides ranges, c => ∀ range ∈ ranges, ¬ (range.1 ≤ c ∧ c ≤ range.2)
  | dot, c => c ≠ '\n'

/-- How a range is written: from a character to another, or a character alone. -/
def rangeSource (range : Char × Char) : List Char :=
  if range.1 = range.2 then [range.1] else [range.1, '-', range.2]

/-- How a set is written. -/
def source : CharSet → List Char
  | among ranges => '[' :: ranges.flatMap rangeSource ++ [']']
  | besides ranges => '[' :: '^' :: ranges.flatMap rangeSource ++ [']']
  | dot => ['.']

end CharSet

/-- A pattern.  Groups carry their number. -/
inductive Pattern
  | text (written : List Char)
  | one (set : CharSet)
  | seq (first second : Pattern)
  | maybe (inner : Pattern)
  | many (inner : Pattern)
  | group (number : Nat) (inner : Pattern)
deriving Repr, DecidableEq

/-- The groups that a match went through, in the order in which they ended. -/
abbrev Captures := List (Nat × List Char)

/-- The text of a group: the last one where it was gone through more than once. -/
def Captures.group? (captures : Captures) (number : Nat) : Option (List Char) :=
  captures.reverse.lookup number

namespace Pattern

/-- How a pattern is written, the parentheses of its texts behind a backslash.  What may be absent
    or repeated is a character or a group here, so no other parentheses are needed. -/
def source : Pattern → List Char
  | text written => written.flatMap fun c => if c = '(' ∨ c = ')' then ['\\', c] else [c]
  | one set => set.source
  | seq first second => first.source ++ second.source
  | maybe inner => inner.source ++ ['?']
  | many inner => inner.source ++ ['*']
  | group _ inner => '(' :: inner.source ++ [')']

/-- The whole text matches the pattern, with these captures. -/
inductive Matches : Pattern → List Char → Captures → Prop
  | text {written : List Char} : Matches (text written) written []
  | one {set : CharSet} {c : Char} (has : set.Has c) : Matches (one set) [c] []
  | seq {p q : Pattern} {cs ds : List Char} {early late : Captures} (first : Matches p cs early)
    (second : Matches q ds late) : Matches (seq p q) (cs ++ ds) (early ++ late)
  | absent {p : Pattern} : Matches (maybe p) [] []
  | present {p : Pattern} {cs : List Char} {held : Captures} (inner : Matches p cs held) :
    Matches (maybe p) cs held
  | done {p : Pattern} : Matches (many p) [] []
  | more {p : Pattern} {cs ds : List Char} {early late : Captures} (inner : Matches p cs early)
    (rest : Matches (many p) ds late) : Matches (many p) (cs ++ ds) (early ++ late)
  | group {n : Nat} {p : Pattern} {cs : List Char} {held : Captures} (inner : Matches p cs held) :
    Matches (group n p) cs (held ++ [(n, cs)])

variable {p q : Pattern} {set : CharSet} {written cs : List Char} {n : Nat} {captures : Captures}

theorem matches_text : Matches (.text written) cs captures ↔ cs = written ∧ captures = [] := by
  constructor
  · intro found
    cases found with
    | text => exact ⟨rfl, rfl⟩
  · rintro ⟨rfl, rfl⟩
    exact .text

theorem matches_one :
    Matches (.one set) cs captures ↔ ∃ c, set.Has c ∧ cs = [c] ∧ captures = [] := by
  constructor
  · intro found
    cases found with
    | one has => exact ⟨_, has, rfl, rfl⟩
  · rintro ⟨c, has, rfl, rfl⟩
    exact .one has

/-- One pattern after another is matched by the front and the rest of a text. -/
theorem matches_seq :
    Matches (.seq p q) cs captures ↔ ∃ front rest early late,
      Matches p front early ∧ Matches q rest late ∧ cs = front ++ rest
        ∧ captures = early ++ late := by
  constructor
  · intro found
    cases found with
    | seq first second => exact ⟨_, _, _, _, first, second, rfl, rfl⟩
  · rintro ⟨front, rest, early, late, first, second, rfl, rfl⟩
    exact .seq first second

/-- What may be absent is matched by the empty text, or else by what is there. -/
theorem matches_maybe :
    Matches (.maybe p) cs captures ↔ (cs = [] ∧ captures = []) ∨ Matches p cs captures := by
  constructor
  · intro found
    cases found with
    | absent => exact .inl ⟨rfl, rfl⟩
    | present inner => exact .inr inner
  · rintro (⟨rfl, rfl⟩ | inner)
    · exact .absent
    · exact .present inner

/-- A group captures the text that matches it, after the groups inside. -/
theorem matches_group :
    Matches (.group n p) cs captures
      ↔ ∃ held, Matches p cs held ∧ captures = held ++ [(n, cs)] := by
  constructor
  · intro found
    cases found with
    | group inner => exact ⟨_, inner, rfl⟩
  · rintro ⟨held, inner, rfl⟩
    exact .group inner

/-- A repeated set is matched by the texts of its characters. -/
theorem matches_many_one :
    Matches (.many (.one set)) cs captures ↔ (∀ c ∈ cs, set.Has c) ∧ captures = [] := by
  constructor
  · intro found
    generalize repeated : Pattern.many (.one set) = p at found
    induction found with
    | done => simp
    | more inner rest _ ih =>
      cases repeated
      obtain ⟨c, has, rfl, rfl⟩ := matches_one.mp inner
      obtain ⟨within, rfl⟩ := ih rfl
      simpa using ⟨has, within⟩
    | _ => cases repeated
  · rintro ⟨within, rfl⟩
    induction cs with
    | nil => exact .done
    | cons c cs ih =>
      have rest := ih fun d mem => within d (List.mem_cons_of_mem c mem)
      exact .more (.one (within c List.mem_cons_self)) rest

end Pattern

end DocComments.Text
