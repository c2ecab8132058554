/-
  White space, and what trimming does to a text.

  A text is worked on as its list of characters.  "Blank" is the Unicode property White_Space:
  the tab-to-carriage-return run, the space, NEL, the no-break space and the wider spaces of
  general punctuation.  It is NOT the set of invisible characters: U+200B, U+FEFF, U+180E and the
  information separators U+001C..U+001F are no blanks.

  `trim` removes blanks at both ends and nothing inside:
    * `head_trimStart_not_blank`  what is left does not begin with a blank;
    * `trim_trimEnd`              trimming one end first makes no difference;
    * `trim_trim`                 what has been trimmed stays as it is.
-/

namespace DocComments.Text

/-- A point lies in one of the inclusive ranges of a table. -/
def inRanges (table : List (Nat × Nat)) (point : Nat) : Bool :=
  table.any fun range => range.1 ≤ point && point ≤ range.2

/-- The ranges of the Unicode property White_Space. -/
def blankRanges : List (Nat × Nat) :=
  [(0x09, 0x0d), (0x20, 0x20), (0x85, 0x85), (0xa0, 0xa0), (0x1680, 0x1680), (0x2000, 0x200a),
   (0x2028, 0x2029), (0x202f, 0x202f), (0x205f, 0x205f), (0x3000, 0x3000)]

/-- White space in the sense of Unicode's White_Space property. -/
def isBlank (c : Char) : Bool := inRanges blankRanges c.toNat

/-! ## Trimming a list of characters -/

/-- The text without its leading blanks. -/
def trimStart (cs : List Char) : List Char := cs.dropWhile isBlank

/-- The text without its trailing blanks. -/
def trimEnd (cs : List Char) : List Char := (cs.reverse.dropWhile isBlank).reverse

/-- The text without the blanks at either end. -/
def trim (cs : List Char) : List Char := trimEnd (trimStart cs)

/-- Blanks in front are trimmed off, whatever follows them. -/
theorem trim_append {front : List Char} (h : ∀ c ∈ front, isBlank c = true) (cs : List Char) :
    trim (front ++ cs) = trim cs := by
  rw [trim, trim, trimStart, trimStart, List.dropWhile_append_of_pos h]

theorem trim_cons {c : Char} (h : isBlank c = true) (cs : List Char) : trim (c :: cs) = trim cs := by
  rw [trim, trim, trimStart, trimStart, List.dropWhile_cons_of_pos h]

/-- What is left after `trimStart` does not begin with a blank. -/
theorem head_trimStart_not_blank {cs rest : List Char} {c : Char}
    (h : trimStart cs = c :: rest) : isBlank c = false := by
  have hd := List.head?_dropWhile_not isBlank cs
  rw [trimStart] at h
  rw [h] at hd
  simpa using hd

/-! ## Both ends are independent -/

theorem trimStart_cons_of_not_blank {c : Char} (h : isBlank c = false) (cs : List Char) :
    trimStart (c :: cs) = c :: cs := by
  rw [trimStart, List.dropWhile_cons_of_neg (by simp [h])]

/-- A first character stays unless it is a blank and nothing stays after it. -/
theorem trimEnd_cons (c : Char) (cs : List Char) :
    trimEnd (c :: cs) = if trimEnd cs = [] ∧ isBlank c then [] else c :: trimEnd cs := by
  rw [trimEnd, trimEnd, List.reverse_cons, List.dropWhile_append]
  cases rest : cs.reverse.dropWhile isBlank with
  | nil => cases blank : isBlank c <;> simp [blank]
  | cons d ds => simp

theorem trimEnd_cons_of_not_blank {c : Char} (h : isBlank c = false) (cs : List Char) :
    trimEnd (c :: cs) = c :: trimEnd cs := by
  rw [trimEnd_cons, if_neg (by simp [h])]

theorem trimStart_trimEnd (cs : List Char) : trimStart (trimEnd cs) = trimEnd (trimStart cs) := by
  induction cs with
  | nil => rfl
  | cons c cs ih =>
    cases blank : isBlank c with
    | true =>
      have skipped : ∀ l, trimStart (c :: l) = trimStart l := by
        intro l
        rw [trimStart, trimStart, List.dropWhile_cons_of_pos blank]
      rw [skipped, ← ih, trimEnd_cons]
      split
      · rename_i nothing
        rw [nothing.1]
      · exact skipped _
    | false =>
      rw [trimStart_cons_of_not_blank blank, trimEnd_cons_of_not_blank blank,
        trimStart_cons_of_not_blank blank]

theorem trimEnd_trimEnd (cs : List Char) : trimEnd (trimEnd cs) = trimEnd cs := by
  induction cs with
  | nil => rfl
  | cons c cs ih =>
    rw [trimEnd_cons]
    split
    · rfl
    · rename_i stays
      rw [trimEnd_cons, ih, if_neg stays]

/-- Trimming the end first makes no difference. -/
theorem trim_trimEnd (cs : List Char) : trim (trimEnd cs) = trim cs := by
  rw [trim, trim, trimStart_trimEnd, trimEnd_trimEnd]

theorem trimStart_trimStart (cs : List Char) : trimStart (trimStart cs) = trimStart cs := by
  cases start : trimStart cs with
  | nil => rfl
  | cons c rest => exact trimStart_cons_of_not_blank (head_trimStart_not_blank start) rest

/-- A trimmed text has nothing to trim. -/
theorem trim_trim (cs : List Char) : trim (trim cs) = trim cs := by
  conv => lhs; rw [trim, trim, trimStart_trimEnd, trimEnd_trimEnd, trimStart_trimStart]
  rfl

/-! ## Trimming strings -/

/-- The string without the blanks at either end. -/
def strip (s : String) : String := String.ofList (trim s.toList)

theorem trim_strip (s : String) : trim (strip s).toList = trim s.toList := by
  rw [strip, String.toList_ofList, trim_trim]

theorem strip_strip (s : String) : strip (strip s) = strip s := by
  rw [strip, trim_strip, strip]

end DocComments.Text
