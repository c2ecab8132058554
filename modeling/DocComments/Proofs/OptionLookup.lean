/-
  Looking up an option.

  The tokens of an option list are flags and assignments, and both can name one key.  What a look-up
  answers is told here from the tokens alone (`IsFlag`, `Assigns`), without the entries that are made
  of them.  The value of a key should be that of the first token that assigns one (`FirstValue`).
  The look-up goes to the first token that names the key, whether it assigns a value or not; so a
  flag that stands before the first assignment hides it, and nothing else does.

    * `entryOf_eq_assigned`, `entryOf_eq_flag`   an entry tells which token it has been made of;
    * `value_hidden_by_flag`                     the look-ups exactly, and which definitions of a
                                                 table are refused for them;
    * `flag_hides_value`                         a definition whose header sets are not found.
-/
import DocComments.Proofs.Calls

namespace DocComments

namespace OptionList

variable {token key value raw : String} {before : List String}

/-! ## Tokens -/

/-- The tokens of a text: what stands between its semicolons, trimmed, without the empty ones. -/
def tokens (raw : String) : List String :=
  ((Text.splitAt ';' raw).map Text.strip).filter (· ≠ "")

/-- The token is the key alone. -/
def IsFlag (token key : String) : Prop := token = key ∧ '=' ∉ token.toList

/-- The token has the key, up to blanks around it, before its first `=`, and the value after that. -/
def Assigns (token key value : String) : Prop :=
  ∃ front, token = front ++ "=" ++ value ∧ '=' ∉ front.toList ∧ Text.strip front = key

/-- The value that the first of the tokens assigns that assign the key one; `before` are the tokens
    before it. -/
structure FirstValue (raw key : String) (before : List String) (value : String) : Prop where
  place : ∃ token after, tokens raw = before ++ token :: after ∧ Assigns token key value
  first : ∀ token ∈ before, ∀ other, ¬ Assigns token key other

theorem entries_ofText (raw : String) : (ofText raw).entries = (tokens raw).map entryOf := rfl

/-- **An assignment** is what an entry with a value is made of. -/
theorem entryOf_eq_assigned : entryOf token = (key, some value) ↔ Assigns token key value := by
  constructor
  · intro made
    unfold entryOf Text.splitOnce at made
    cases cut : Text.cutOnce '=' token.toList with
    | none => simp [cut] at made
    | some halves =>
      obtain ⟨front, rest⟩ := halves
      obtain ⟨whole, free⟩ := Text.eq_of_cutOnce cut
      simp only [cut, Option.map_some, Prod.mk.injEq, Option.some.injEq] at made
      obtain ⟨named, rfl⟩ := made
      refine ⟨String.ofList front, ?_, by simpa using free, named⟩
      rw [← String.toList_inj, whole]
      simp
  · rintro ⟨front, rfl, free, named⟩
    have whole : (front ++ "=" ++ value).toList = front.toList ++ '=' :: value.toList := by simp
    rw [entryOf, Text.splitOnce, whole, Text.cutOnce_append free]
    simp [named]

/-- **A flag** is what an entry without a value is made of. -/
theorem entryOf_eq_flag : entryOf token = (key, none) ↔ IsFlag token key := by
  unfold entryOf Text.splitOnce
  cases cut : Text.cutOnce '=' token.toList with
  | none => simp [IsFlag, Text.cutOnce_eq_none.mp cut]
  | some halves =>
    obtain ⟨front, rest⟩ := halves
    have there : '=' ∈ token.toList := by
      rw [(Text.eq_of_cutOnce cut).1]
      exact List.mem_append_right front (List.mem_cons_self ..)
    simp [IsFlag, there]

/-- A token that names the key is one of the two. -/
theorem fst_entryOf :
    (entryOf token).1 = key ↔ IsFlag token key ∨ ∃ value, Assigns token key value := by
  constructor
  · rintro rfl
    cases given : (entryOf token).2 with
    | none => exact .inl (entryOf_eq_flag.mp (Prod.ext rfl given))
    | some value => exact .inr ⟨value, entryOf_eq_assigned.mp (Prod.ext rfl given)⟩
  · rintro (flag | ⟨value, assigned⟩)
    · rw [entryOf_eq_flag.mpr flag]
    · rw [entryOf_eq_assigned.mpr assigned]

/-- The token assigns the key some value. -/
def givesValue (key token : String) : Bool :=
  (entryOf token).1 == key && (entryOf token).2.isSome

theorem givesValue_iff : givesValue key token = true ↔ ∃ value, Assigns token key value := by
  rw [givesValue, Bool.and_eq_true, beq_iff_eq, Option.isSome_iff_exists]
  constructor
  · rintro ⟨rfl, value, given⟩
    exact ⟨value, entryOf_eq_assigned.mp (Prod.ext rfl given)⟩
  · rintro ⟨value, assigned⟩
    rw [entryOf_eq_assigned.mpr assigned]
    exact ⟨rfl, value, rfl⟩

/-- A first value told by the entries. -/
theorem FirstValue.of_entries {after : List String} (place : tokens raw = before ++ token :: after)
    (made : entryOf token = (key, some value))
    (earlier : ∀ other ∈ before, givesValue key other = false) :
    FirstValue raw key before value := by
  refine ⟨⟨token, after, place, entryOf_eq_assigned.mp made⟩, fun other mem value' assigned => ?_⟩
  have gives := earlier other mem
  rw [givesValue_iff.mpr ⟨value', assigned⟩] at gives
  cases gives

/-! ## Look-ups -/

theorem has_iff : (ofText raw).has key = true
    ↔ ∃ token ∈ tokens raw, IsFlag token key ∨ ∃ value, Assigns token key value := by
  rw [has, entries_ofText, List.any_map, List.any_eq_true]
  refine exists_congr fun token => and_congr_right fun _ => ?_
  exact beq_iff_eq.trans fst_entryOf

/-- The first token that names the key gives the answer, with its value or without. -/
theorem value?_of_named {token : String} {after : List String}
    (place : tokens raw = before ++ token :: after)
    (unnamed : ∀ other ∈ before, (entryOf other).1 ≠ key) (named : (entryOf token).1 = key) :
    (ofText raw).value? key = (entryOf token).2 := by
  have nothing : (before.map entryOf).find? (·.1 == key) = none := by
    simpa [List.find?_eq_none] using unnamed
  rw [value?, entries_ofText, place, List.map_append, List.find?_append, nothing, List.map_cons,
    List.find?_cons_of_pos (by simpa using named)]
  rfl

theorem value?_of_unassigned
    (unassigned : ∀ token ∈ tokens raw, ∀ value, ¬ Assigns token key value) :
    (ofText raw).value? key = none := by
  rw [value?, entries_ofText, List.find?_map, Option.bind_map]
  cases found : (tokens raw).find? ((·.1 == key) ∘ entryOf) with
  | none => rfl
  | some token =>
    have named : (entryOf token).1 = key := by simpa using List.find?_some found
    rcases fst_entryOf.mp named with flag | ⟨value, assigned⟩
    · rw [Option.bind_some, Function.comp_apply, entryOf_eq_flag.mpr flag]
    · exact absurd assigned (unassigned token (List.mem_of_find?_eq_some found) value)

/-- **The first value is found** where no flag stands before it. -/
theorem FirstValue.found (first : FirstValue raw key before value)
    (plain : ∀ token ∈ before, ¬ IsFlag token key) : (ofText raw).value? key = some value := by
  obtain ⟨token, after, place, assigned⟩ := first.place
  have made := entryOf_eq_assigned.mpr assigned
  have unnamed : ∀ other ∈ before, (entryOf other).1 ≠ key := by
    intro other mem named
    rcases fst_entryOf.mp named with flag | ⟨value', assigned'⟩
    · exact plain other mem flag
    · exact first.first other mem value' assigned'
  rw [value?_of_named place unnamed (by rw [made]), made]

/-- **A flag before the first value hides it.** -/
theorem FirstValue.hidden (first : FirstValue raw key before value) {flag : String}
    (mem : flag ∈ before) (isFlag : IsFlag flag key) : (ofText raw).value? key = none := by
  obtain ⟨token, after, place, -⟩ := first.place
  -- of the tokens that name the key, the first is a flag: no token before the value assigns one
  have named : (before.find? fun other => (entryOf other).1 == key).isSome := by
    rw [List.find?_isSome]
    exact ⟨flag, mem, by simp [entryOf_eq_flag.mpr isFlag]⟩
  obtain ⟨other, found⟩ := Option.isSome_iff_exists.mp named
  have named : (entryOf other).1 = key := by simpa using List.find?_some found
  obtain ⟨front, back, split, unnamed⟩ := (List.find?_eq_some_iff_append.mp found).2
  rw [split, List.append_assoc] at place
  rw [value?_of_named place (by simpa using unnamed) named]
  rcases fst_entryOf.mp named with isFlag | ⟨value, assigned⟩
  · rw [entryOf_eq_flag.mpr isFlag]
  · exact absurd assigned (first.first other (List.mem_of_find?_eq_some found) value)

/-- Some token is the first that assigns the key a value, if any does. -/
theorem exists_firstValue (given : ∃ token ∈ tokens raw, ∃ value, Assigns token key value) :
    ∃ before value, FirstValue raw key before value := by
  obtain ⟨token, mem, assigned⟩ := given
  have there : ((tokens raw).find? (givesValue key)).isSome :=
    List.find?_isSome.mpr ⟨token, mem, givesValue_iff.mpr assigned⟩
  obtain ⟨first, found⟩ := Option.isSome_iff_exists.mp there
  obtain ⟨isFirst, before, after, split, earlier⟩ := List.find?_eq_some_iff_append.mp found
  obtain ⟨value, assigned⟩ := givesValue_iff.mp isFirst
  refine ⟨before, value, .of_entries split (entryOf_eq_assigned.mpr assigned) ?_⟩
  simpa using earlier

/-- A value is found exactly if some first value has no flag before it. -/
theorem value?_eq_none_iff : (ofText raw).value? key = none
    ↔ ¬ ∃ before value, FirstValue raw key before value ∧ ∀ token ∈ before, ¬ IsFlag token key := by
  constructor
  · rintro missing ⟨before, value, first, plain⟩
    rw [first.found plain] at missing
    cases missing
  · intro hidden
    by_cases given : ∃ token ∈ tokens raw, ∃ value, Assigns token key value
    · obtain ⟨before, value, first⟩ := exists_firstValue given
      by_cases flagged : ∃ token ∈ before, IsFlag token key
      · obtain ⟨flag, mem, isFlag⟩ := flagged
        exact first.hidden mem isFlag
      · refine absurd ⟨before, value, first, fun token mem isFlag => ?_⟩ hidden
        exact flagged ⟨token, mem, isFlag⟩
    · exact value?_of_unassigned fun token mem value assigned => given ⟨token, mem, value, assigned⟩

/-! ## Definitions of tables -/

/-- The options ask for a table: they have the word, and none of those that come before it. -/
structure SelectsTable (opts : OptionList) : Prop where
  table : opts.has "Table" = true
  noNumbers : opts.has "NumList" = false
  noBullets : opts.has "BulletList" = false

/-- **Header sets are missing** exactly where a table is asked for and no header text is found. -/
theorem missingHeaders_iff (opts : OptionList) :
    Rule.ofOptions opts = .error .missingHeaders
      ↔ opts.SelectsTable ∧ opts.value? "Headers" = none := by
  have kind : Rule.ofOptions opts = .error .missingHeaders
      ↔ LeafKind.ofOptions opts = .error .missingHeaders := by
    unfold Rule.ofOptions
    cases LeafKind.ofOptions opts with
    | error cause => simp
    | ok kind => simp
  rw [kind]
  constructor
  · intro missing
    unfold LeafKind.ofOptions at missing
    split at missing
    · cases missing
    rename_i noNumbers
    split at missing
    · cases missing
    rename_i noBullets
    split at missing
    · rename_i table
      cases given : opts.value? "Headers" with
      | none => exact ⟨⟨table, by simpa using noNumbers, by simpa using noBullets⟩, rfl⟩
      | some text => simp [given] at missing
    · repeat' split at missing
      all_goals cases missing
  · rintro ⟨⟨table, noNumbers, noBullets⟩, missing⟩
    simp [LeafKind.ofOptions, table, noNumbers, noBullets, missing]

theorem define_missingHeaders_iff (w : Walk) (block : Block) :
    (w.define block).2 = .rejected .missingHeaders
      ↔ block.subtitle ≠ "" ∧ Rule.ofOptions block.options = .error .missingHeaders := by
  unfold Walk.define Registry.define
  by_cases unnamed : block.subtitle = ""
  · simp [unnamed]
  · cases Rule.ofOptions block.options with
    | error cause => simp [unnamed]
    | ok rule => simp [unnamed]

/-- **Look-ups in an option list, exactly.**  A key is there if some token is the key as a flag or
    assigns it a value.  If no token assigns it a value, none is found.  Otherwise the value of the
    first token that does is found, unless the key stands before that token as a flag; then none is.
    A definition is refused for want of header sets exactly if it names a title and selects a table,
    and every first `Headers=` token, if there is one, has a flag `Headers` before it. -/
theorem value_hidden_by_flag (raw key : String) :
    ((ofText raw).has key = true
        ↔ ∃ token ∈ tokens raw, IsFlag token key ∨ ∃ value, Assigns token key value)
      ∧ ((∀ token ∈ tokens raw, ∀ value, ¬ Assigns token key value) →
          (ofText raw).value? key = none)
      ∧ (∀ before value, FirstValue raw key before value →
          ((∀ token ∈ before, ¬ IsFlag token key) → (ofText raw).value? key = some value)
            ∧ ((∃ token ∈ before, IsFlag token key) → (ofText raw).value? key = none))
      ∧ ∀ (w : Walk) (block : Block), block.options = ofText raw →
          ((w.define block).2 = .rejected .missingHeaders
            ↔ block.subtitle ≠ "" ∧ (ofText raw).SelectsTable
              ∧ ¬ ∃ before value, FirstValue raw "Headers" before value
                  ∧ ∀ token ∈ before, ¬ IsFlag token "Headers") := by
  refine ⟨has_iff, value?_of_unassigned, fun before value first => ⟨first.found, ?_⟩, ?_⟩
  · rintro ⟨flag, mem, isFlag⟩
    exact first.hidden mem isFlag
  · intro w block given
    rw [define_missingHeaders_iff, given, missingHeaders_iff, value?_eq_none_iff]

/-- The first of two values is found, with its blanks, and a flag after it does no harm. -/
theorem value_hidden_by_flag_afterwards :
    let raw := "Table; Headers = a=b ;Headers;Headers=c"
    (ofText raw).value? "Headers" = some " a=b"
      ∧ (({} : Walk).define
          { title := "DefineHeader", subtitle := "Grid", body := [], origin := ⟨"a", 1⟩,
            options := ofText raw }).2 ≠ .rejected .missingHeaders := by
  intro raw
  have place : tokens raw = ["Table"] ++ "Headers = a=b" :: ["Headers", "Headers=c"] := by
    decide +kernel
  have first : FirstValue raw "Headers" ["Table"] " a=b" :=
    .of_entries place (by decide +kernel) (by decide +kernel)
  have plain : ∀ token ∈ ["Table"], ¬ IsFlag token "Headers" := by
    intro token mem isFlag
    obtain rfl := List.mem_singleton.mp mem
    exact absurd isFlag.1 (by decide)
  have exactly := value_hidden_by_flag raw "Headers"
  refine ⟨(exactly.2.2.1 _ _ first).1 plain, fun refused => ?_⟩
  obtain ⟨-, -, missing⟩ := (exactly.2.2.2 _ _ rfl).mp refused
  exact missing ⟨_, _, first, plain⟩

/-- **A definition whose header sets are not found:** the first token that assigns `Headers` a value
    assigns it `A`, and yet none is found, and the definition is refused because there is none. -/
theorem flag_hides_value :
    let raw := "Table;Headers;Headers=A"
    FirstValue raw "Headers" ["Table", "Headers"] "A"
      ∧ (ofText raw).value? "Headers" = none
      ∧ (ofText raw).SelectsTable
      ∧ ((Session.start {}).after [.readLines
            ["// DefineHeader(Table;Headers;Headers=A): Grid"] "a"]).log.entries
          = [⟨⟨"a", 1⟩, .failure, Rejection.message ⟨"DefineHeader", .missingHeaders⟩⟩] := by
  intro raw
  have place : tokens raw = ["Table", "Headers"] ++ "Headers=A" :: [] := by decide +kernel
  have first : FirstValue raw "Headers" ["Table", "Headers"] "A" :=
    .of_entries place (by decide +kernel) (by decide +kernel)
  exact ⟨first, by decide +kernel, ⟨by decide +kernel, by decide +kernel, by decide +kernel⟩,
    by decide +kernel⟩

end OptionList

end DocComments
