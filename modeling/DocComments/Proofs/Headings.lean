/-
  The parts of a body.

  `splitAtHeadings` goes through the body of an item once.  At each line it looks at the next one,
  and where that underlines it, both are taken and a block begins.  What becomes of a body can be
  told without the walk: the body is the own lines and then the PARTS, each a heading, the line
  under it, and the lines below (`SubBlock`); and no line that is left over is underlined by the
  next (`Uncut`).  There is one way only to see a body like this (`splitAtHeadings_parts`), and
  every body can be seen so (`exists_parts`).

  The crux is what happens at the seams.  A heading is no underline, so the line before it is not
  underlined by it; and the line under a heading is an underline, so it is no heading itself.  A cut
  changes nothing on either side of it then (`splitAtHeadings_append`).

    * `uncut_iff`                 lines that stay together, told by their dashes;
    * `splitAtHeadings_of_mem`    where a block of a heading stands, and what is in it;
    * `splitAtHeadings_lossless`  nothing is lost, and nothing is left uncut.
-/
import Mathlib.Data.List.Chain
import DocComments.SourceUnit

namespace DocComments

/-! ## Underlines -/

/-- A line of dashes: three or more, and nothing around them but blanks. -/
def IsDashes (line : String) : Prop :=
  ∃ dashes, 3 ≤ dashes ∧ Text.trim line.toList = List.replicate dashes '-'

/-- The lines of dashes are the underlines. -/
theorem isUnderline_iff {line : String} : isUnderline line ↔ IsDashes line := by
  simp only [isUnderline, Bool.and_eq_true, decide_eq_true_eq, List.all_eq_true, beq_iff_eq]
  constructor
  · rintro ⟨long, all⟩
    exact ⟨_, long, List.eq_replicate_of_mem all⟩
  · rintro ⟨dashes, long, written⟩
    rw [written, List.length_replicate]
    exact ⟨long, fun c mem => List.eq_of_mem_replicate mem⟩

/-- Blanks around a line do not matter for what it underlines. -/
theorem isUnderline_strip (line : String) : isUnderline (Text.strip line) = isUnderline line := by
  rw [isUnderline, isUnderline, Text.trim_strip]

/-- A heading is a line that is neither blank nor an underline, and an underline follows it. -/
theorem isHeading_iff {line next : String} :
    isHeading line next ↔
      Text.strip line ≠ "" ∧ isUnderline line = false ∧ isUnderline next := by
  simp [isHeading, and_assoc]

/-- A heading underlines nothing. -/
theorem not_isHeading_before {line title underline : String} (heading : isHeading title underline) :
    isHeading line title = false := by
  simp [isHeading, (isHeading_iff.mp heading).2.1]

/-! ## Lines that stay together -/

/-- None of the lines is underlined by the next. -/
def Uncut (texts : List String) : Prop :=
  texts.IsChain fun line next => isHeading line next = false

instance (texts : List String) : Decidable (Uncut texts) :=
  inferInstanceAs (Decidable (List.IsChain _ _))

/-- No line stands right before a line of dashes, unless it is blank or a line of dashes too. -/
def NoHeadings (texts : List String) : Prop :=
  ∀ (i : Nat) (line next : String), texts[i]? = some line → texts[i + 1]? = some next →
    IsDashes next → Text.strip line = "" ∨ IsDashes line

/-- **Lines stay together** exactly if there are no headings among them. -/
theorem uncut_iff {texts : List String} : Uncut texts ↔ NoHeadings texts := by
  have pair : ∀ line next : String, isHeading line next = false
      ↔ (IsDashes next → Text.strip line = "" ∨ IsDashes line) := by
    intro line next
    rw [← Bool.not_eq_true, isHeading_iff, ← isUnderline_iff, ← isUnderline_iff]
    cases isUnderline line with
    | true => simp
    | false => cases isUnderline next <;> simp
  rw [Uncut, List.isChain_iff_getElem]
  constructor
  · intro chain i line next here after
    obtain ⟨lt, rfl⟩ := List.getElem?_eq_some_iff.mp after
    obtain ⟨-, rfl⟩ := List.getElem?_eq_some_iff.mp here
    exact (pair _ _).mp (chain i lt)
  · intro none i lt
    have lt' : i < texts.length := by omega
    exact (pair _ _).mpr (none i texts[i] texts[i + 1] (List.getElem?_eq_getElem lt')
      (List.getElem?_eq_getElem lt))

/-- A body that is uncut has no headings. -/
theorem splitAtHeadings_uncut (origin : Origin) (n : Nat) {body : List String}
    (uncut : Uncut body) : splitAtHeadings origin n body = (body, []) := by
  fun_induction splitAtHeadings origin n body with
  | case1 => rfl
  | case2 => rfl
  | case3 n line next rest heading =>
    have plain := (List.isChain_cons_cons.mp uncut).1
    simp [heading] at plain
  | case4 n line next rest other own blocks cut ih =>
    have whole := ih (List.isChain_cons_cons.mp uncut).2
    rw [cut] at whole
    cases whole
    rfl

/-- Without lines of dashes nothing is underlined. -/
theorem Uncut.of_plain {body : List String} (plain : ∀ text ∈ body, isUnderline text = false) :
    Uncut body := by
  refine List.isChain_iff_getElem.mpr fun i lt => ?_
  have dashes := plain body[i + 1] (List.getElem_mem lt)
  simp [isHeading, dashes]

/-! ## A cut -/

/-- **A body is cut at a heading,** the lines before it as if they were all. -/
theorem splitAtHeadings_append (origin : Origin) {title underline : String}
    (heading : isHeading title underline) (n : Nat) (front rest : List String) :
    splitAtHeadings origin n (front ++ title :: underline :: rest)
      = let inner := splitAtHeadings origin (n + front.length + 2) rest
        ((splitAtHeadings origin n front).1,
          (splitAtHeadings origin n front).2
            ++ { title := Text.strip title
                 body := inner.1
                 origin := ⟨origin.file, origin.line + (n + front.length) + 1⟩ } :: inner.2) := by
  fun_induction splitAtHeadings origin n front with
  | case1 n =>
    rw [List.nil_append, splitAtHeadings, if_pos heading]
    rfl
  | case2 n line =>
    have first : ¬ isHeading line title := by simp [not_isHeading_before heading]
    rw [List.cons_append, List.nil_append, splitAtHeadings, if_neg first, splitAtHeadings,
      if_pos heading]
    rfl
  | case3 n line next front heading' body blocks cut place ih =>
    rw [List.cons_append, List.cons_append, splitAtHeadings, if_pos heading', ih, cut]
    simp only [List.length_cons, show n + 2 + front.length = n + (front.length + 1 + 1) by omega]
    rfl
  | case4 n line next front other own blocks cut ih =>
    rw [List.cons_append, List.cons_append, splitAtHeadings, if_neg other, ← List.cons_append, ih,
      cut]
    simp only [List.length_cons, show n + 1 + (front.length + 1) = n + (front.length + 1 + 1)
      by omega]

/-! ## Parts -/

/-- A block of an item, to be written in one of two ways: its title, a line to underline it with,
    and its body. -/
structure SubBlock where
  title : String
  underline : String
  body : List String

namespace SubBlock

/-- Under a heading: the title, the line under it, the body. -/
def texts (sub : SubBlock) : List String := sub.title :: sub.underline :: sub.body

theorem length_texts (sub : SubBlock) : sub.texts.length = sub.body.length + 2 := rfl

/-- The block that a part becomes when `n` lines stand before it. -/
def blockAt (origin : Origin) (n : Nat) (sub : SubBlock) : Block where
  title := Text.strip sub.title
  body := sub.body
  origin := ⟨origin.file, origin.line + n + 1⟩

/-- The blocks of parts that follow each other, the first after `n` lines. -/
def blocksFrom (origin : Origin) (n : Nat) : List SubBlock → List Block
  | [] => []
  | sub :: rest => sub.blockAt origin n :: blocksFrom origin (n + sub.texts.length) rest

theorem getElem?_blocksFrom (origin : Origin) (n : Nat) (subs : List SubBlock) (k : Nat) :
    (blocksFrom origin n subs)[k]?
      = subs[k]?.map (blockAt origin (n + ((subs.take k).flatMap texts).length)) := by
  induction subs generalizing n k with
  | nil => rfl
  | cons sub rest ih =>
    cases k with
    | zero => rfl
    | succ k =>
      rw [blocksFrom, List.getElem?_cons_succ, ih, List.getElem?_cons_succ, List.take_succ_cons,
        List.flatMap_cons, List.length_append, Nat.add_assoc]

theorem length_blocksFrom (origin : Origin) (n : Nat) (subs : List SubBlock) :
    (blocksFrom origin n subs).length = subs.length := by
  induction subs generalizing n with
  | nil => rfl
  | cons sub rest ih => rw [blocksFrom, List.length_cons, ih, List.length_cons]

/-- The lines before a part, its own lines, and the lines after it. -/
theorem flatMap_texts {subs : List SubBlock} {k : Nat} {sub : SubBlock}
    (found : subs[k]? = some sub) :
    subs.flatMap texts
      = (subs.take k).flatMap texts ++ (sub.texts ++ (subs.drop (k + 1)).flatMap texts) := by
  obtain ⟨lt, rfl⟩ := List.getElem?_eq_some_iff.mp found
  conv => lhs; rw [← List.take_append_drop k subs, List.drop_eq_getElem_cons lt]
  rw [List.flatMap_append, List.flatMap_cons]

/-- Each block ends before the next begins. -/
theorem blocksFrom_apart (origin : Origin) (n : Nat) (subs : List SubBlock) :
    (blocksFrom origin n subs).Pairwise fun a b =>
      a.origin.line + a.body.length < b.origin.line := by
  induction subs generalizing n with
  | nil => exact .nil
  | cons sub rest ih =>
    refine List.pairwise_cons.mpr ⟨fun inner mem => ?_, ih _⟩
    obtain ⟨k, found⟩ := List.mem_iff_getElem?.mp mem
    rw [getElem?_blocksFrom] at found
    obtain ⟨part, -, rfl⟩ := Option.map_eq_some_iff.mp found
    simp only [blockAt, length_texts]
    omega

end SubBlock

/-- The lines and the parts are cut as far as they can be, and nowhere else. -/
structure IsCut (own : List String) (parts : List SubBlock) : Prop where
  headings : ∀ part ∈ parts, isHeading part.title part.underline
  own : Uncut own
  bodies : ∀ part ∈ parts, Uncut part.body

/-- **The parts of a body are found** as they stand there. -/
theorem splitAtHeadings_parts (origin : Origin) (n : Nat) {own : List String}
    {parts : List SubBlock} (cut : IsCut own parts) :
    splitAtHeadings origin n (own ++ parts.flatMap SubBlock.texts)
      = (own, SubBlock.blocksFrom origin (n + own.length) parts) := by
  induction parts generalizing own n with
  | nil => rw [List.flatMap_nil, List.append_nil, splitAtHeadings_uncut origin n cut.own]; rfl
  | cons part rest ih =>
    have heading := cut.headings part List.mem_cons_self
    have inner : IsCut part.body rest :=
      ⟨fun other mem => cut.headings other (List.mem_cons_of_mem part mem),
        cut.bodies part List.mem_cons_self,
        fun other mem => cut.bodies other (List.mem_cons_of_mem part mem)⟩
    rw [List.flatMap_cons, SubBlock.texts, List.cons_append, List.cons_append,
      splitAtHeadings_append origin heading, ih _ inner, splitAtHeadings_uncut origin n cut.own,
      SubBlock.blocksFrom, SubBlock.length_texts,
      show n + own.length + (part.body.length + 2) = n + own.length + 2 + part.body.length by omega]
    rfl

/-- **Every body has parts.** -/
theorem exists_parts (body : List String) :
    ∃ own parts, IsCut own parts ∧ body = own ++ parts.flatMap SubBlock.texts := by
  induction left : body.length using Nat.strongRecOn generalizing body with
  | ind left ih =>
    match body with
    | [] => exact ⟨[], [], ⟨nofun, .nil, nofun⟩, rfl⟩
    | [line] => exact ⟨[line], [], ⟨nofun, .singleton line, nofun⟩, rfl⟩
    | line :: next :: rest =>
      by_cases heading : isHeading line next
      · have shorter : rest.length < (line :: next :: rest).length := by
          rw [List.length_cons, List.length_cons]
          omega
        obtain ⟨below, parts, cut, rfl⟩ := ih rest.length (left ▸ shorter) rest rfl
        refine ⟨[], ⟨line, next, below⟩ :: parts, ⟨?_, .nil, ?_⟩, rfl⟩
        · exact List.forall_mem_cons.mpr ⟨heading, cut.headings⟩
        · exact List.forall_mem_cons.mpr ⟨cut.own, cut.bodies⟩
      · obtain ⟨own, parts, cut, same⟩ := ih _ (left ▸ Nat.lt_succ_self _) (next :: rest) rfl
        refine ⟨line :: own, parts, ⟨cut.headings, ?_, cut.bodies⟩, by rw [same]; rfl⟩
        cases own with
        | nil => exact .singleton line
        | cons first more =>
          obtain rfl : next = first := (List.cons.inj same).1
          exact List.isChain_cons_cons.mpr ⟨Bool.eq_false_iff.mpr heading, cut.own⟩

/-! ## What is told from the parts -/

variable {origin : Origin} {n : Nat} {body : List String} {inner : Block}

/-- **A body stays whole** exactly if it is uncut. -/
theorem splitAtHeadings_own_iff (origin : Origin) (n : Nat) (body : List String) :
    (splitAtHeadings origin n body).1 = body ↔ Uncut body := by
  refine ⟨fun whole => ?_, fun uncut => by rw [splitAtHeadings_uncut origin n uncut]⟩
  obtain ⟨own, parts, cut, same⟩ := exists_parts body
  rw [same, splitAtHeadings_parts origin n cut, ← same] at whole
  exact whole ▸ cut.own

/-- **A block under a heading** is a part of the body, behind the own lines. -/
theorem splitAtHeadings_of_mem (mem : inner ∈ (splitAtHeadings origin n body).2) :
    ∃ (front : List String) (part : SubBlock) (back : List String),
      body = front ++ (part.texts ++ back)
      ∧ isHeading part.title part.underline
      ∧ (splitAtHeadings origin n body).1.length ≤ front.length
      ∧ inner = part.blockAt origin (n + front.length) := by
  obtain ⟨own, parts, cut, rfl⟩ := exists_parts body
  rw [splitAtHeadings_parts origin n cut] at mem ⊢
  obtain ⟨k, found⟩ := List.mem_iff_getElem?.mp mem
  rw [SubBlock.getElem?_blocksFrom] at found
  obtain ⟨part, there, rfl⟩ := Option.map_eq_some_iff.mp found
  refine ⟨own ++ (parts.take k).flatMap SubBlock.texts, part,
    (parts.drop (k + 1)).flatMap SubBlock.texts, ?_, cut.headings part (List.mem_of_getElem? there),
    by simp, by rw [List.length_append, Nat.add_assoc]⟩
  rw [SubBlock.flatMap_texts there, List.append_assoc]

/-- The blocks under headings stand inside the body that they are cut from. -/
theorem splitAtHeadings_inside (mem : inner ∈ (splitAtHeadings origin n body).2) :
    inner.origin.file = origin.file ∧ inner.subtitle = ""
      ∧ origin.line + n < inner.origin.line
      ∧ inner.origin.line + inner.body.length < origin.line + n + body.length := by
  obtain ⟨front, part, back, rfl, -, -, rfl⟩ := splitAtHeadings_of_mem mem
  simp only [List.length_append, SubBlock.length_texts]
  refine ⟨rfl, rfl, ?_, ?_⟩
  · show origin.line + n < origin.line + (n + front.length) + 1
    omega
  · show origin.line + (n + front.length) + 1 + part.body.length < _
    omega

/-! ## Nothing is lost -/

/-- A block as it can be written under a heading. -/
def Block.underlined (block : Block) : List String := block.title :: "---" :: block.body

/-- The block is the part of a body whose heading has an index there. -/
structure Block.StandsAt (origin : Origin) (body : List String) (i : Nat) (part : SubBlock)
    (block : Block) : Prop where
  heading : body[i]? = some part.title
  underline : body[i + 1]? = some part.underline
  dashes : IsDashes part.underline
  title : block.title = Text.strip part.title
  lines : block.body = part.body
  place : block.origin = ⟨origin.file, origin.line + 1 + i⟩

theorem SubBlock.standsAt {part : SubBlock} (heading : isHeading part.title part.underline)
    (origin : Origin) (front back : List String) :
    (part.blockAt origin front.length).StandsAt origin (front ++ (part.texts ++ back))
      front.length part where
  heading := by rw [List.getElem?_append_right (Nat.le_refl _), Nat.sub_self]; rfl
  underline := by rw [List.getElem?_append_right (by omega), Nat.add_sub_cancel_left]; rfl
  dashes := isUnderline_iff.mp (isHeading_iff.mp heading).2.2
  title := rfl
  lines := rfl
  place := by rw [blockAt, Nat.add_right_comm]

/-- A heading stays one when the blanks around it are taken off, whatever underlines it. -/
theorem isHeading_strip {title underline : String} (heading : isHeading title underline) :
    isHeading (Text.strip title) "---" := by
  obtain ⟨named, plain, -⟩ := isHeading_iff.mp heading
  refine isHeading_iff.mpr ⟨?_, ?_, by decide⟩
  · rwa [Text.strip_strip]
  · rwa [isUnderline_strip]

/-- The part as it can be written: the heading without the blanks around it, and three dashes. -/
def SubBlock.tidy (part : SubBlock) : SubBlock where
  title := Text.strip part.title
  underline := "---"
  body := part.body

/-- The blocks do not tell how a heading was written. -/
theorem SubBlock.blocksFrom_tidy (origin : Origin) (n : Nat) (parts : List SubBlock) :
    blocksFrom origin n (parts.map tidy) = blocksFrom origin n parts := by
  induction parts generalizing n with
  | nil => rfl
  | cons part rest ih =>
    have same : part.tidy.blockAt origin n = part.blockAt origin n := by
      rw [blockAt, blockAt, tidy, Text.strip_strip]
    rw [List.map_cons, blocksFrom, blocksFrom, same, ih]
    rfl

theorem SubBlock.flatMap_underlined (origin : Origin) (n : Nat) (parts : List SubBlock) :
    (blocksFrom origin n parts).flatMap Block.underlined = (parts.map tidy).flatMap texts := by
  induction parts generalizing n with
  | nil => rfl
  | cons part rest ih =>
    rw [blocksFrom, List.flatMap_cons, ih, List.map_cons, List.flatMap_cons]
    rfl

theorem IsCut.tidy {own : List String} {parts : List SubBlock} (cut : IsCut own parts) :
    IsCut own (parts.map SubBlock.tidy) where
  headings := List.forall_mem_map.mpr fun part mem => isHeading_strip (cut.headings part mem)
  own := cut.own
  bodies := List.forall_mem_map.mpr fun part mem => cut.bodies part mem

/-- **The cutting of a body is lossless and complete.**  Whatever the body, it is the own lines
    followed by one part for each block: a heading, a line under it, and the lines of the block.
    The heading is the title of the block with blanks around it, and it stands in the body as many
    lines behind its beginning as the block stands behind the line after the origin; the line under
    it is made of three or more dashes, with blanks around them.  A title is trimmed, not empty and
    no line of dashes.  Neither in the own lines nor in those of a block does a line of dashes
    follow a line that is neither blank nor one of dashes.  And it does not matter how the headings
    were written: the own lines and the blocks, each under its title and three dashes, are cut into
    the same lines and the same blocks. -/
theorem splitAtHeadings_lossless (origin : Origin) (body : List String) :
    let own := (splitAtHeadings origin 0 body).1
    let blocks := (splitAtHeadings origin 0 body).2
    (∃ parts : List SubBlock, parts.length = blocks.length
        ∧ body = own ++ parts.flatMap (fun part => part.title :: part.underline :: part.body)
        ∧ ∀ (k : Nat) (part : SubBlock) (block : Block),
            parts[k]? = some part → blocks[k]? = some block →
            block.StandsAt origin body (own.length + ((parts.take k).flatMap SubBlock.texts).length)
              part)
      ∧ (∀ block ∈ blocks, block.title ≠ "" ∧ Text.strip block.title = block.title
          ∧ ¬ IsDashes block.title)
      ∧ NoHeadings own ∧ (∀ block ∈ blocks, NoHeadings block.body)
      ∧ splitAtHeadings origin 0 (own ++ blocks.flatMap Block.underlined) = (own, blocks) := by
  intro own blocks
  obtain ⟨own', parts, cut, whole⟩ := exists_parts body
  obtain ⟨rfl, found⟩ : own' = own ∧ SubBlock.blocksFrom origin own'.length parts = blocks := by
    have found := splitAtHeadings_parts origin 0 cut
    rw [← whole, Nat.zero_add] at found
    exact ⟨(congrArg Prod.fst found).symm, (congrArg Prod.snd found).symm⟩
  have each : ∀ k : Nat, blocks[k]? = parts[k]?.map (SubBlock.blockAt origin
      (own.length + ((parts.take k).flatMap SubBlock.texts).length)) := by
    intro k
    rw [← found, SubBlock.getElem?_blocksFrom]
  have among : ∀ block ∈ blocks, ∃ part ∈ parts, ∃ n, block = part.blockAt origin n := by
    intro block mem
    obtain ⟨k, at_k⟩ := List.mem_iff_getElem?.mp mem
    rw [each] at at_k
    obtain ⟨part, there, rfl⟩ := Option.map_eq_some_iff.mp at_k
    exact ⟨part, List.mem_of_getElem? there, _, rfl⟩
  refine ⟨⟨parts, ?_, whole, ?_⟩, ?_, uncut_iff.mp cut.own, ?_, ?_⟩
  · rw [← found, SubBlock.length_blocksFrom]
  · intro k part block there at_k
    rw [each, there] at at_k
    obtain rfl := Option.some.inj at_k
    have heading := cut.headings part (List.mem_of_getElem? there)
    have stands := SubBlock.standsAt heading origin (own ++ (parts.take k).flatMap SubBlock.texts)
      ((parts.drop (k + 1)).flatMap SubBlock.texts)
    rwa [List.append_assoc, ← SubBlock.flatMap_texts there, ← whole, List.length_append] at stands
  · intro block mem
    obtain ⟨part, isPart, n, rfl⟩ := among block mem
    obtain ⟨named, plain, -⟩ := isHeading_iff.mp (cut.headings part isPart)
    refine ⟨named, Text.strip_strip part.title, fun dashes => ?_⟩
    have underline := isUnderline_iff.mpr dashes
    rw [SubBlock.blockAt, isUnderline_strip, plain] at underline
    cases underline
  · intro block mem
    obtain ⟨part, isPart, n, rfl⟩ := among block mem
    exact uncut_iff.mp (cut.bodies part isPart)
  · have again := splitAtHeadings_parts origin 0 cut.tidy
    rwa [Nat.zero_add, SubBlock.blocksFrom_tidy, ← SubBlock.flatMap_underlined origin own.length,
      found] at again

end DocComments
