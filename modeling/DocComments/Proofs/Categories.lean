/-
  Which categories are asked for, told by path components, and what is in them.

  What the program compares is text: a category is the folder asked for, or begins with it and a
  slash.  That comes to the same as comparing components, because a text that goes on with a
  separator has a piece end there (`pieces_prefix_iff`).  Nothing is assumed of the names: empty
  components count like all others, so the category `/a` lies within the empty folder and `a` does
  not.

    * `isWithin_iff`             one folder lies within another by its first components;
    * `ofRequest_eq_iff`         a request loses all slashes around it, and nothing else;
    * `select_by_components`     what is selected, by any requests;
    * `flatMap_select_grouped`   what the selected groups hold together.
-/
import DocComments.Fixture.Category
import DocComments.Proofs.Handlers

namespace DocComments

namespace Text

/-- **The first pieces of a text are those of another** exactly when the two are the same, or the
    text goes on with a separator after the other. -/
theorem pieces_prefix_iff {sep : Char} {front cs : List Char} :
    pieces sep front <+: pieces sep cs ↔ cs = front ∨ front ++ [sep] <+: cs := by
  constructor
  · rintro ⟨more, joined⟩
    have whole : joinWith [sep] (pieces sep front ++ more) = cs := by
      rw [joined, joinWith_pieces]
    cases more with
    | nil =>
      rw [List.append_nil, joinWith_pieces] at whole
      exact .inl whole.symm
    | cons next more =>
      rw [joinWith_append _ (pieces_ne_nil sep front) (List.cons_ne_nil next more),
        joinWith_pieces] at whole
      exact .inr ⟨_, whole⟩
  · rintro (rfl | ⟨rest, rfl⟩)
    · exact List.prefix_refl _
    · rw [List.append_assoc, List.singleton_append, pieces_append]
      exact List.prefix_append _ _

theorem splitAt_prefix_iff {sep : Char} {front s : String} :
    splitAt sep front <+: splitAt sep s ↔ s = front ∨ front.toList ++ [sep] <+: s.toList := by
  have first : splitAt sep front <+: splitAt sep s
      ↔ pieces sep front.toList <+: pieces sep s.toList := by
    constructor
    · intro first
      obtain ⟨taken, first, same⟩ := List.prefix_map_iff.mp first
      have taken_eq : pieces sep front.toList = taken :=
        List.map_inj_right (fun _ _ => String.ofList_inj.mp) |>.mp same
      exact taken_eq ▸ first
    · exact fun first => first.map String.ofList
  rw [first, pieces_prefix_iff, String.toList_inj]

end Text

namespace Category

/-- **A folder lies within another** if it has the components of the other one first. -/
theorem isWithin_iff {category folder : String} :
    isWithin category folder = true ↔ Text.splitAt '/' folder <+: Text.splitAt '/' category := by
  rw [Text.splitAt_prefix_iff, isWithin, Bool.or_eq_true, decide_eq_true_iff, Text.startsWith,
    List.isPrefixOf_iff_prefix]

/-! ## Requests -/

/-- A request is a folder with any number of slashes around it: the folder itself neither begins nor
    ends with one. -/
def Wraps (request folder : String) : Prop :=
  (∃ before after : Nat, request.toList
      = List.replicate before '/' ++ folder.toList ++ List.replicate after '/')
    ∧ folder.toList.head? ≠ some '/' ∧ folder.toList.getLast? ≠ some '/'

/-- A text is what is left of it after its first slashes, with these in front. -/
theorem eq_replicate_append_dropWhile (cs : List Char) :
    ∃ before : Nat, cs = List.replicate before '/' ++ cs.dropWhile (· = '/') := by
  have slashes : ∀ c ∈ cs.takeWhile (· = '/'), c = '/' :=
    fun c mem => by simpa using List.all_eq_true.mp List.all_takeWhile c mem
  refine ⟨(cs.takeWhile (· = '/')).length, ?_⟩
  rw [← List.eq_replicate_of_mem slashes, List.takeWhile_append_dropWhile]

theorem head?_dropWhile_ne (cs : List Char) : (cs.dropWhile (· = '/')).head? ≠ some '/' := by
  intro first
  have free := List.head?_dropWhile_not (· = '/') cs
  rw [first] at free
  simp at free

theorem dropWhile_eq_self {cs : List Char} (first : cs.head? ≠ some '/') :
    cs.dropWhile (· = '/') = cs := by
  cases cs with
  | nil => rfl
  | cons c cs => exact List.dropWhile_cons_of_neg (by simpa using first)

theorem wraps_ofRequest (request : String) : Wraps request (ofRequest request) := by
  obtain ⟨before, front⟩ := eq_replicate_append_dropWhile request.toList
  obtain ⟨after, back⟩ :=
    eq_replicate_append_dropWhile (request.toList.dropWhile (· = '/')).reverse
  have begins := head?_dropWhile_ne request.toList
  have ends := head?_dropWhile_ne (request.toList.dropWhile (· = '/')).reverse
  rw [List.reverse_eq_iff, List.reverse_append, List.reverse_replicate] at back
  refine ⟨⟨before, after, ?_⟩, ?_, ?_⟩
  · rw [ofRequest, String.toList_ofList, List.append_assoc, ← back]
    exact front
  · rw [ofRequest, String.toList_ofList]
    intro first
    rw [back, List.head?_append, first] at begins
    exact begins rfl
  · rwa [ofRequest, String.toList_ofList, List.getLast?_reverse]

/-- **A request loses all slashes around it,** and nothing else. -/
theorem ofRequest_eq_iff {request folder : String} :
    ofRequest request = folder ↔ Wraps request folder := by
  constructor
  · rintro rfl
    exact wraps_ofRequest request
  · rintro ⟨⟨before, after, whole⟩, begins, ends⟩
    have left : request.toList.dropWhile (· = '/')
        = (folder.toList ++ List.replicate after '/').dropWhile (· = '/') := by
      rw [whole, List.append_assoc, List.dropWhile_append_of_pos (by simp)]
    have folder_eq : ((request.toList.dropWhile (· = '/')).reverse.dropWhile (· = '/')).reverse
        = folder.toList := by
      rw [left]
      cases named : folder.toList with
      | nil => simp
      | cons c cs =>
        rw [named] at begins ends
        have begins' : (c :: cs ++ List.replicate after '/').head? ≠ some '/' := begins
        have ends' : (c :: cs).reverse.head? ≠ some '/' := by rwa [List.head?_reverse]
        rw [dropWhile_eq_self begins', List.reverse_append, List.reverse_replicate,
          List.dropWhile_append_of_pos (by simp), dropWhile_eq_self ends', List.reverse_reverse]
    rw [ofRequest, folder_eq, String.ofList_toList]

/-! ## What is selected -/

/-- A category is asked for: its first components are those of some request without the slashes
    around it. -/
def IsAsked (requests : List String) (category : String) : Prop :=
  ∃ request ∈ requests, ∃ folder,
    Wraps request folder ∧ Text.splitAt '/' folder <+: Text.splitAt '/' category

theorem isAsked_iff {requests : List String} {category : String} :
    IsAsked requests category
      ↔ requests.any (fun request => isWithin category (ofRequest request)) = true := by
  simp only [IsAsked, ← ofRequest_eq_iff, ← isWithin_iff, exists_eq_left', List.any_eq_true]

instance (requests : List String) (category : String) : Decidable (IsAsked requests category) :=
  decidable_of_iff _ isAsked_iff.symm

variable {α : Type} {requests others : List String}

/-- All entries are selected without requests, else those of the categories asked for. -/
theorem select_eq_filter (requests : List String) (categories : List (String × α)) :
    select requests categories
      = categories.filter fun entry => requests = [] ∨ IsAsked requests entry.1 := by
  cases requests with
  | nil => exact (List.filter_eq_self.mpr fun _ _ => by simp).symm
  | cons request requests =>
    refine List.filter_congr fun entry _ => ?_
    rw [Bool.eq_iff_iff, decide_eq_true_iff, ← isAsked_iff]
    exact (or_iff_right (List.cons_ne_nil _ _)).symm

/-- What is selected is a matter of which requests there are. -/
theorem select_congr (same : ∀ request, request ∈ requests ↔ request ∈ others)
    (categories : List (String × α)) : select requests categories = select others categories := by
  rw [select_eq_filter, select_eq_filter]
  refine List.filter_congr fun entry _ => decide_eq_decide.mpr ?_
  simp only [List.eq_nil_iff_forall_not_mem, IsAsked, same]

/-- **Categories are selected by whole path components.**  A category lies within a folder exactly
    when the components of the folder are its first ones, whatever the two names are.

    Without requests everything is selected.  Otherwise it is the entries of the categories asked
    for, as they are and in the order they had; a request counts without the slashes around it.  In
    which order the requests come, and how often, makes no difference. -/
theorem select_by_components (categories : List (String × α)) :
    (∀ category folder, isWithin category folder = true
        ↔ Text.splitAt '/' folder <+: Text.splitAt '/' category)
      ∧ (∀ request folder, ofRequest request = folder ↔ Wraps request folder)
      ∧ select [] categories = categories
      ∧ (∀ requests, requests ≠ [] → select requests categories
          = categories.filter fun entry => IsAsked requests entry.1)
      ∧ (∀ requests others, (∀ request, request ∈ requests ↔ request ∈ others) →
          select requests categories = select others categories) := by
  refine ⟨fun _ _ => isWithin_iff, fun _ _ => ofRequest_eq_iff, rfl, fun requests given => ?_,
    fun _ _ same => select_congr same categories⟩
  rw [select_eq_filter]
  simp only [given, false_or]

/-- Slashes around a request, a request that comes twice, one that nothing answers, and a category
    that only begins like the folder asked for. -/
theorem select_by_components_items :
    let categories := [("", [0]), ("item", [1]), ("items", [2, 3]), ("items/nested", [4])]
    let answer := [("items", [2, 3]), ("items/nested", [4])]
    select ["items/", "missing", "/items"] categories = answer
      ∧ select ["missing", "/items", "items/", "items/"] categories = answer
      ∧ ¬ IsAsked ["items/", "missing", "/items"] "item" := by
  intro categories answer
  obtain ⟨-, -, -, asked, same⟩ := select_by_components categories
  have first : select ["items/", "missing", "/items"] categories = answer := by
    rw [asked _ (List.cons_ne_nil _ _)]
    decide +kernel
  refine ⟨first, ?_, by decide +kernel⟩
  rw [← first]
  exact same _ _ (by simp; grind)

/-! ## Groups -/

/-- Values sorted into their keys, each key once, are those with one of the keys. -/
theorem flatMap_filter_perm {β : Type} (key : β → String) {keys : List String} (nodup : keys.Nodup)
    (values : List β) :
    (keys.flatMap fun k => values.filter (key · = k)).Perm (values.filter (key · ∈ keys)) := by
  induction keys with
  | nil => simp
  | cons k keys ih =>
    obtain ⟨new, nodup⟩ := List.nodup_cons.mp nodup
    have split := List.filter_append_perm (key · = k) (values.filter (key · ∈ k :: keys))
    have own : (values.filter (key · ∈ k :: keys)).filter (key · = k)
        = values.filter (key · = k) := by
      rw [List.filter_filter]
      exact List.filter_congr fun value _ => by grind
    have others : (values.filter (key · ∈ k :: keys)).filter (fun value => !decide (key value = k))
        = values.filter (key · ∈ keys) := by
      rw [List.filter_filter]
      exact List.filter_congr fun value _ => by grind
    rw [own, others] at split
    exact ((ih nodup).append_left _).trans split

/-- The categories of values, as they are grouped. -/
theorem mem_categories {found : List (String × α)} {category : String} :
    category ∈ (found.map (·.1)).eraseDups.mergeSort (fun a b => decide (a ≤ b))
      ↔ ∃ entry ∈ found, entry.1 = category := by
  rw [(List.mergeSort_perm _ _).mem_iff, List.mem_eraseDups, List.mem_map]

/-- No group is empty. -/
theorem ne_nil_of_mem_grouped {found : List (String × α)} {group : String × List α}
    (mem : group ∈ grouped found) : group.2 ≠ [] := by
  obtain ⟨category, listed, rfl⟩ := List.mem_map.mp mem
  obtain ⟨entry, inside, rfl⟩ := mem_categories.mp listed
  have kept : entry ∈ found.filter (·.1 = entry.1) := List.mem_filter.mpr ⟨inside, by simp⟩
  exact List.ne_nil_of_mem (List.mem_map_of_mem kept)

/-- **The values in the selected groups** are those of the categories asked for, each as often as it
    was there. -/
theorem flatMap_select_grouped (requests : List String) (found : List (String × α)) :
    ((select requests (grouped found)).flatMap (·.2)).Perm
      ((found.filter fun entry => requests = [] ∨ IsAsked requests entry.1).map (·.2)) := by
  let asked (category : String) : Bool := decide (requests = [] ∨ IsAsked requests category)
  let categories := ((found.map (·.1)).eraseDups.mergeSort fun a b => decide (a ≤ b)).filter asked
  have nodup : categories.Nodup :=
    ((List.mergeSort_perm _ _).nodup_iff.mpr (Walk.nodup_eraseDups _)).filter _
  have selected : (select requests (grouped found)).flatMap (·.2)
      = (categories.flatMap fun category => found.filter (·.1 = category)).map (·.2) := by
    rw [select_eq_filter, grouped, List.filter_map, List.flatMap_map, List.map_flatMap]
    rfl
  have listed : found.filter (·.1 ∈ categories)
      = found.filter fun entry => requests = [] ∨ IsAsked requests entry.1 := by
    refine List.filter_congr fun entry mem => ?_
    have there : entry.1 ∈ (found.map (·.1)).eraseDups.mergeSort fun a b => decide (a ≤ b) :=
      mem_categories.mpr ⟨entry, mem, rfl⟩
    simp [categories, asked, List.mem_filter, there]
  rw [selected, ← listed]
  exact (flatMap_filter_perm (·.1) nodup found).map _

end Category

end DocComments
