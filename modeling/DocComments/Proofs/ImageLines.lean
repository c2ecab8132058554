/-
  Where the images of a plural block stand.

  An `Examples` or `Figures` block becomes one image for each line of its body, and each image is
  given a line of its own: the line of the block, and one more for each body line before it.  For a
  block with a header that is the very line of the text, since the body begins under the header.
  Under an underlined heading it is not: the underline stands between the heading and the body, and
  nothing counts it (`splitAtHeadings_lines`).

  The lines of a body are told by the texts that the unit holds there (`Visit.TextAt`), so that both
  ways of writing are measured against the same lines.

    * `plural_images_placed`  an image stands at its text, or one line above it.
-/
import Mathlib.Data.List.Forall2
import DocComments.Proofs.Attaching
import DocComments.Proofs.Extraction
import DocComments.Proofs.SourceOrder

namespace DocComments

/-! ## Lines of a unit -/

/-- The unit holds the text at the line with a number, as a line of the body after the header. -/
def Visit.TextAt (v : Visit) (lines : List String) (number : Nat) (text : String) : Prop :=
  1 ≤ number
    ∧ Body.bodyLine? lines (Body.widthAt lines v.origin.line) (number - 1) = some text

/-- **The lines of a body** stand below the header, one after the other. -/
theorem Visit.textAt_of_body {s : Session} {file : String} {lines body : List String} {v : Visit}
    (met : v ∈ s.visits file lines) (extracted : Body.ofLines v.rest = .ok body) {n : Nat}
    {text : String} (found : body[n]? = some text) :
    v.TextAt lines (v.origin.line + 1 + n) text := by
  obtain ⟨k, line, -, -, origin, rest⟩ := Session.passage_of_mem_visits met
  have number : v.origin.line = k + 1 := by rw [origin]; exact Nat.add_comm 1 k
  have read : Body.extract lines v.origin.line = .ok ⟨body, v.origin.line + body.length⟩ := by
    rw [number, Body.extract, ← rest, extracted]
  have taken := Body.taken_of_ok read
  have lt : n < body.length := (List.getElem?_eq_some_iff.mp found).1
  refine ⟨by omega, ?_⟩
  rw [show v.origin.line + 1 + n - 1 = v.origin.line + n by omega, ← found]
  exact (taken.line n (by simpa using lt)).symm

namespace Walk

/-! ## Headings in a body -/

/-- **The lines of a block under a heading** begin two lines below the heading. -/
theorem splitAtHeadings_lines {origin : Origin} {n : Nat} {body : List String} {inner : Block}
    (mem : inner ∈ (splitAtHeadings origin n body).2) :
    ∃ i, inner.origin = ⟨origin.file, origin.line + n + 1 + i⟩
      ∧ ∀ m text, inner.body[m]? = some text → body[i + 2 + m]? = some text := by
  obtain ⟨front, part, back, rfl, -, -, rfl⟩ := splitAtHeadings_of_mem mem
  have number : origin.line + (n + front.length) + 1 = origin.line + n + 1 + front.length := by
    omega
  refine ⟨front.length, congrArg (Origin.mk origin.file) number, fun m text found => ?_⟩
  have lt : m < part.body.length := (List.getElem?_eq_some_iff.mp found).1
  rw [List.getElem?_append_right (by omega),
    show front.length + 2 + m - front.length = m + 2 by omega]
  show (part.body ++ back)[m]? = some text
  rwa [List.getElem?_append_left lt]

end Walk

/-! ## Images -/

/-- The node is an image with one text, which the unit holds `below` lines under the line of the
    node. -/
structure Visit.ImageOf (v : Visit) (lines : List String) (title : String) (kind : LeafKind)
    (below : Nat) (node : Node) (text : String) : Prop where
  title : node.title = title
  kind : node.kind = .leaf kind
  body : node.body = [text]
  stands : v.TextAt lines (node.origin.line + below) text

/-- The nodes are the images of a plural block: one for each line of its body, in order, at the
    lines that follow the line of the block. -/
structure Visit.Images (v : Visit) (lines : List String) (title : String) (kind : LeafKind)
    (below : Nat) (block : Block) (nodes : List Node) : Prop where
  each : List.Forall₂ (v.ImageOf lines title kind below) nodes block.body
  places : nodes.map (·.origin)
    = (List.range' (block.origin.line + 1) block.body.length).map (⟨v.origin.file, ·⟩)

theorem Visit.images_imageNodes {v : Visit} {lines : List String} {below : Nat} {block : Block}
    (title : String) (kind : LeafKind) (file : block.origin.file = v.origin.file)
    (texts : ∀ n text, block.body[n]? = some text →
      v.TextAt lines (block.origin.line + 1 + n + below) text) :
    v.Images lines title kind below block (Walk.imageNodes title kind block) where
  each := by
    refine List.forall₂_iff_get.mpr ⟨by simp [Walk.imageNodes], fun n lt lt' => ?_⟩
    have text := texts n _ (List.getElem?_eq_getElem lt')
    have node : (Walk.imageNodes title kind block).get ⟨n, lt⟩
        = { kind := .leaf kind
            title
            subtitle := if n = 0 then block.subtitle else ""
            body := [block.body.get ⟨n, lt'⟩]
            origin := ⟨block.origin.file, block.origin.line + n + 1⟩
            options := block.options } := by
      simp [Walk.imageNodes]
    rw [node]
    refine ⟨rfl, rfl, rfl, ?_⟩
    show v.TextAt lines (block.origin.line + n + 1 + below) _
    rwa [Nat.add_right_comm block.origin.line n 1]
  places := by
    apply List.ext_getElem
    · simp [Walk.imageNodes]
    · intro n lt lt'
      simp [Walk.imageNodes, file, Nat.add_right_comm]

/-- The block of a heading is one of those that the body of the header holds. -/
theorem Visit.block_of_mem_headings {v : Visit} {h : Heading} {base : Nat}
    (sound : v.walk.Sound base) (mem : h ∈ v.headings) :
    ∃ body, Body.ofLines v.rest = .ok body
      ∧ h.block ∈ (splitAtHeadings v.origin 0 body).2 := by
  unfold headings at mem
  split at mem
  · simp at mem
  · rename_i body extracted
    split at mem
    · obtain ⟨passed, -⟩ := Walk.of_mem_headingsOf sound mem
      refine ⟨body, extracted, ?_⟩
      have blocks := (Walk.openItem_headings passed).1
      exact blocks ▸ List.mem_map_of_mem mem
    · simp at mem

namespace Walk

variable {w : Walk} {block : Block} {base item : Nat} {title : String} {kind : LeafKind}

/-- The titles of plural blocks are titles of leaves. -/
theorem role_of_images (role : LeafRole.ofTitle block.title = .images title kind) :
    TitleRole.ofTitle block.title = .leaf := by
  unfold LeafRole.ofTitle at role
  split at role
  all_goals first
    | (rename_i same; rw [same]; rfl)
    | cases role

/-- **A plural block under an open item** becomes its images, the last children of the item. -/
theorem addLeaf_images (sound : w.Sound base) (opened : w.scope.item = some item)
    (role : LeafRole.ofTitle block.title = .images title kind) :
    w.document.Adopts (w.addLeaf block).1.document item (imageNodes title kind block) := by
  simp only [addLeaf, role, addImages, opened]
  exact Document.Adopts.foldl_addChild (.nil w.document item) (Scope.Sound.item_lt sound opened) _

/-- Where an item is open, strict mode waits for nothing. -/
theorem admitted_of_item (sound : w.Sound base) (opened : w.scope.item = some item) :
    w.awaitsFile = false := by
  cases shut : w.scope.file with
  | some file => simp [awaitsFile, shut]
  | none =>
    rw [Scope.Sound.eq_closed sound shut] at opened
    cases opened

end Walk

/-! ## Blocks with headers, and blocks under headings -/

namespace Visit

variable {s : Session} {file : String} {lines body : List String} {v : Visit} {title : String}
  {kind : LeafKind} {item : Nat}

/-- **With a header of its own** the block has its images at their texts. -/
theorem images_of_header (met : v ∈ s.visits file lines)
    (extracted : Body.ofLines v.rest = .ok body)
    (role : LeafRole.ofTitle v.header.title = .images title kind)
    (opened : v.walk.scope.item = some item) :
    ∃ nodes, v.walk.document.Adopts v.settled.document item nodes
      ∧ v.Images lines title kind 0 (v.header.block body v.origin) nodes := by
  let block := v.header.block body v.origin
  have sound := Session.visit_sound met
  have takes : v.walk.takesLeaf v.header.title := by
    have leaf : TitleRole.ofTitle v.header.title = .leaf := @Walk.role_of_images block _ _ role
    simp [Walk.takesLeaf, leaf, Walk.admitted_of_item sound opened]
  have adopts := @Walk.addLeaf_images v.walk block _ _ _ _ sound opened role
  refine ⟨_, ?_, images_imageNodes title kind rfl fun n text found =>
    textAt_of_body met extracted found⟩
  rw [Walk.settled_ok extracted, Walk.document_settle, Walk.dispatch_of_takesLeaf takes]
  exact adopts

/-- **Under a heading** the block has each of its images one line above its text. -/
theorem images_of_heading {h : Heading} (met : v ∈ s.visits file lines) (mem : h ∈ v.headings)
    (role : LeafRole.ofTitle h.block.title = .images title kind)
    (opened : h.walk.scope.item = some item) :
    ∃ nodes, h.walk.document.Adopts h.settled.document item nodes
      ∧ v.Images lines title kind 1 h.block nodes := by
  have sound := Session.visit_sound met
  obtain ⟨inner, -⟩ := of_mem_headings sound mem
  obtain ⟨body, extracted, among⟩ := block_of_mem_headings sound mem
  obtain ⟨i, place, texts⟩ := Walk.splitAtHeadings_lines among
  refine ⟨_, ?_, images_imageNodes title kind (by rw [place]) fun n text found => ?_⟩
  · rw [Heading.settled, Walk.document_settle]
    exact Walk.addLeaf_images inner opened role
  · have there := textAt_of_body met extracted (texts n text found)
    rw [place]
    convert there using 1
    show v.origin.line + 0 + 1 + i + 1 + n + 1 = v.origin.line + 1 + (i + 2 + n)
    omega

end Visit

namespace Session

/-- **Where the images of plural blocks stand.**  In every unit, an `Examples` or `Figures` header
    with an item open adds to it one image for each line of its body, at the line of that text.  So
    does an `Examples` or `Figures` heading in the body of an item, but each image has the line
    above its text, the first one that of the underline. -/
theorem plural_images_placed (s : Session) (file : String) (lines : List String) :
    ∀ v ∈ s.visits file lines,
      (∀ body title kind item, Body.ofLines v.rest = .ok body →
          LeafRole.ofTitle v.header.title = .images title kind → v.walk.scope.item = some item →
          ∃ nodes, v.walk.document.Adopts v.settled.document item nodes
            ∧ v.Images lines title kind 0 (v.header.block body v.origin) nodes)
        ∧ ∀ h ∈ v.headings, ∀ title kind, LeafRole.ofTitle h.block.title = .images title kind →
            ∃ item nodes, v.OpensItem item
              ∧ h.walk.document.Adopts h.settled.document item nodes
              ∧ v.Images lines title kind 1 h.block nodes := by
  refine fun v met => ⟨fun body title kind item extracted role opened => ?_,
    fun h mem title kind role => ?_⟩
  · exact Visit.images_of_header met extracted role opened
  · obtain ⟨-, item, opens, opened⟩ := Visit.of_mem_headings (visit_sound met) mem
    obtain ⟨nodes, adopts, images⟩ := Visit.images_of_heading met mem role opened
    exact ⟨item, nodes, opens, adopts, images⟩

/-- Two figures under a header of their own. -/
theorem plural_images_placed_figures :
    let lines := ["// Function: f()", "// Figures: top", "//   cube(1);", "//   cube(2);"]
    ∃ v ∈ (start {}).visits "a" lines, ∃ nodes,
      v.walk.document.Adopts v.settled.document 2 nodes
        ∧ nodes.map (·.origin.line) = [3, 4]
        ∧ v.Images lines "Figure" .figure 0 (v.header.block ["cube(1);", "cube(2);"] v.origin)
            nodes := by
  intro lines
  have facts : ((start {}).visits "a" lines)[1]?.map
      (fun v => (Body.ofLines v.rest |>.toOption, v.header.title, v.walk.scope.item, v.origin.line))
      = some (some ["cube(1);", "cube(2);"], "Figures", some 2, 2) := by decide +kernel
  obtain ⟨v, found, facts⟩ := Option.map_eq_some_iff.mp facts
  simp only [Prod.mk.injEq] at facts
  obtain ⟨extracted, title, opened, line⟩ := facts
  have extracted : Body.ofLines v.rest = .ok ["cube(1);", "cube(2);"] := by
    cases read : Body.ofLines v.rest with
    | ok body => simp_all [Except.toOption]
    | error n => simp_all [Except.toOption]
  have role : LeafRole.ofTitle v.header.title = .images "Figure" .figure := by rw [title]; rfl
  have met := List.mem_of_getElem? found
  obtain ⟨nodes, adopts, images⟩ :=
    (plural_images_placed _ _ lines v met).1 _ _ _ _ extracted role opened
  refine ⟨v, met, nodes, adopts, ?_, images⟩
  have places := congrArg (List.map (·.line)) images.places
  simpa [Header.block, line, Function.comp_def, List.range'] using places

/-- **Under a heading an image stands at the underline,** not at its text. -/
theorem first_image_stands_at_underline :
    let lines := ["// Function: f()", "//   Examples", "//   --------", "//   foo(1);"]
    ((start {}).visits "a" lines).map (fun v => v.headings.map (·.block.title)) = [["Examples"]]
      ∧ (((start {}).walkUnit "a" lines).document.node? 3).map
          (fun node => (node.title, node.body, node.origin.line)) = some ("Example", ["foo(1);"], 3)
      ∧ Body.bodyLine? lines (Body.widthAt lines 1) (3 - 1) = some "--------"
      ∧ Body.bodyLine? lines (Body.widthAt lines 1) (4 - 1) = some "foo(1);" := by
  decide +kernel

end Session

end DocComments
