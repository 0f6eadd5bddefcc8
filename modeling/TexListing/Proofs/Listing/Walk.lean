import TexListing.Listing.Conversion
import TexListing.Proofs.Markup.Preorder

/-!
# The walk over a tree

A conversion walks over a tree with a list of pending trees, each with the colour around it. These
lemmas turn the walk into a recursion on the tree, in which the colour is handed down and never
handed back.

* `Transcript.read`: a tree read by recursion.
* `transcribeFrom_eq`: the walk reads the pending trees by recursion, one after the other and each
  under its own colour.
* `readableColor?`, `nearestColor?`: the colour that the style of an element gives, and that of the
  nearest element that has one.
* `nearestColor?_cons`: what the children of an element inherit is the colour of the nearest element
  around them that has one.
* `read_solid`: no run of a transcript is empty, so a transcript without pieces is one without
  output.
-/

namespace TexListing.Listing

open Markup Style

variable {options : Options}

/-! ## Recursion -/

/-- The transcript after a tree, with the colour around the tree. -/
def Transcript.read (options : Options) (color : Option Rgb) (t : Transcript) : Node → Transcript
  | .text content => t.write content color
  | .element tag attrs children =>
    let kind := classify options.blockTags tag
    if kind = .lineBreak then t.endLine
    else
      let own := ownColor? options (.element tag attrs children)
      readAll (innerColor own color) (t.enter kind tag own) children
where
  /-- The transcript after trees, which have the same colour around them. -/
  readAll (color : Option Rgb) (t : Transcript) : List Node → Transcript
    | [] => t
    | node :: rest => readAll color (Transcript.read options color t node) rest

theorem readAll_eq_foldl (color : Option Rgb) (nodes : List Node) :
    ∀ t, Transcript.read.readAll options color t nodes =
      nodes.foldl (Transcript.read options color) t := by
  induction nodes with
  | nil => intro t; rfl
  | cons node rest ih => intro t; rw [Transcript.read.readAll, ih]; rfl

theorem read_text (color : Option Rgb) (t : Transcript) (content : String) :
    t.read options color (.text content) = t.write content color := by
  rw [Transcript.read]

theorem read_element (color : Option Rgb) (t : Transcript) (tag : String) (attrs : List Attribute)
    (children : List Node) :
    t.read options color (.element tag attrs children) =
      if classify options.blockTags tag = .lineBreak then t.endLine
      else children.foldl
        (Transcript.read options
          (innerColor (ownColor? options (.element tag attrs children)) color))
        (t.enter (classify options.blockTags tag) tag
          (ownColor? options (.element tag attrs children))) := by
  rw [Transcript.read, ← readAll_eq_foldl]

/-- **The walk is the recursion.** Each pending tree is read under the colour that it is pending
with, whatever was read before it. -/
theorem transcribeFrom_eq (t : Transcript) (pending : List (Node × Option Rgb)) :
    transcribeFrom options t pending =
      pending.foldl (fun t frame => t.read options frame.2 frame.1) t := by
  fun_induction transcribeFrom options t pending with
  | case1 t => rfl
  | case2 t content color pending ih => rw [ih, List.foldl_cons, read_text]
  | case3 t tag attrs children color pending kind hkind ih =>
    rw [ih, List.foldl_cons, read_element, if_pos hkind]
  | case4 t tag attrs children color pending kind hkind own ih =>
    rw [ih, List.foldl_cons, read_element, if_neg hkind, List.foldl_append, within, List.foldl_map]

theorem transcribe_eq (root : Node) :
    transcribe options root = Transcript.read options none .empty root :=
  transcribeFrom_eq .empty [(root, none)]

/-! ## Colours -/

/-- The colour that the first style of an element gives, if it gives one that can be read. -/
def readableColor? (options : Options) (node : Node) : Option Rgb := do
  let style ← node.attr? "style"
  let result ← styleColor? options.colorSyntax style
  result.toOption

/-- What the walk takes for the colour of an element is the colour that its style gives. -/
theorem readableColor?_eq (node : Node) :
    readableColor? options node = (ownColor? options node).bind Except.toOption := by
  unfold readableColor? ownColor?
  rw [Option.bind_assoc]
  rfl

/-- The colour of the nearest element that has one, where the nearest is given first. -/
def nearestColor? (options : Options) (around : List Node) : Option Rgb :=
  around.findSome? (readableColor? options)

/-- The children of an element inherit its own colour, or else the one around it. -/
theorem innerColor_eq (node : Node) (outer : Option Rgb) :
    innerColor (ownColor? options node) outer = (readableColor? options node).or outer := by
  rw [readableColor?_eq]
  unfold innerColor
  rcases ownColor? options node with - | (e | color) <;> rfl

theorem nearestColor?_cons (node : Node) (around : List Node) :
    nearestColor? options (node :: around) =
      innerColor (ownColor? options node) (nearestColor? options around) := by
  rw [innerColor_eq, nearestColor?, List.findSome?_cons]
  cases readableColor? options node <;> rfl

/-! ## Kinds of tags -/

/-- The tag of a line break, in letters of either case. -/
def endsLine (tag : String) : Bool :=
  tag.sameCaseless "br"

/-- The tag is among those that start a new line, in letters of either case. -/
def startsLine (options : Options) (tag : String) : Bool :=
  options.blockTags.any (·.sameCaseless tag)

theorem classify_eq_lineBreak {tag : String} :
    classify options.blockTags tag = .lineBreak ↔ endsLine tag = true := by
  unfold classify endsLine
  split
  · next h => simp [h]
  · next h => split <;> simp [h]

/-- A line break is no block, even if its tag is among those that start a new line. -/
theorem classify_eq_block {tag : String} (h : endsLine tag = false) :
    classify options.blockTags tag = .block ↔ startsLine options tag = true := by
  unfold endsLine at h
  unfold classify startsLine
  rw [h]
  simp

/-! ## Pieces -/

theorem write_pieces (t : Transcript) (content : String) (color : Option Rgb) :
    (t.write content color).pieces =
      if content = "" then t.pieces else .run content color :: t.pieces := by
  unfold Transcript.write
  simp only [String.isEmpty_iff]
  split <;> rfl

/-- A block starts a new line if there is anything before it. -/
theorem enter_pieces (t : Transcript) {tag : String} (h : endsLine tag = false)
    (own : Option (Except ColorError Rgb)) :
    (t.enter (classify options.blockTags tag) tag own).pieces =
      if startsLine options tag = true ∧ t.pieces ≠ [] then .lineBreak :: t.pieces
      else t.pieces := by
  have hstart : (t.enter (classify options.blockTags tag) tag own).pieces =
      (if classify options.blockTags tag = .block then t.startLine else t).pieces := by
    unfold Transcript.enter
    rcases own with - | (e | color) <;> rfl
  rw [hstart]
  simp only [classify_eq_block h, Transcript.startLine, List.isEmpty_iff]
  by_cases hs : startsLine options tag = true <;> by_cases hp : t.pieces = [] <;>
    simp [hs, hp, Transcript.endLine]

/-- No run is empty. -/
def Solid (pieces : List Piece) : Prop :=
  ∀ content color, .run content color ∈ pieces → content ≠ ""

theorem solid_empty : Solid Transcript.empty.pieces := by
  intro content color h
  simp [Transcript.empty] at h

theorem solid_append {xs ys : List Piece} : Solid (xs ++ ys) ↔ Solid xs ∧ Solid ys := by
  simp [Solid, or_imp, forall_and]

theorem solid_cons {piece : Piece} {pieces : List Piece} :
    Solid (piece :: pieces) ↔ Solid [piece] ∧ Solid pieces :=
  @solid_append [piece] pieces

theorem solid_lineBreak : Solid [.lineBreak] := by
  intro content color h
  simp at h

theorem solid_run {content : String} {color : Option Rgb} :
    Solid [.run content color] ↔ content ≠ "" := by
  simp [Solid]

theorem Solid.lineBreak {pieces : List Piece} (h : Solid pieces) : Solid (.lineBreak :: pieces) :=
  solid_cons.2 ⟨solid_lineBreak, h⟩

theorem Solid.write {t : Transcript} (h : Solid t.pieces) (content : String)
    (color : Option Rgb) : Solid (t.write content color).pieces := by
  rw [write_pieces]
  split
  · exact h
  · next hne => exact solid_cons.2 ⟨solid_run.2 hne, h⟩

theorem Solid.enter {t : Transcript} (h : Solid t.pieces) {tag : String} (ht : endsLine tag = false)
    (own : Option (Except ColorError Rgb)) :
    Solid (t.enter (classify options.blockTags tag) tag own).pieces := by
  rw [enter_pieces t ht]
  split
  · exact h.lineBreak
  · exact h

/-- Two folds over the same list stay in step, if each of its elements keeps them in step wherever
the invariant holds, and keeps the invariant. -/
theorem foldl_in_step {σ τ ν : Type} {P : σ → Prop} {f : σ → ν → σ} {g : τ → ν → τ} {h : σ → τ}
    (nodes : List ν) (hinv : ∀ n ∈ nodes, ∀ s, P s → P (f s n))
    (hstep : ∀ n ∈ nodes, ∀ s, P s → h (f s n) = g (h s) n) :
    ∀ s, P s → h (nodes.foldl f s) = nodes.foldl g (h s) := by
  induction nodes with
  | nil => intro s _; rfl
  | cons n rest ih =>
    intro s hs
    rw [List.foldl_cons, List.foldl_cons, ← hstep n (by simp) s hs]
    exact ih (fun m hm => hinv m (by simp [hm])) (fun m hm => hstep m (by simp [hm])) _
      (hinv n (by simp) s hs)

/-- **Reading leaves no empty run.** -/
theorem read_solid (node : Node) :
    ∀ (color : Option Rgb) (t : Transcript), Solid t.pieces →
      Solid (t.read options color node).pieces := by
  induction node using Node.induction with
  | text content => intro color t h; rw [read_text]; exact h.write content color
  | element tag attrs children ih =>
    intro color t h
    rw [read_element]
    by_cases ht : endsLine tag = true
    · rw [if_pos (classify_eq_lineBreak.2 ht)]; exact h.lineBreak
    · rw [if_neg (mt classify_eq_lineBreak.1 ht)]
      exact List.foldlRecOn (motive := fun t => Solid t.pieces) children _
        (h.enter (by simpa using ht) _)
        (fun t ht child hm => ih child hm _ t ht)

end TexListing.Listing
