import TexListing.Proofs.Listing.Walk
import TexListing.Proofs.Markup.Alike

/-!
# What attributes do

Of the attributes of an element a conversion reads the first style and nothing else. So two trees
that are alike give the same conversion, listing and records, if the first styles of each element
come to the same. In particular the order of attributes does not count, as long as no element has
two styles.

* `style?`, `attrsColor?`: the first style among attributes, and what it says about the colour.
* `read_alike`, `convert_alike`: trees that are alike and whose styles come to the same are read the
  same, and give the same conversion.
* `style?_perm`: the style does not depend on the order, if there is at most one.
* `convert_reordered`: nor does the conversion of a tree.
-/

namespace TexListing.Listing

open Markup Style

/-- The first style among attributes. -/
def style? (attrs : List Attribute) : Option String :=
  (attrs.find? (·.name.sameCaseless "style")).map Attribute.value

theorem style?_eq_head? (attrs : List Attribute) :
    style? attrs =
      (attrs.filter (·.name.sameCaseless "style")).head?.map Attribute.value := by
  rw [style?, List.head?_filter]

/-- What attributes say about the colour of their element. -/
def attrsColor? (colorSyntax : ColorSyntax) (attrs : List Attribute) :
    Option (Except ColorError Rgb) :=
  (style? attrs).bind (styleColor? colorSyntax)

/-- The attributes come to the same colour, each read in its own way. -/
def SameColor (colorSyntax colorSyntax' : ColorSyntax) (attrs attrs' : List Attribute) : Prop :=
  attrsColor? colorSyntax attrs = attrsColor? colorSyntax' attrs'

theorem ownColor?_element (options : Options) (tag : String) (attrs : List Attribute)
    (children : List Node) :
    ownColor? options (.element tag attrs children) = attrsColor? options.colorSyntax attrs := rfl

/-- Folds over two lists agree, if the steps at each place agree. -/
theorem foldl_forall₂ {σ ν : Type} {f g : σ → ν → σ} {nodes nodes' : List ν}
    (h : List.Forall₂ (fun n n' => ∀ s, f s n = g s n') nodes nodes') :
    ∀ s, nodes.foldl f s = nodes'.foldl g s := by
  induction h with
  | nil => intro s; rfl
  | cons hstep _ ih => intro s; rw [List.foldl_cons, List.foldl_cons, hstep, ih]

variable {options options' : Options} {root root' : Node}

/-- **Trees that are alike are read the same**, if their attributes come to the same colours. -/
theorem read_alike (hblock : options.blockTags = options'.blockTags)
    (h : root.Alike (SameColor options.colorSyntax options'.colorSyntax) root') :
    ∀ color t, Transcript.read options color t root = Transcript.read options' color t root' := by
  refine Node.Alike.induction (motive := fun node node' => ∀ color t,
    Transcript.read options color t node = Transcript.read options' color t node') ?_ ?_ h
  · intro content color t
    rw [read_text, read_text]
  · intro tag attrs attrs' children children' hcolor _ ih color t
    rw [SameColor] at hcolor
    rw [read_element, read_element, ownColor?_element, ownColor?_element, hcolor, hblock]
    split
    · rfl
    · exact foldl_forall₂ (ih.imp fun _ _ h t => h _ t) _

/-- **Trees that are alike give the same conversion**, listing and records, if their attributes come
to the same colours. -/
theorem convert_alike (hblock : options.blockTags = options'.blockTags)
    (hpreamble : options.includePreamble = options'.includePreamble)
    (h : root.Alike (SameColor options.colorSyntax options'.colorSyntax) root') :
    convert options root = convert options' root' := by
  have htranscript : transcribe options root = transcribe options' root' := by
    rw [transcribe_eq, transcribe_eq, read_alike hblock h]
  unfold convert envelope records
  rw [htranscript, hpreamble, Node.count_alike h]

/-- A list of at most one has one order. -/
theorem eq_of_perm_of_length_le_one {α : Type} {xs ys : List α} (h : xs.Perm ys)
    (hone : xs.length ≤ 1) : xs = ys := by
  rcases xs with - | ⟨x, - | ⟨y, rest⟩⟩
  · exact h.nil_eq
  · exact h.singleton_eq
  · simp at hone

/-- **The style does not depend on the order**, if there is at most one. -/
theorem style?_perm {attrs attrs' : List Attribute} (horder : attrs.Perm attrs')
    (honce : (attrs.filter (·.name.sameCaseless "style")).length ≤ 1) :
    style? attrs = style? attrs' := by
  rw [style?_eq_head?, style?_eq_head?,
    eq_of_perm_of_length_le_one (horder.filter _) honce]

/-- Of two styles the first counts, whatever the case of its name. -/
example : style? [⟨"STYLE", "a"⟩, ⟨"style", "b"⟩] ≠ style? [⟨"style", "b"⟩, ⟨"STYLE", "a"⟩] := by
  decide

/-- **The order of attributes does not count.** Two trees in which the attributes of every element
stand in any order have the same conversion, listing and records, if no element has two styles. -/
theorem convert_reordered (options : Options) {root root' : Node}
    (horder : root.Alike List.Perm root')
    (honce : ∀ node ∈ root.descendants,
      (node.attrs.filter (·.name.sameCaseless "style")).length ≤ 1) :
    convert options root = convert options root' := by
  refine convert_alike rfl rfl (horder.imp fun node hnode attrs' hperm => ?_)
  rw [SameColor, attrsColor?, attrsColor?, style?_perm hperm (honce node hnode)]

/-- A style before or after another attribute, on an element and on its child. -/
theorem convert_reordered_nested :
    let root := Node.element "p" [⟨"class", "a"⟩, ⟨"Style", "color: rgb(1, 2, 3)"⟩]
      [.element "b" [⟨"style", "color: red"⟩, ⟨"id", "c"⟩] [.text "x"], .text "y"]
    let root' := Node.element "p" [⟨"Style", "color: rgb(1, 2, 3)"⟩, ⟨"class", "a"⟩]
      [.element "b" [⟨"id", "c"⟩, ⟨"style", "color: red"⟩] [.text "x"], .text "y"]
    root.Alike List.Perm root' ∧
      (∀ node ∈ root.descendants,
        (node.attrs.filter (·.name.sameCaseless "style")).length ≤ 1) ∧
      convert {} root = convert {} root' := by
  intro root root'
  have horder : root.Alike List.Perm root' :=
    .element "p" (.swap _ _ _) (.cons (.element "b" (.swap _ _ _) (.cons (.text "x") .nil))
      (.cons (.text "y") .nil))
  have honce : ∀ node ∈ root.descendants,
      (node.attrs.filter (·.name.sameCaseless "style")).length ≤ 1 := by
    rw [descendants_eq]
    decide
  exact ⟨horder, honce, convert_reordered {} horder honce⟩

end TexListing.Listing
