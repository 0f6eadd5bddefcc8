import Mathlib.Data.List.Forall2
import TexListing.Proofs.Markup.Preorder

/-!
# Trees that are alike

Trees that have the same tags and texts at the same places, and differ in the attributes of their
elements alone.

* `Node.Alike`: the trees are alike, and the attributes of each element are related.
* `Alike.imp`: one relation of attributes gives another, if it does so at every element.
* `Node.mapAttrs`: the tree with the attributes of every element changed, which is alike
  (`alike_mapAttrs`).
* `count_alike`: trees that are alike have the same number of nodes.
-/

namespace TexListing.Markup

variable {R S : List Attribute → List Attribute → Prop}

/-- The trees differ in nothing but attributes, and those of the same element are related. -/
inductive Node.Alike (R : List Attribute → List Attribute → Prop) : Node → Node → Prop
  | text (content : String) : Alike R (.text content) (.text content)
  | element (tag : String) {attrs attrs' : List Attribute} {children children' : List Node}
      (related : R attrs attrs') (inner : List.Forall₂ (Alike R) children children') :
      Alike R (.element tag attrs children) (.element tag attrs' children')

namespace Node

/-- Induction on trees that are alike, with the hypothesis for every pair of children. -/
theorem Alike.induction {motive : Node → Node → Prop}
    (text : ∀ content, motive (.text content) (.text content))
    (element : ∀ tag attrs attrs' children children', R attrs attrs' →
      List.Forall₂ (Alike R) children children' → List.Forall₂ motive children children' →
      motive (.element tag attrs children) (.element tag attrs' children')) :
    ∀ {node node'}, Alike R node node' → motive node node' := by
  intro node
  induction node using Node.induction with
  | text content => intro node' h; cases h; exact text content
  | element tag attrs children ih =>
    intro node' h
    cases h with
    | element _ related inner =>
      refine element tag attrs _ children _ related inner ?_
      exact ((List.forall₂_and_left _ _).2 ⟨ih, inner⟩).imp fun _ _ h => h.1 h.2

/-- One relation of attributes gives another, if it does so at every element. -/
theorem Alike.imp {node node' : Node} (h : Alike R node node') :
    (∀ n ∈ node.descendants, ∀ attrs', R n.attrs attrs' → S n.attrs attrs') →
      Alike S node node' := by
  refine Alike.induction (motive := fun node node' =>
    (∀ n ∈ node.descendants, ∀ attrs', R n.attrs attrs' → S n.attrs attrs') →
      Alike S node node') ?_ ?_ h
  · intro content _
    exact .text content
  · intro tag attrs attrs' children children' related _ ih hn
    obtain ⟨hroot, hchildren⟩ := forall_descendants.1 hn
    refine .element tag (hroot attrs' related) ?_
    exact ((List.forall₂_and_left _ _).2 ⟨hchildren, ih⟩).imp fun _ _ h => h.2 h.1

/-- Every tree is like itself, if the attributes of each element are related to themselves. -/
theorem Alike.refl {node : Node} :
    (∀ n ∈ node.descendants, R n.attrs n.attrs) → Alike R node node := by
  induction node using Node.induction with
  | text content => intro _; exact .text content
  | element tag attrs children ih =>
    intro h
    obtain ⟨hroot, hchildren⟩ := forall_descendants.1 h
    exact .element tag hroot (List.forall₂_same.2 fun child hc => ih child hc (hchildren child hc))

/-- The tree with the attributes of every element changed. -/
def mapAttrs (f : List Attribute → List Attribute) : Node → Node
  | .text content => .text content
  | .element tag attrs children => .element tag (f attrs) (mapAll children)
where
  /-- The trees with the attributes of every element changed. -/
  mapAll : List Node → List Node
    | [] => []
    | node :: rest => node.mapAttrs f :: mapAll rest

theorem mapAll_eq (f : List Attribute → List Attribute) (nodes : List Node) :
    mapAttrs.mapAll f nodes = nodes.map (mapAttrs f) := by
  induction nodes with
  | nil => rfl
  | cons node rest ih => rw [mapAttrs.mapAll, ih, List.map_cons]

theorem mapAttrs_element (f : List Attribute → List Attribute) (tag : String)
    (attrs : List Attribute) (children : List Node) :
    (element tag attrs children).mapAttrs f =
      .element tag (f attrs) (children.map (mapAttrs f)) := by
  rw [mapAttrs, mapAll_eq]

/-- The changed tree is like the tree. -/
theorem alike_mapAttrs {f : List Attribute → List Attribute} (h : ∀ attrs, R attrs (f attrs))
    (node : Node) : Alike R node (node.mapAttrs f) := by
  induction node using Node.induction with
  | text content => exact .text content
  | element tag attrs children ih =>
    rw [mapAttrs_element]
    refine .element tag (h attrs) ?_
    rw [List.forall₂_map_right_iff, List.forall₂_same]
    exact ih

/-- Trees that are alike have the same number of nodes. -/
theorem count_alike {node node' : Node} (h : Alike R node node') : node.count = node'.count := by
  simp only [count, descendants_eq]
  refine Alike.induction (motive := fun node node' =>
    node.preorder.length = node'.preorder.length) ?_ ?_ h
  · intro content
    rfl
  · intro tag attrs attrs' children children' _ _ ih
    rw [preorder_eq, preorder_eq, List.length_cons, List.length_cons, List.length_flatMap,
      List.length_flatMap]
    simp only [Node.children]
    congr 2
    rw [← List.forall₂_eq_eq_eq, List.forall₂_map_left_iff, List.forall₂_map_right_iff]
    exact ih

end Node

end TexListing.Markup
