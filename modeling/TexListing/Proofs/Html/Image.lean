import Mathlib.Data.List.Perm.Subperm
import TexListing.Html.Image

/-!
# The markup tree of a document

The markup tree of an element is read step by step, with a stack of elements of which some children
have been read. These lemmas say what that comes to: each element and each text of the document
stands in the markup tree where it stands in the document, and nothing else does.

* `Tree`: a part of a document as an ordered tree, `Tree.images` its markup trees by recursion.
* `Dom.Holds`: a document holds such a tree.
* `Tree.steps`: how many steps are needed to read a tree.
* `imageFrom?_tree`: a tree that comes next is read in that many steps, and its images are the next
  children of the innermost open element, whatever else is open.
* `image?_of_holds`: the markup tree of an element, for every tree of distinct nodes.
-/

namespace TexListing.Html

open Markup

/-! ## Trees of a document -/

/-- A part of a document: a node with its number, and what is below it in document order. -/
inductive Tree where
  | node (id : NodeId) (kind : NodeKind) (children : List Tree)

namespace Tree

/-- The number of the node on top. -/
def id : Tree → NodeId
  | node id _ _ => id

/-- The numbers of all nodes, each before those below it. -/
def ids : Tree → List NodeId
  | node id _ children => id :: idsAll children
where
  /-- The numbers of the nodes of trees, one tree after the other. -/
  idsAll : List Tree → List NodeId
    | [] => []
    | tree :: rest => tree.ids ++ idsAll rest

/-- The markup trees that a tree comes to. An element comes to one element, with its name in
lowercase letters, its attributes and the images of what is below it. A text comes to one text, and
anything else to nothing. -/
def images : Tree → List Node
  | node _ (.element _ name attrs) children =>
    [.element (Text.lowercase name) attrs (imagesAll children)]
  | node _ (.text content) _ => [.text content]
  | node _ _ _ => []
where
  /-- The images of trees, in their order. -/
  imagesAll : List Tree → List Node
    | [] => []
    | tree :: rest => tree.images ++ imagesAll rest

/-- How many steps are needed to read a tree: one for each node that is read, and one for each
element that is closed. What is below a node that is no element is not read. -/
def steps : Tree → Nat
  | node _ (.element ..) children => stepsAll children + 2
  | node _ _ _ => 1
where
  /-- How many steps are needed to read trees. -/
  stepsAll : List Tree → Nat
    | [] => 0
    | tree :: rest => tree.steps + stepsAll rest

theorem imagesAll_eq (trees : List Tree) : images.imagesAll trees = trees.flatMap images := by
  induction trees with
  | nil => rfl
  | cons tree rest ih => rw [images.imagesAll, ih, List.flatMap_cons]

end Tree

/-- The document holds the tree: its nodes are what the tree says, and have the children that the
tree says in the same order. -/
inductive Dom.Holds (dom : Dom) : Tree → Prop
  | node {id : NodeId} {kind : NodeKind} {children : List Tree} (hkind : dom.kind? id = some kind)
      (hchildren : dom.children id = children.map Tree.id)
      (inner : ∀ child ∈ children, Dom.Holds dom child) : Dom.Holds dom (.node id kind children)

variable {dom : Dom}

/-! ## Reading -/

/-- The tree is read, wherever it comes next, in as many steps as it needs: then its images are
among the children of the innermost open element, and the cursor is behind it. -/
def Dom.Reads (dom : Dom) (tree : Tree) : Prop :=
  ∀ tag attrs done pending around steps,
    dom.imageFrom? (tree.steps + steps) ⟨tag, attrs, done, tree.id :: pending⟩ around =
      dom.imageFrom? steps ⟨tag, attrs, tree.images.reverse ++ done, pending⟩ around

/-- Trees that are siblings are read one after the other. -/
theorem imageFrom?_trees {trees : List Tree} (h : ∀ tree ∈ trees, dom.Reads tree) :
    ∀ tag attrs done pending around steps,
      dom.imageFrom? (Tree.steps.stepsAll trees + steps)
          ⟨tag, attrs, done, trees.map Tree.id ++ pending⟩ around =
        dom.imageFrom? steps
          ⟨tag, attrs, (trees.flatMap Tree.images).reverse ++ done, pending⟩ around := by
  induction trees with
  | nil => intro tag attrs done pending around steps; simp [Tree.steps.stepsAll]
  | cons tree rest ih =>
    intro tag attrs done pending around steps
    obtain ⟨htree, hrest⟩ := List.forall_mem_cons.1 h
    rw [Tree.steps.stepsAll, Nat.add_assoc, List.map_cons, List.cons_append, htree, ih hrest,
      List.flatMap_cons, List.reverse_append, List.append_assoc]

/-- A node that comes next is read by what it is. -/
theorem imageFrom?_next {id : NodeId} {kind : NodeKind} (h : dom.kind? id = some kind)
    (steps : Nat) (tag : String) (attrs : List Attribute) (done : List Node)
    (pending : List NodeId) (around : List OpenImage) :
    dom.imageFrom? (steps + 1) ⟨tag, attrs, done, id :: pending⟩ around =
      match kind with
      | .text content => dom.imageFrom? steps ⟨tag, attrs, .text content :: done, pending⟩ around
      | .element _ name attrs' =>
        dom.imageFrom? steps (.start name attrs' (dom.children id))
          (⟨tag, attrs, done, pending⟩ :: around)
      | _ => dom.imageFrom? steps ⟨tag, attrs, done, pending⟩ around := by
  rw [Dom.imageFrom?.eq_def]
  simp only [h]
  cases kind <;> rfl

/-- An element of which all children have been read is closed, and is a child of the element around
it. -/
theorem imageFrom?_close (steps : Nat) (name : String) (attrs' : List Attribute)
    (children : List Node) (outer : OpenImage) (around : List OpenImage) :
    dom.imageFrom? (steps + 1) ⟨name, attrs', children, []⟩ (outer :: around) =
      dom.imageFrom? steps (outer.add (.element name attrs' children.reverse)) around := by
  rw [Dom.imageFrom?]
  rfl

/-- **A tree that a document holds is read**, wherever it comes next. -/
theorem Dom.Holds.reads {tree : Tree} (h : dom.Holds tree) : dom.Reads tree := by
  induction h with
  | @node id kind children hkind hchildren inner ih =>
    intro tag attrs done pending around steps
    cases kind with
    | element ns name attrs' =>
      -- the element is opened, its children are read, and it is closed
      have hsteps : Tree.steps.stepsAll children + 2 + steps =
          Tree.steps.stepsAll children + (steps + 1) + 1 := by omega
      have hinner := imageFrom?_trees ih (Text.lowercase name) attrs' [] []
        (⟨tag, attrs, done, pending⟩ :: around) (steps + 1)
      rw [List.append_nil, List.append_nil] at hinner
      rw [Tree.steps, Tree.id, hsteps, imageFrom?_next hkind, hchildren]
      simp only
      rw [OpenImage.start, hinner, imageFrom?_close, List.reverse_reverse, Tree.images,
        Tree.imagesAll_eq]
      rfl
    -- any other node is passed in one step, and what is below it is never opened
    | text content =>
      simp only [Tree.steps, Tree.id, Nat.add_comm 1, imageFrom?_next hkind]
      rfl
    | document | fragment | doctype | comment | instruction =>
      simp only [Tree.steps, Tree.id, Nat.add_comm 1, imageFrom?_next hkind]
      rfl

/-! ## Steps -/

/-- A tree needs at most two steps for each of its nodes. -/
theorem Dom.Holds.steps_le {tree : Tree} (h : dom.Holds tree) :
    tree.steps ≤ 2 * tree.ids.length := by
  induction h with
  | @node id kind children _ _ _ ih =>
    have hall : Tree.steps.stepsAll children ≤ 2 * (Tree.ids.idsAll children).length := by
      clear * - ih
      induction children with
      | nil => exact Nat.le_refl _
      | cons tree rest ihrest =>
        obtain ⟨htree, hrest⟩ := List.forall_mem_cons.1 ih
        have := ihrest hrest
        rw [Tree.steps.stepsAll, Tree.ids.idsAll, List.length_append]
        omega
    rw [Tree.ids, List.length_cons]
    cases kind <;> simp only [Tree.steps] <;> omega

/-- The nodes of a tree are nodes of the document. -/
theorem Dom.Holds.lt_size {tree : Tree} (h : dom.Holds tree) :
    ∀ id ∈ tree.ids, id < dom.cells.size := by
  induction h with
  | @node id kind children hkind _ _ ih =>
    have hall : ∀ i ∈ Tree.ids.idsAll children, i < dom.cells.size := by
      clear * - ih
      induction children with
      | nil => exact fun i hi => absurd hi List.not_mem_nil
      | cons tree rest ihrest =>
        obtain ⟨htree, hrest⟩ := List.forall_mem_cons.1 ih
        rw [Tree.ids.idsAll]
        intro i hi
        exact (List.mem_append.1 hi).elim (htree i) (ihrest hrest i)
    rw [Tree.ids, List.forall_mem_cons]
    refine ⟨?_, hall⟩
    obtain ⟨cell, hcell, -⟩ := Option.map_eq_some_iff.1 hkind
    exact (Array.getElem?_eq_some_iff.1 hcell).1

/-- **The markup tree of an element.** If the nodes below an element form a tree, it is read in the
steps that it is given, and it is the image of that tree: the element with its name in lowercase
letters and its attributes, and below it the images of its elements and texts, each where it stands
in the document. Texts with a comment or the like between them stay apart. -/
theorem image?_of_holds {id : NodeId} {ns : Namespace} {name : String} {attrs : List Attribute}
    {children : List Tree} (h : dom.Holds (.node id (.element ns name attrs) children))
    (hdistinct : (Tree.node id (.element ns name attrs) children).ids.Nodup) :
    dom.image? id =
      some (.element (Text.lowercase name) attrs (children.flatMap Tree.images)) := by
  have hsize : (Tree.node id (.element ns name attrs) children).ids.length ≤ dom.cells.size := by
    have hsubset : (Tree.node id (.element ns name attrs) children).ids ⊆
        List.range dom.cells.size := fun i hi => List.mem_range.2 (h.lt_size i hi)
    have hle := (List.subperm_of_subset hdistinct hsubset).length_le
    rwa [List.length_range] at hle
  have hsteps := h.steps_le
  cases h with
  | node hkind hchildren inner =>
    simp only [Tree.steps] at hsteps
    -- the children take what they need, one step closes the element, and the rest is left over
    obtain ⟨spare, hspare⟩ : ∃ spare, 2 * dom.cells.size =
        Tree.steps.stepsAll children + (spare + 1) :=
      ⟨2 * dom.cells.size - Tree.steps.stepsAll children - 1, by omega⟩
    have hinner := imageFrom?_trees (fun child hchild => (inner child hchild).reads)
      (Text.lowercase name) attrs [] [] [] (spare + 1)
    rw [List.append_nil, List.append_nil] at hinner
    rw [Dom.image?, hkind]
    simp only
    rw [hchildren, OpenImage.start, hspare, hinner, Dom.imageFrom?.eq_def]
    simp [OpenImage.close]

/-- Texts with a comment between them, and an element between texts. -/
theorem image?_of_holds_comment :
    let dom : Dom := ⟨#[⟨.document, none, #[1]⟩,
      ⟨.element .html "div" [⟨"id", "x"⟩], some 0, #[2, 3, 4, 5, 7]⟩, ⟨.text "a", some 1, #[]⟩,
      ⟨.comment, some 1, #[]⟩, ⟨.text "b", some 1, #[]⟩,
      ⟨.element .svg "clipPath" [], some 1, #[6]⟩, ⟨.text "c", some 5, #[]⟩,
      ⟨.text "d", some 1, #[]⟩]⟩
    let children : List Tree := [.node 2 (.text "a") [], .node 3 .comment [],
      .node 4 (.text "b") [], .node 5 (.element .svg "clipPath" []) [.node 6 (.text "c") []],
      .node 7 (.text "d") []]
    dom.Holds (.node 1 (.element .html "div" [⟨"id", "x"⟩]) children) ∧
      (Tree.node 1 (.element .html "div" [⟨"id", "x"⟩]) children).ids.Nodup ∧
      dom.image? 1 = some (.element "div" [⟨"id", "x"⟩]
        [.text "a", .text "b", .element "clippath" [] [.text "c"], .text "d"]) := by
  intro dom children
  have hleaf : ∀ id kind, dom.kind? id = some kind → dom.children id = [] →
      dom.Holds (.node id kind []) := fun id kind hkind hnone =>
    .node hkind hnone fun child hchild => absurd hchild List.not_mem_nil
  have hholds : dom.Holds (.node 1 (.element .html "div" [⟨"id", "x"⟩]) children) := by
    have hinner : ∀ child ∈ [Tree.node 6 (.text "c") []], dom.Holds child :=
      List.forall_mem_singleton.2 (hleaf 6 _ rfl rfl)
    refine .node rfl rfl ?_
    simp only [children, List.forall_mem_cons]
    exact ⟨hleaf 2 _ rfl rfl, hleaf 3 _ rfl rfl, hleaf 4 _ rfl rfl, .node rfl rfl hinner,
      hleaf 7 _ rfl rfl, List.forall_mem_nil _⟩
  have hdistinct : (Tree.node 1 (.element .html "div" [⟨"id", "x"⟩]) children).ids.Nodup := by
    decide
  exact ⟨hholds, hdistinct, image?_of_holds hholds hdistinct⟩

end TexListing.Html
