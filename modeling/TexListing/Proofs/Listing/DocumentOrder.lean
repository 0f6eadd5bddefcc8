import TexListing.Proofs.Listing.Walk

/-!
# Document order

The nodes of a tree in document order, each with the elements around it. The pieces of a listing are
laid out along that order: what a node adds depends on the elements around it and on whether
anything stands before it, and on nothing else.

* `Node.occurrences`: the nodes in document order, each with the elements around it.
* `Hidden`: a node within a line break, which adds nothing.
* `place`: the pieces after one more node.
* `piecesOf_eq`: the pieces of a tree are placed node by node.
-/

namespace TexListing.Markup

/-- The nodes of a tree in document order, each with the elements around it, the nearest first,
given those around the tree. -/
def Node.occurrences (around : List Node) : Node → List (Node × List Node)
  | .text content => [(.text content, around)]
  | .element tag attrs children =>
    (.element tag attrs children, around) ::
      occurrencesAll (.element tag attrs children :: around) children
where
  /-- The nodes of trees that have the same elements around them. -/
  occurrencesAll (around : List Node) : List Node → List (Node × List Node)
    | [] => []
    | node :: rest => node.occurrences around ++ occurrencesAll around rest

theorem occurrencesAll_eq (around nodes : List Node) :
    Node.occurrences.occurrencesAll around nodes = nodes.flatMap (Node.occurrences around) := by
  induction nodes with
  | nil => rfl
  | cons node rest ih => rw [Node.occurrences.occurrencesAll, ih, List.flatMap_cons]

theorem occurrences_text (content : String) (around : List Node) :
    (Node.text content).occurrences around = [(.text content, around)] := by
  rw [Node.occurrences]

theorem occurrences_element (tag : String) (attrs : List Attribute) (children around : List Node) :
    (Node.element tag attrs children).occurrences around =
      (.element tag attrs children, around) ::
        children.flatMap (Node.occurrences (.element tag attrs children :: around)) := by
  rw [Node.occurrences, occurrencesAll_eq]

end TexListing.Markup

namespace TexListing.Listing

open Markup Style

variable {options : Options}

/-- One of the elements around is a line break. -/
def Hidden (around : List Node) : Prop :=
  ∃ node ∈ around, endsLine node.tag = true

instance (around : List Node) : Decidable (Hidden around) :=
  inferInstanceAs (Decidable (∃ node ∈ around, endsLine node.tag = true))

theorem hidden_cons (node : Node) (around : List Node) :
    Hidden (node :: around) ↔ endsLine node.tag = true ∨ Hidden around := by
  simp [Hidden]

/-- The pieces after one more node, given the elements around it. -/
def place (options : Options) (pieces : List Piece) : Node × List Node → List Piece
  | (.text content, around) =>
    if Hidden around ∨ content = "" then pieces
    else pieces ++ [.run content (nearestColor? options around)]
  | (.element tag _ _, around) =>
    if Hidden around then pieces
    else if endsLine tag = true ∨ (startsLine options tag = true ∧ pieces ≠ []) then
      pieces ++ [.lineBreak]
    else pieces

theorem place_hidden (pieces : List Piece) (node : Node) {around : List Node} (h : Hidden around) :
    place options pieces (node, around) = pieces := by
  cases node with
  | text content => rw [place, if_pos (.inl h)]
  | element tag attrs children => rw [place, if_pos h]

/-- **Nothing within a line break is placed.** -/
theorem foldl_place_hidden (node : Node) :
    ∀ {around : List Node} (pieces : List Piece), Hidden around →
      (node.occurrences around).foldl (place options) pieces = pieces := by
  induction node using Node.induction with
  | text content =>
    intro around pieces h
    rw [occurrences_text, List.foldl_cons, place_hidden _ _ h, List.foldl_nil]
  | element tag attrs children ih =>
    intro around pieces h
    rw [occurrences_element, List.foldl_cons, place_hidden _ _ h, List.foldl_flatMap]
    refine List.foldlRecOn (motive := fun placed => placed = pieces) children _ rfl ?_
    intro placed hplaced child hchild
    rw [hplaced]
    exact ih child hchild pieces ((hidden_cons _ _).2 (.inr h))

/-- **Reading a tree places its nodes**, if it is not within a line break. -/
theorem read_pieces (node : Node) :
    ∀ {around : List Node} (t : Transcript), ¬ Hidden around →
      (t.read options (nearestColor? options around) node).pieces.reverse =
        (node.occurrences around).foldl (place options) t.pieces.reverse := by
  induction node using Node.induction with
  | text content =>
    intro around t h
    rw [read_text, write_pieces, occurrences_text, List.foldl_cons, List.foldl_nil, place]
    by_cases hc : content = "" <;> simp [hc, h]
  | element tag attrs children ih =>
    intro around t h
    rw [read_element, occurrences_element, List.foldl_cons, List.foldl_flatMap, place, if_neg h]
    by_cases ht : endsLine tag = true
    · -- the children of a line break are not read, and each of them is hidden
      have hin : Hidden (.element tag attrs children :: around) :=
        (hidden_cons _ _).2 (.inl ht)
      rw [if_pos (classify_eq_lineBreak.2 ht), if_pos (.inl ht)]
      refine (List.foldlRecOn (motive := fun placed => placed = t.endLine.pieces.reverse) children
        _ (by simp [Transcript.endLine]) ?_).symm
      intro placed hplaced child _
      rw [foldl_place_hidden child placed hin, hplaced]
    · -- the nearest colour around the children is the one that they are read under
      have hf : endsLine tag = false := by simpa using ht
      have hin : ¬ Hidden (.element tag attrs children :: around) := by
        rw [hidden_cons, not_or]
        exact ⟨ht, h⟩
      have hchildren : ∀ t : Transcript,
          (children.foldl (Transcript.read options
            (nearestColor? options (.element tag attrs children :: around))) t).pieces.reverse =
          children.foldl (fun pieces child =>
            (child.occurrences (.element tag attrs children :: around)).foldl (place options) pieces)
            t.pieces.reverse :=
        fun t => foldl_in_step (P := fun _ => True) (h := fun t => t.pieces.reverse) children
          (fun _ _ _ _ => trivial) (fun child hchild t _ => ih child hchild t hin) t trivial
      rw [if_neg (mt classify_eq_lineBreak.1 ht), ← nearestColor?_cons, hchildren,
        enter_pieces t hf]
      simp only [ht, false_or, Bool.false_eq_true, ne_eq, List.reverse_eq_nil_iff]
      split <;> simp

/-- The pieces of a tree in document order. -/
def piecesOf (options : Options) (root : Node) : List Piece :=
  (transcribe options root).pieces.reverse

/-- **The pieces of a tree are placed node by node**, in document order. -/
theorem piecesOf_eq (options : Options) (root : Node) :
    piecesOf options root = (root.occurrences []).foldl (place options) [] := by
  have hvisible : ¬ Hidden [] := by simp [Hidden]
  rw [piecesOf, transcribe_eq]
  exact read_pieces root .empty hvisible

theorem Solid.place {pieces : List Piece} (h : Solid pieces) (occurrence : Node × List Node) :
    Solid (place options pieces occurrence) := by
  obtain ⟨⟨tag, attrs, children⟩ | content, around⟩ := occurrence <;> rw [Listing.place]
  · split
    · exact h
    · split
      · exact solid_append.2 ⟨h, solid_lineBreak⟩
      · exact h
  · split
    · exact h
    · next hne =>
      rw [not_or] at hne
      exact solid_append.2 ⟨h, solid_run.2 hne.2⟩

theorem piecesOf_solid (options : Options) (root : Node) : Solid (piecesOf options root) := by
  rw [piecesOf_eq]
  exact List.foldlRecOn (motive := Solid) _ _ solid_empty fun pieces h occurrence _ =>
    h.place occurrence

end TexListing.Listing
