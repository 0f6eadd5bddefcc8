import TexListing.Proofs.Markup.Preorder

/-!
# Places in a tree

A place tells which child to go to at each level below a tree. Places are in the order of their
levels, and a place comes before those below it: so a parent comes before its children, and one child
with all that is below it before the next. Preorder is the order of the places.

* `Place`, `Node.at?`, `Node.places`: places, the node at a place, and all places of a tree.
* `mem_places`: the places of a tree are those where there is a node.
* `pairwise_places`: they are in order, each once.
* `map_at?_places`: the nodes at the places are the nodes in preorder.
-/

namespace TexListing.Markup

/-- Which child to go to at each level, the first level first. -/
abbrev Place :=
  List Nat

namespace Node

/-- The node at a place, if there is one. -/
def at? (node : Node) : Place → Option Node
  | [] => some node
  | i :: place => node.children[i]?.bind (at? · place)

/-- The places of a tree, each before the places below it. -/
def places : Node → List Place
  | .text _ => [[]]
  | .element _ _ children => [] :: placesFrom 0 children
where
  /-- The places of neighbours, of which the first is the child of the number. -/
  placesFrom (i : Nat) : List Node → List Place
    | [] => []
    | node :: rest => node.places.map (i :: ·) ++ placesFrom (i + 1) rest

theorem places_eq (node : Node) : node.places = [] :: places.placesFrom 0 node.children := by
  cases node with
  | text content => rw [places]; rfl
  | element tag attrs children => rw [places]; rfl

/-- A place of neighbours begins with the number of one of them and is a place of it. -/
theorem mem_placesFrom {nodes : List Node} {place : Place} {first : Nat} :
    place ∈ places.placesFrom first nodes ↔
      ∃ i child below, nodes[i]? = some child ∧ below ∈ child.places ∧
        place = (first + i) :: below := by
  induction nodes generalizing first with
  | nil => simp [places.placesFrom]
  | cons node rest ih =>
    rw [places.placesFrom, List.mem_append, List.mem_map, ih]
    constructor
    · rintro (⟨below, hbelow, rfl⟩ | ⟨i, child, below, hchild, hbelow, rfl⟩)
      · exact ⟨0, node, below, rfl, hbelow, rfl⟩
      · refine ⟨i + 1, child, below, hchild, hbelow, ?_⟩
        rw [Nat.add_assoc, Nat.add_comm 1 i]
    · rintro ⟨i, child, below, hchild, hbelow, rfl⟩
      cases i with
      | zero =>
        obtain rfl : node = child := Option.some.inj hchild
        exact .inl ⟨below, hbelow, rfl⟩
      | succ i =>
        refine .inr ⟨i, child, below, hchild, hbelow, ?_⟩
        rw [Nat.add_assoc, Nat.add_comm 1 i]

/-- **The places of a tree are those where there is a node.** -/
theorem mem_places {node : Node} {place : Place} :
    place ∈ node.places ↔ (node.at? place).isSome = true := by
  induction place generalizing node with
  | nil =>
    rw [places_eq, at?]
    exact iff_of_true List.mem_cons_self rfl
  | cons i below ih =>
    have hne : (i :: below : Place) ≠ [] := List.cons_ne_nil _ _
    rw [places_eq, List.mem_cons, or_iff_right hne, mem_placesFrom, at?]
    constructor
    · rintro ⟨j, child, below', hchild, hbelow, hplace⟩
      rw [Nat.zero_add, List.cons.injEq] at hplace
      obtain ⟨rfl, rfl⟩ := hplace
      rw [hchild, Option.bind_some]
      exact ih.1 hbelow
    · intro hsome
      cases hchild : node.children[i]? with
      | none =>
        rw [hchild, Option.bind_none] at hsome
        exact absurd hsome Bool.false_ne_true
      | some child =>
        rw [hchild, Option.bind_some] at hsome
        exact ⟨i, child, below, hchild, ih.2 hsome, by rw [Nat.zero_add]⟩

/-- The places of neighbours are in order if those of each of them are. -/
theorem pairwise_placesFrom {nodes : List Node}
    (h : ∀ node ∈ nodes, node.places.Pairwise (· < ·)) :
    ∀ first, (places.placesFrom first nodes).Pairwise (· < ·) := by
  induction nodes with
  | nil => intro first; exact List.Pairwise.nil
  | cons node rest ih =>
    intro first
    obtain ⟨hnode, hrest⟩ := List.forall_mem_cons.1 h
    rw [places.placesFrom, List.pairwise_append, List.pairwise_map]
    refine ⟨?_, ih hrest (first + 1), ?_⟩
    · exact hnode.imp List.cons_lt_cons_self.2
    · -- a place of a later neighbour begins with a greater number
      intro place hplace later hlater
      obtain ⟨below, -, rfl⟩ := List.mem_map.1 hplace
      obtain ⟨i, child, below', -, -, rfl⟩ := mem_placesFrom.1 hlater
      have hlt : first < first + 1 + i := by omega
      exact List.cons_lt_cons_iff.2 (.inl hlt)

/-- **The places of a tree are in order**, and so no place is there twice. -/
theorem pairwise_places (node : Node) : node.places.Pairwise (· < ·) := by
  induction node using Node.induction with
  | text content =>
    rw [places]
    exact List.pairwise_singleton _ _
  | element tag attrs children ih =>
    rw [places, List.pairwise_cons]
    refine ⟨?_, pairwise_placesFrom ih 0⟩
    intro place hplace
    obtain ⟨i, child, below, -, -, rfl⟩ := mem_placesFrom.1 hplace
    exact List.nil_lt_cons _ _

/-- A child with one of its own, and another child after it. -/
example :
    (element "p" [] [element "span" [] [.text "a"], .text "b"]).places = [[], [0], [0, 0], [1]] := by
  rfl

/-- The nodes at the places of the children from a number on. -/
theorem map_at?_placesFrom (node : Node) {nodes : List Node}
    (h : ∀ child ∈ nodes, child.places.map child.at? = child.preorder.map some) :
    ∀ first, node.children.drop first = nodes →
      (places.placesFrom first nodes).map node.at? = (nodes.flatMap preorder).map some := by
  induction nodes with
  | nil => intro first _; rfl
  | cons child rest ih =>
    intro first hdrop
    obtain ⟨hchild, hrest⟩ := List.forall_mem_cons.1 h
    have hfirst : node.children[first]? = some child := by
      rw [← Nat.add_zero first, ← List.getElem?_drop, hdrop]
      rfl
    have hnext : node.children.drop (first + 1) = rest := by
      rw [← List.tail_drop, hdrop, List.tail_cons]
    have hbelow : (child.places.map (first :: ·)).map node.at? = child.preorder.map some := by
      rw [List.map_map, ← hchild]
      refine List.map_congr_left fun place _ => ?_
      rw [Function.comp_apply, at?, hfirst, Option.bind_some]
    rw [places.placesFrom, List.map_append, hbelow, ih hrest (first + 1) hnext, List.flatMap_cons,
      List.map_append]

/-- **Preorder is the order of the places.** -/
theorem map_at?_places (node : Node) : node.places.map node.at? = node.preorder.map some := by
  induction node using Node.induction with
  | text content => rw [places, preorder]; rfl
  | element tag attrs children ih =>
    have hchildren := map_at?_placesFrom (.element tag attrs children) ih 0 rfl
    rw [places_eq, preorder_eq, List.map_cons, List.map_cons, at?]
    exact congrArg _ hchildren

end Node

end TexListing.Markup
