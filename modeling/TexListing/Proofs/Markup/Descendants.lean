import TexListing.Proofs.Markup.Places

/-!
# The nodes of a tree, one after the other

The nodes of a tree are found with a list of pending trees, of which the next gives way to its
children. Asked for one node at a time, this walk comes to each place of the tree once, a parent
before its children and the children in order, and then it is at its end. What is counted and what is
collected along the walk is what recursion on the tree counts and collects, and so it is known of an
element with one more child from the element and the child.

* `Node.next?`, `Node.walk?`: one step of the walk, and the node that it comes to after others.
* `walk?_eq`: from any pending trees on it comes to the nodes of one tree after the other.
* `Node.fullText`, `textContent_eq_fullText`: the text of a tree by recursion.
* `count_addChild`, `textContent_addChild`: one more child.
* `descendants_exact`: what the walk comes to, and what it counts and collects.
-/

namespace TexListing.Markup.Node

/-! ## The walk -/

/-- The next of the pending trees, and what is pending after it. The tree gives way to its children.
There is none once nothing is pending. -/
def next? : List Node → Option (Node × List Node)
  | [] => none
  | node :: pending => some (node, node.children ++ pending)

/-- What the walk comes to when it is asked once more after a number of times. -/
def walk? (pending : List Node) : Nat → Option Node
  | 0 => (next? pending).map Prod.fst
  | k + 1 => (next? pending).bind fun next => walk? next.2 k

/-- The nodes of the next tree and of those pending after it are the tree itself and the nodes that
are then pending. -/
theorem flatMap_preorder_cons (node : Node) (pending : List Node) :
    (node :: pending).flatMap preorder = node :: (node.children ++ pending).flatMap preorder := by
  rw [List.flatMap_cons, preorder_eq, List.cons_append, List.flatMap_append]

/-- **From any pending trees on** the walk comes to the nodes of one tree after the other, each tree
in preorder, and then to no more. -/
theorem walk?_eq (pending : List Node) (k : Nat) :
    walk? pending k = (pending.flatMap preorder)[k]? := by
  -- no measure is needed here: each question takes one node off the front of those to come
  induction k generalizing pending with
  | zero =>
    cases pending with
    | nil => rfl
    | cons node pending =>
      rw [flatMap_preorder_cons]
      rfl
  | succ k ih =>
    cases pending with
    | nil => rfl
    | cons node pending =>
      rw [flatMap_preorder_cons, List.getElem?_cons_succ, ← ih]
      rfl

theorem walk?_descendants (node : Node) (k : Nat) : walk? [node] k = node.descendants[k]? := by
  rw [walk?_eq, descendants_eq, List.flatMap_singleton]

/-! ## Texts -/

/-- The characters of all texts of the tree, by recursion on the tree. -/
def fullText : Node → String
  | .text content => content
  | .element _ _ children => fullTextAll children
where
  /-- The characters of trees, one tree after the other. -/
  fullTextAll : List Node → String
    | [] => ""
    | node :: rest => node.fullText ++ fullTextAll rest

theorem join_ownText_flatMap {nodes : List Node}
    (h : ∀ node ∈ nodes, String.join (node.preorder.map ownText) = node.fullText) :
    String.join ((nodes.flatMap preorder).map ownText) = fullText.fullTextAll nodes := by
  induction nodes with
  | nil => rfl
  | cons node rest ih =>
    obtain ⟨hnode, hrest⟩ := List.forall_mem_cons.1 h
    rw [List.flatMap_cons, List.map_append, String.join_append, hnode, ih hrest,
      fullText.fullTextAll]

theorem join_ownText (node : Node) :
    String.join (node.preorder.map ownText) = node.fullText := by
  induction node using Node.induction with
  | text content =>
    rw [preorder, fullText, List.map_singleton, String.join_cons, String.join_nil,
      String.append_empty, ownText]
  | element tag attrs children ih =>
    -- the element itself has no characters
    rw [preorder_eq, fullText, List.map_cons, String.join_cons, ownText, String.empty_append]
    exact join_ownText_flatMap ih

/-- **The text of a tree**, by recursion. -/
theorem textContent_eq_fullText (node : Node) : node.textContent = node.fullText := by
  rw [textContent, descendants_eq, join_ownText]

/-! ## One more child -/

theorem fullTextAll_append (nodes later : List Node) :
    fullText.fullTextAll (nodes ++ later) =
      fullText.fullTextAll nodes ++ fullText.fullTextAll later := by
  induction nodes with
  | nil => rw [List.nil_append, fullText.fullTextAll, String.empty_append]
  | cons node rest ih =>
    rw [List.cons_append, fullText.fullTextAll, fullText.fullTextAll, ih, String.append_assoc]

/-- **One more child adds its nodes**, if the parent is an element. -/
theorem count_addChild (parent child : Node) :
    (parent.addChild child).count =
      parent.count + if parent.isElement = true then child.count else 0 := by
  rw [count_eq_size, count_eq_size, count_eq_size]
  cases parent with
  | text content => rfl
  | element tag attrs children =>
    have hchild : size.sizeAll [child] = child.size := by
      rw [size.sizeAll, size.sizeAll, Nat.add_zero]
    rw [addChild, size, size, sizeAll_append, hchild, isElement, if_pos rfl, Nat.add_assoc]

/-- **One more child adds its text at the end**, if the parent is an element. -/
theorem textContent_addChild (parent child : Node) :
    (parent.addChild child).textContent =
      parent.textContent ++ if parent.isElement = true then child.textContent else "" := by
  rw [textContent_eq_fullText, textContent_eq_fullText, textContent_eq_fullText]
  cases parent with
  | text content => exact String.append_empty.symm
  | element tag attrs children =>
    have hchild : fullText.fullTextAll [child] = child.fullText := by
      rw [fullText.fullTextAll, fullText.fullTextAll, String.append_empty]
    rw [addChild, fullText, fullText, fullTextAll_append, hchild, isElement, if_pos rfl]

/-- **The walk through a tree** comes to the nodes of the tree in preorder and then to no more. They
are the nodes at the places of the tree, each place once and the places in order. Their number and
their text are those that recursion on the tree gives. One more child adds its nodes and its text to
those of an element, and nothing to a text. -/
theorem descendants_exact (node : Node) :
    (∀ k, walk? [node] k = node.descendants[k]?) ∧
    node.descendants = node.preorder ∧
    (∃ places : List Place, places.Pairwise (· < ·) ∧
      (∀ place, place ∈ places ↔ (node.at? place).isSome = true) ∧
      places.map node.at? = node.descendants.map some) ∧
    node.count = node.size ∧
    node.textContent = node.fullText ∧
    ∀ child, (node.addChild child).count =
        node.count + (if node.isElement = true then child.count else 0) ∧
      (node.addChild child).textContent =
        node.textContent ++ if node.isElement = true then child.textContent else "" := by
  refine ⟨walk?_descendants node, descendants_eq node, ?_, count_eq_size node,
    textContent_eq_fullText node, fun child => ?_⟩
  · refine ⟨node.places, pairwise_places node, fun place => mem_places, ?_⟩
    rw [descendants_eq, map_at?_places]
  · exact ⟨count_addChild node child, textContent_addChild node child⟩

end TexListing.Markup.Node
