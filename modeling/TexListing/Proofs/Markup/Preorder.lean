import TexListing.Markup.Node

/-!
# Preorder

The nodes of a tree by recursion, each before its children. The nodes that `Node.descendants` finds
with a list of pending trees are the same, in the same order.

* `Node.induction`: induction on a tree, with the hypothesis for every child.
* `Node.preorder`: the nodes by recursion.
* `descendants_eq`: pending trees are found one after the other, each in preorder.
* `count_eq_size`: their number is the one that is told by recursion.
* `forall_descendants`: what holds of all nodes holds of the tree and of all nodes of its children.
-/

namespace TexListing.Markup

/-- Induction on a tree, with the hypothesis for every child of an element. -/
@[elab_as_elim]
theorem Node.induction {motive : Node → Prop} (text : ∀ content, motive (.text content))
    (element : ∀ tag attrs children, (∀ child ∈ children, motive child) →
      motive (.element tag attrs children)) : ∀ node, motive node
  | .text content => text content
  | .element tag attrs children =>
    element tag attrs children fun child _ => Node.induction text element child

/-- The nodes of the tree, each before its children. -/
def Node.preorder : Node → List Node
  | .text content => [.text content]
  | .element tag attrs children => .element tag attrs children :: preorderAll children
where
  /-- The nodes of trees, one tree after the other. -/
  preorderAll : List Node → List Node
    | [] => []
    | node :: rest => node.preorder ++ preorderAll rest

theorem preorderAll_eq (nodes : List Node) :
    Node.preorder.preorderAll nodes = nodes.flatMap Node.preorder := by
  induction nodes with
  | nil => rfl
  | cons node rest ih => rw [Node.preorder.preorderAll, ih, List.flatMap_cons]

theorem preorder_eq (node : Node) :
    node.preorder = node :: node.children.flatMap Node.preorder := by
  cases node with
  | text content => rw [Node.preorder]; rfl
  | element tag attrs children => rw [Node.preorder, preorderAll_eq]; rfl

/-- The pending trees are found one after the other, each in preorder. -/
theorem descendantsFrom_eq (found pending : List Node) :
    Node.descendantsFrom found pending = (pending.flatMap Node.preorder).reverse ++ found := by
  fun_induction Node.descendantsFrom found pending with
  | case1 found => rfl
  | case2 found node pending ih =>
    rw [ih, List.flatMap_cons, preorder_eq node, List.flatMap_append]
    simp

theorem descendants_eq (node : Node) : node.descendants = node.preorder := by
  rw [Node.descendants, descendantsFrom_eq]
  simp

theorem length_preorderAll {nodes : List Node}
    (h : ∀ node ∈ nodes, node.preorder.length = node.size) :
    (nodes.flatMap Node.preorder).length = Node.size.sizeAll nodes := by
  induction nodes with
  | nil => rfl
  | cons node rest ih =>
    obtain ⟨hnode, hrest⟩ := List.forall_mem_cons.1 h
    rw [List.flatMap_cons, List.length_append, hnode, ih hrest, Node.size.sizeAll]

theorem length_preorder (node : Node) : node.preorder.length = node.size := by
  induction node using Node.induction with
  | text content => rfl
  | element tag attrs children ih =>
    rw [preorder_eq, Node.size_eq, List.length_cons, Node.children, length_preorderAll ih,
      Nat.add_comm]

/-- **The number of nodes**, by recursion. -/
theorem count_eq_size (node : Node) : node.count = node.size := by
  rw [Node.count, descendants_eq, length_preorder]

/-- The nodes of an element are the element itself and the nodes of its children. -/
theorem forall_descendants {P : Node → Prop} {tag : String} {attrs : List Attribute}
    {children : List Node} :
    (∀ node ∈ (Node.element tag attrs children).descendants, P node) ↔
      P (.element tag attrs children) ∧
        ∀ child ∈ children, ∀ node ∈ child.descendants, P node := by
  simp only [descendants_eq]
  rw [preorder_eq, List.forall_mem_cons]
  simp only [Node.children, List.mem_flatMap, forall_exists_index, and_imp]
  exact and_congr_right fun _ => ⟨fun h c hc n hn => h n c hc hn, fun h n c hc hn => h c hc n hn⟩

end TexListing.Markup
