import TexListing.Text.Caseless
import TexListing.Text.Lowercase

/-!
# Markup trees

A tree of elements and texts.

* `Node`: the trees, `Node.make` the elements with a lowercase tag.
* `Node.attr?`: the value of an attribute, by a name of either case.
* `Node.addChild`: one more child at the end.
* `Node.descendants`: the nodes of a tree in document order, from which `Node.count` and
  `Node.textContent` are taken.
* `Node.same`: whether two trees are equal.
-/

namespace TexListing.Markup

/-- A name and a value that belong to an element. -/
structure Attribute where
  name : String
  value : String
deriving DecidableEq, Repr, Inhabited

/-- A markup tree. -/
inductive Node where
  /-- An element with its attributes and children, both in document order. -/
  | element (tag : String) (attrs : List Attribute) (children : List Node)
  /-- Characters. -/
  | text (content : String)
deriving Repr, Inhabited

namespace Node

/-- An element without children. Its tag is kept in lowercase letters. -/
def make (tag : String) (attrs : List Attribute) : Node :=
  element (Text.lowercase tag) attrs []

/-- The tag of an element; a text has the empty tag. -/
def tag : Node → String
  | element tag _ _ => tag
  | text _ => ""

/-- The attributes of an element; a text has none. -/
def attrs : Node → List Attribute
  | element _ attrs _ => attrs
  | text _ => []

/-- The children of an element; a text has none. -/
def children : Node → List Node
  | element _ _ children => children
  | text _ => []

/-- The node is an element. -/
def isElement : Node → Bool
  | element .. => true
  | text _ => false

/-- The value of the first attribute of that name, in letters of either case. -/
def attr? (name : String) (node : Node) : Option String :=
  (node.attrs.find? (·.name.sameCaseless name)).map Attribute.value

/-- The element with one more child at the end; a text stays as it is. -/
def addChild (parent child : Node) : Node :=
  match parent with
  | element tag attrs children => element tag attrs (children ++ [child])
  | text content => text content

/-- How many nodes the tree has, by recursion on the tree. -/
def size : Node → Nat
  | element _ _ children => 1 + sizeAll children
  | text _ => 1
where
  /-- How many nodes the trees have together. -/
  sizeAll : List Node → Nat
    | [] => 0
    | node :: rest => node.size + sizeAll rest

theorem size_eq (node : Node) : node.size = 1 + size.sizeAll node.children := by
  cases node <;> simp [size, size.sizeAll, children]

theorem sizeAll_append (xs ys : List Node) :
    size.sizeAll (xs ++ ys) = size.sizeAll xs + size.sizeAll ys := by
  induction xs with
  | nil => simp [size.sizeAll]
  | cons x xs ih => simp [size.sizeAll, ih, Nat.add_assoc]

theorem sizeAll_zip_le (xs ys : List Node) :
    size.sizeAll ((xs.zip ys).map Prod.fst) ≤ size.sizeAll xs := by
  induction xs generalizing ys with
  | nil => simp [size.sizeAll]
  | cons x xs ih =>
    cases ys with
    | nil => simp [size.sizeAll]
    | cons y ys =>
      have := ih ys
      simp only [List.zip_cons_cons, List.map_cons, size.sizeAll]
      omega

/-- Adds the nodes of the pending trees, in document order, to the front of those found so far,
which are in reverse. The next tree gives way to its children. -/
def descendantsFrom (found : List Node) : List Node → List Node
  | [] => found
  | node :: pending => descendantsFrom (node :: found) (node.children ++ pending)
termination_by pending => size.sizeAll pending
decreasing_by
  rw [sizeAll_append, size.sizeAll, size_eq node]
  omega

/-- The nodes of the tree in document order, the tree itself first. -/
def descendants (node : Node) : List Node :=
  (descendantsFrom [] [node]).reverse

/-- The number of nodes of the tree. -/
def count (node : Node) : Nat :=
  node.descendants.length

/-- The characters of a text, none of an element. -/
def ownText : Node → String
  | element .. => ""
  | text content => content

/-- The characters of all texts of the tree, in document order. -/
def textContent (node : Node) : String :=
  String.join (node.descendants.map ownText)

/-- The trees of each pair are equal. The next pair gives way to the pairs of its children. -/
def sameAll : List (Node × Node) → Bool
  | [] => true
  | (text s, text t) :: pending => s == t && sameAll pending
  | (element tag attrs children, element tag' attrs' children') :: pending =>
    tag == tag' && attrs == attrs' && children.length == children'.length &&
      sameAll (children.zip children' ++ pending)
  | _ => false
termination_by pairs => size.sizeAll (pairs.map Prod.fst)
decreasing_by
  · simp only [List.map_cons, size.sizeAll, size]
    omega
  · have zipped := sizeAll_zip_le children children'
    simp only [List.map_append, List.map_cons, sizeAll_append, size.sizeAll, size]
    omega

/-- The trees are equal. -/
def same (a b : Node) : Bool :=
  sameAll [(a, b)]

end Node

end TexListing.Markup
