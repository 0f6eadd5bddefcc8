import TexListing.Html.Dom

/-!
# Documents as markup trees

The markup tree of an element of a finished document: its elements and texts, without comments and
all else.

* `Dom.image?`: the tree of an element.
* `Dom.bodyElement?`: the element that holds the content of the document.
-/

namespace TexListing.Html

open Markup

/-- An element of which the first children have been read. -/
structure OpenImage where
  tag : String
  attrs : List Attribute
  /-- The children read so far, the latest first. -/
  done : List Node
  /-- The children yet to be read. -/
  pending : List NodeId

namespace OpenImage

/-- The element with one more child read. -/
def add (top : OpenImage) (node : Node) : OpenImage :=
  { top with done := node :: top.done }

/-- The tree of an element whose children have all been read. -/
def close (top : OpenImage) : Node :=
  .element top.tag top.attrs top.done.reverse

/-- An element of which no child has been read. -/
def start (name : String) (attrs : List Attribute) (children : List NodeId) : OpenImage :=
  ⟨Text.lowercase name, attrs, [], children⟩

end OpenImage

namespace Dom

/-- Reads the elements that are open, the innermost first. A step reads one child or closes an
element. -/
def imageFrom? (dom : Dom) : Nat → OpenImage → List OpenImage → Option Node
  | 0, _, _ => none
  | steps + 1, top, around =>
    match top.pending with
    | [] =>
      match around with
      | [] => some top.close
      | outer :: around => imageFrom? dom steps (outer.add top.close) around
    | child :: pending =>
      let top := { top with pending }
      match dom.kind? child with
      | some (.text content) => imageFrom? dom steps (top.add (.text content)) around
      | some (.element _ name attrs) =>
        imageFrom? dom steps (.start name attrs (dom.children child)) (top :: around)
      | _ => imageFrom? dom steps top around

/-- The markup tree of an element. There is one, because each node is read once and closed at most
once. -/
def image? (dom : Dom) (id : NodeId) : Option Node :=
  match dom.kind? id with
  | some (.element _ name attrs) =>
    dom.imageFrom? (2 * dom.cells.size) (.start name attrs (dom.children id)) []
  | _ => none

/-- The name of an element. -/
def name? (dom : Dom) (id : NodeId) : Option String :=
  match dom.kind? id with
  | some (.element _ name _) => some name
  | _ => none

/-- The first child of the outermost element that is named `body`, or else the outermost element. -/
def bodyElement? (dom : Dom) : Option NodeId :=
  match (dom.children root).find? fun id => (dom.name? id).isSome with
  | none => none
  | some top =>
    match (dom.children top).find? fun id => dom.name? id == some "body" with
    | some body => some body
    | none => some top

end Dom

end TexListing.Html
