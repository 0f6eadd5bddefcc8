import TexListing.Markup.Node

/-!
# Documents

A document while it is built. Its nodes are numbered and linked both ways, so that they can be
moved.

* `Dom`: the nodes.
* `Dom.create`, `Dom.append`, `Dom.insertBefore`, `Dom.detach`: new nodes and their places.
* `Dom.appendText`, `Dom.insertTextBefore`: text, which joins the text just before it.
-/

namespace TexListing.Html

open Markup

/-- The number of a node. -/
abbrev NodeId := Nat

/-- The vocabulary that the name of an element belongs to. -/
inductive Namespace where
  | html
  | mathml
  | svg
deriving DecidableEq, Repr, Inhabited

/-- What a node is. -/
inductive NodeKind where
  | document
  /-- What is inside a template, which is not part of the document. -/
  | fragment
  | doctype
  | comment
  /-- A processing instruction. -/
  | instruction
  | text (content : String)
  | element (ns : Namespace) (name : String) (attrs : List Attribute)
deriving DecidableEq, Repr, Inhabited

/-- A node and its place. -/
structure Cell where
  kind : NodeKind
  parent : Option NodeId
  children : Array NodeId
deriving Repr, Inhabited

/-- The nodes of a document by their numbers. -/
structure Dom where
  cells : Array Cell
deriving Repr, Inhabited

namespace Dom

/-- The number of the document itself. -/
def root : NodeId := 0

/-- A document without content. -/
def empty : Dom :=
  ⟨#[⟨.document, none, #[]⟩]⟩

/-- What the node is. -/
def kind? (dom : Dom) (id : NodeId) : Option NodeKind :=
  (dom.cells[id]?).map Cell.kind

/-- The node around a node. -/
def parent? (dom : Dom) (id : NodeId) : Option NodeId :=
  (dom.cells[id]?).bind Cell.parent

/-- The children of a node in order. -/
def children (dom : Dom) (id : NodeId) : List NodeId :=
  match dom.cells[id]? with
  | some cell => cell.children.toList
  | none => []

/-- The document with one cell changed. -/
def change (dom : Dom) (id : NodeId) (f : Cell → Cell) : Dom :=
  ⟨dom.cells.modify id f⟩

/-- A new node without a place, and the document that holds it. -/
def create (dom : Dom) (kind : NodeKind) : NodeId × Dom :=
  (dom.cells.size, ⟨dom.cells.push ⟨kind, none, #[]⟩⟩)

/-- The node without a place. -/
def detach (dom : Dom) (id : NodeId) : Dom :=
  match dom.parent? id with
  | none => dom
  | some parent =>
    (dom.change parent fun cell => { cell with children := cell.children.erase id }).change id
      fun cell => { cell with parent := none }

/-- The node as the last child of the parent, wherever it was. -/
def append (dom : Dom) (parent id : NodeId) : Dom :=
  ((dom.detach id).change parent fun cell => { cell with children := cell.children.push id }).change
    id fun cell => { cell with parent := some parent }

/-- The numbers with another one before the first that equals `sibling`, or at their end. -/
def placeBefore (sibling id : NodeId) (children : Array NodeId) : Array NodeId :=
  match children.idxOf? sibling with
  | some i => children.insertIdxIfInBounds i id
  | none => children.push id

/-- The node just before a sibling that has a place, wherever it was. -/
def insertBefore (dom : Dom) (sibling id : NodeId) : Dom :=
  let dom := dom.detach id
  match dom.parent? sibling with
  | none => dom
  | some parent =>
    (dom.change parent fun cell =>
      { cell with children := placeBefore sibling id cell.children }).change id
        fun cell => { cell with parent := some parent }

/-- The text with more text at its end; another node stays as it is. -/
def lengthen (dom : Dom) (id : NodeId) (more : String) : Dom :=
  dom.change id fun cell =>
    match cell with
    | ⟨.text content, parent, children⟩ => ⟨.text (content ++ more), parent, children⟩
    | cell => cell

/-- The node is a text. -/
def isText (dom : Dom) (id : NodeId) : Bool :=
  match dom.kind? id with
  | some (.text _) => true
  | _ => false

/-- The text at the end of the parent. It joins the last child if that is a text. -/
def appendText (dom : Dom) (parent : NodeId) (content : String) : Dom :=
  match (dom.cells[parent]?).bind (·.children.back?) with
  | some last =>
    if dom.isText last then dom.lengthen last content
    else addText dom
  | none => addText dom
where
  /-- The text as a node of its own. -/
  addText (dom : Dom) : Dom :=
    let (id, dom) := dom.create (.text content)
    dom.append parent id

/-- The child just before another one. -/
def childBefore? (dom : Dom) (parent sibling : NodeId) : Option NodeId := do
  let siblings := (← dom.cells[parent]?).children
  let i ← siblings.idxOf? sibling
  if i = 0 then none else siblings[i - 1]?

/-- The text just before a sibling that has a place. It joins the node before if that is a text. -/
def insertTextBefore (dom : Dom) (sibling : NodeId) (content : String) : Dom :=
  match dom.parent? sibling with
  | none => dom
  | some parent =>
    match dom.childBefore? parent sibling with
    | some previous =>
      if dom.isText previous then dom.lengthen previous content
      else addText dom
    | none => addText dom
where
  /-- The text as a node of its own. -/
  addText (dom : Dom) : Dom :=
    let (id, dom) := dom.create (.text content)
    dom.insertBefore sibling id

/-- All children of one node as the last children of another. -/
def moveChildren (dom : Dom) (source target : NodeId) : Dom :=
  (dom.children source).foldl (fun dom id => dom.append target id) dom

/-- The element with those of the attributes that it has not yet. -/
def addMissingAttrs (dom : Dom) (id : NodeId) (more : List Attribute) : Dom :=
  dom.change id fun cell =>
    match cell.kind with
    | .element ns name attrs =>
      let missing := more.filter fun a => !attrs.any (·.name == a.name)
      { cell with kind := .element ns name (attrs ++ missing) }
    | _ => cell

end Dom

end TexListing.Html
