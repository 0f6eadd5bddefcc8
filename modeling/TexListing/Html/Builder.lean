import TexListing.Html.TagSet
import TexListing.Html.Token

/-!
# Building a document

What is known about a document while its tokens come in, and the operations that all rules share.

* `Builder`: the document so far, the elements that are open and the place in the document.
* `Build`: a computation that changes a builder.
* `hasInScope`: whether an element is open, as far as the search goes.
* `insertElement`, `insertText`, `insertComment`: new content at the place where it belongs.
-/

namespace TexListing.Html

open Markup

/-- The part of the document that the next token is expected in. -/
inductive Mode where
  | initial
  | beforeHtml
  | beforeHead
  | inHead
  | afterHead
  | inBody
  | text
  | inTable
  | inTableText
  | inCaption
  | inColumnGroup
  | inTableBody
  | inRow
  | inCell
  | inSelect
  | inSelectInTable
  | inTemplate
  | afterBody
  | inFrameset
  | afterFrameset
  | afterAfterBody
  | afterAfterFrameset
deriving DecidableEq, Repr, Inhabited

/-- An element that has not been closed yet. -/
structure OpenElement where
  id : NodeId
  ns : Namespace
  name : String
deriving DecidableEq, Repr, Inhabited

/-- An element that formats the text after it, or the point before which none does. -/
inductive Formatting where
  | marker
  | element (id : NodeId) (tag : Tag)
deriving DecidableEq, Repr, Inhabited

/-- What is known while a document is built. -/
structure Builder where
  dom : Dom
  mode : Mode
  /-- The mode to go back to after raw text, or after text in a table. -/
  returnMode : Mode
  /-- The modes of the templates that are open, the innermost first. -/
  templateModes : List Mode
  /-- The text in a table of which it is not known yet where it belongs, the latest first. -/
  tableText : List Token
  /-- The document keeps to the rules of old documents. -/
  legacy : Bool
  /-- The elements that are open, the innermost first. -/
  stack : List OpenElement
  /-- The formatting elements, the latest first. -/
  formatting : List Formatting
  head : Option NodeId
  form : Option NodeId
  /-- The body has no content yet that keeps it from being replaced by frames. -/
  framesAllowed : Bool
  /-- A line feed that comes next is left out. -/
  skipLineFeed : Bool
  /-- What is not part of a table goes before it. -/
  fostering : Bool
deriving Repr, Inhabited

/-- Nothing has been read. -/
def Builder.start : Builder where
  dom := .empty
  mode := .initial
  returnMode := .initial
  templateModes := []
  tableText := []
  legacy := false
  stack := []
  formatting := []
  head := none
  form := none
  framesAllowed := true
  skipLineFeed := false
  fostering := false

/-- A computation that changes a builder. -/
abbrev Build := StateM Builder

/-- What is to be done after a rule has been applied to a token. -/
inductive Outcome where
  | done
  /-- The token counts again, in another mode. -/
  | again (mode : Mode) (token : Token)
  /-- The text that follows is read in another way. -/
  | lex (lexing : Lexing)
deriving DecidableEq, Repr, Inhabited

/-! ### Open elements -/

namespace OpenElement

/-- The element is one of these, in the vocabulary of documents. -/
def isOneOf (tags : List String) (e : OpenElement) : Bool :=
  e.ns == .html && tags.contains e.name

/-- The element is this one, in the vocabulary of documents. -/
def isNamed (tag : String) (e : OpenElement) : Bool :=
  e.ns == .html && e.name == tag

/-- The element holds text within a formula. -/
def isFormulaText (e : OpenElement) : Bool :=
  e.ns == .mathml && formulaTextTags.contains e.name

/-- The element holds other content within a drawing. -/
def isDrawingContent (e : OpenElement) : Bool :=
  e.ns == .svg && drawingContentTags.contains e.name

/-- No element beyond this one is in scope. -/
def endsScope (e : OpenElement) : Bool :=
  e.isOneOf scopeTags || e.isFormulaText || e.isDrawingContent

end OpenElement

/-- An element is found, and none of those within it ends the search. -/
def findsBefore (found ends : OpenElement → Bool) (stack : List OpenElement) : Bool :=
  stack.any found && !(stack.takeWhile (!found ·)).any ends

@[simp]
theorem findsBefore_nil (found ends : OpenElement → Bool) : findsBefore found ends [] = false :=
  rfl

/-- The search looks at one element after the other, from the inside out. -/
theorem findsBefore_cons (found ends : OpenElement → Bool) (e : OpenElement)
    (rest : List OpenElement) :
    findsBefore found ends (e :: rest) =
      (found e || (!ends e && findsBefore found ends rest)) := by
  cases h : found e <;> cases he : ends e <;> simp [findsBefore, h, he]

/-- How far the search for an open element goes. -/
inductive Scope where
  | usual
  | listItem
  | button
  | table
  | select

/-- The search ends at the element. -/
def Scope.endsAt (scope : Scope) (e : OpenElement) : Bool :=
  match scope with
  | usual => e.endsScope
  | listItem => e.endsScope || e.isOneOf ["ol", "ul"]
  | button => e.endsScope || e.isNamed "button"
  | table => e.isOneOf tableScopeTags
  | select => !e.isOneOf ["optgroup", "option"]

/-- An element of that kind is in scope. -/
def hasInScopeWhere (scope : Scope) (found : OpenElement → Bool) : Build Bool := do
  return findsBefore found scope.endsAt (← get).stack

/-- An element of that name is in scope. -/
def hasInScope (scope : Scope) (name : String) : Build Bool :=
  hasInScopeWhere scope (·.isNamed name)

/-- The innermost element that is open. -/
def current? : Build (Option OpenElement) := do
  return (← get).stack.head?

/-- The innermost open element is of that kind. -/
def currentIs (p : OpenElement → Bool) : Build Bool := do
  return (← current?).any p

/-- An element of that name is open. -/
def isWithin (name : String) : Build Bool := do
  return (← get).stack.any (·.isNamed name)

/-- The innermost element is closed. -/
def pop : Build Unit :=
  modify fun b => { b with stack := b.stack.tail }

/-- The elements without those up to the first of that kind, which goes too. -/
def closedThrough (p : OpenElement → Bool) (stack : List OpenElement) : List OpenElement :=
  (stack.dropWhile (!p ·)).tail

/-- All elements up to the innermost of that kind are closed, and that one too. -/
def popThrough (p : OpenElement → Bool) : Build Unit :=
  modify fun b => { b with stack := closedThrough p b.stack }

/-- All elements up to the innermost of that name are closed, and that one too. -/
def popThroughNamed (name : String) : Build Unit :=
  popThrough (·.isNamed name)

/-- All elements within the innermost of that kind are closed. -/
def popTo (p : OpenElement → Bool) : Build Unit :=
  modify fun b => { b with stack := b.stack.dropWhile (!p ·) }

/-- The element is open no more; the elements within it stay open. -/
def removeOpen (id : NodeId) : Build Unit :=
  modify fun b => { b with stack := b.stack.eraseP (·.id == id) }

/-- The elements whose end may be left out are closed, as long as they are of that kind. -/
def closeImplied (p : OpenElement → Bool) : Build Unit :=
  modify fun b => { b with stack := b.stack.dropWhile p }

/-- The elements whose end may be left out are closed. -/
def closeImpliedEnds : Build Unit :=
  closeImplied (·.isOneOf impliedEndTags)

/-- The elements whose end may be left out are closed, up to one of that name. -/
def closeImpliedEndsExcept (name : String) : Build Unit :=
  closeImplied fun e => e.isOneOf impliedEndTags && !e.isNamed name

/-- A paragraph is closed, with everything in it. -/
def closeParagraph : Build Unit := do
  closeImpliedEndsExcept "p"
  popThroughNamed "p"

/-- A paragraph that is in scope is closed. -/
def closeParagraphInScope : Build Unit := do
  if ← hasInScope .button "p" then closeParagraph

/-- Frames cannot replace the body any more. -/
def forbidFrames : Build Unit :=
  modify fun b => { b with framesAllowed := false }

/-- The next token is expected in another part. -/
def setMode (mode : Mode) : Build Unit :=
  modify fun b => { b with mode }

/-! ### Places for new content -/

/-- A place in a document. -/
inductive Place where
  /-- At the end of a node. -/
  | within (parent : NodeId)
  /-- Just before a node. -/
  | before (sibling : NodeId)

/-- The node that holds what is inside an element; a template has one of its own for that. -/
def contentOf (dom : Dom) (e : OpenElement) : NodeId :=
  if e.isNamed "template" then ((dom.children e.id).head?).getD e.id else e.id

/-- The place before the innermost table that is open, for what does not belong into it. A template
within it takes the content itself; a table without a place leaves it to the element around. -/
def fosterPlace (dom : Dom) : List OpenElement → Place
  | [] => .within Dom.root
  | e :: rest =>
    if e.isNamed "template" then .within (contentOf dom e)
    else if e.isNamed "table" then
      if (dom.parent? e.id).isSome then .before e.id
      else .within ((rest.head?.map OpenElement.id).getD Dom.root)
    else if rest.isEmpty then .within e.id
    else fosterPlace dom rest

/-- The place for new content of an open element. -/
def Builder.placeIn (b : Builder) (target : OpenElement) : Place :=
  if b.fostering && target.isOneOf tableStructureTags then fosterPlace b.dom b.stack
  else .within (contentOf b.dom target)

/-- The place for new content. -/
def Builder.place (b : Builder) : Place :=
  match b.stack with
  | [] => .within Dom.root
  | target :: _ => b.placeIn target

/-- The document with a node at a place. -/
def Dom.put (dom : Dom) (place : Place) (id : NodeId) : Dom :=
  match place with
  | .within parent => dom.append parent id
  | .before sibling => dom.insertBefore sibling id

/-- The document with text at a place. -/
def Dom.putText (dom : Dom) (place : Place) (content : String) : Dom :=
  match place with
  | .within parent => dom.appendText parent content
  | .before sibling => dom.insertTextBefore sibling content

/-- A new element without a place. A template gets a node for what is inside it. -/
def Dom.createElement (dom : Dom) (ns : Namespace) (name : String) (attrs : List Attribute) :
    NodeId × Dom :=
  let (id, dom) := dom.create (.element ns name attrs)
  if ns = .html ∧ name = "template" then
    let (content, dom) := dom.create .fragment
    (id, dom.append id content)
  else (id, dom)

/-- The builder with its document changed. The document leaves the builder while it changes, so that
it has one owner and changes in place. -/
def Builder.changeDom {α : Type} (b : Builder) (f : Dom → α × Dom) : α × Builder :=
  let dom := b.dom
  let others := { b with dom := .empty }
  let (a, dom) := f dom
  (a, { others with dom })

/-- A new element at the place for new content, which stays closed. -/
def insertClosed (ns : Namespace) (name : String) (attrs : List Attribute) : Build NodeId :=
  modifyGet fun b =>
    let place := b.place
    b.changeDom fun dom =>
      let (id, dom) := dom.createElement ns name attrs
      (id, dom.put place id)

/-- A new element at the place for new content, which is open. -/
def insertElement (ns : Namespace) (name : String) (attrs : List Attribute) : Build NodeId := do
  let id ← insertClosed ns name attrs
  modify fun b => { b with stack := ⟨id, ns, name⟩ :: b.stack }
  return id

/-- The element of a tag, which is open. -/
def insertTag (tag : Tag) : Build NodeId :=
  insertElement .html tag.name tag.attrs

/-- The element of a tag, which is open; where its number is not needed. -/
def openTag (tag : Tag) : Build Unit := do
  let _ ← insertTag tag

/-- The element of a tag, which has no content. -/
def emptyTag (tag : Tag) : Build Unit := do
  let _ ← insertClosed .html tag.name tag.attrs

/-- An element whose tag was left out. -/
def openImplied (name : String) : Build Unit :=
  openTag (.plain name)

/-- Text at the place for new content. -/
def insertText (content : String) : Build Unit :=
  modifyGet fun b =>
    let place := b.place
    b.changeDom fun dom => ((), dom.putText place content)

/-- A comment at a place. -/
def putComment (place : Builder → Place) : Build Unit :=
  modifyGet fun b =>
    let place := place b
    b.changeDom fun dom =>
      let (id, dom) := dom.create .comment
      ((), dom.put place id)

/-- A comment at the place for new content. -/
def insertComment : Build Unit :=
  putComment Builder.place

/-- A comment at the end of the document. -/
def insertCommentInDocument : Build Unit :=
  putComment fun _ => .within Dom.root

/-- A comment at the end of the outermost element. -/
def insertCommentInTop : Build Unit :=
  putComment fun b => .within ((b.stack.getLast?.map OpenElement.id).getD Dom.root)

/-- The outermost element, with these attributes. -/
def insertTop (attrs : List Attribute) : Build Unit :=
  modify fun b =>
    let (id, dom) := b.dom.createElement .html "html" attrs
    { b with dom := dom.append Dom.root id, stack := [⟨id, .html, "html"⟩] }

/-- The element of a tag, whose content is raw text. -/
def openRaw (tag : Tag) (lexing : Lexing) : Build Outcome := do
  openTag tag
  modify fun b => { b with returnMode := b.mode, mode := .text }
  return .lex lexing

/-! ### The mode that the open elements ask for -/

/-- The mode of a choice that the other elements are around. -/
def selectMode : List OpenElement → Mode
  | [] => .inSelect
  | e :: rest =>
    if e.isNamed "template" then .inSelect
    else if e.isNamed "table" then .inSelectInTable
    else selectMode rest

/-- The mode that an element asks for, given the elements around it. -/
def Builder.modeWithin? (b : Builder) (e : OpenElement) (around : List OpenElement) :
    Option Mode :=
  if e.ns ≠ .html then none
  else
    match e.name with
    | "select" => some (selectMode around)
    | "td" | "th" => if around.isEmpty then none else some .inCell
    | "tr" => some .inRow
    | "tbody" | "thead" | "tfoot" => some .inTableBody
    | "caption" => some .inCaption
    | "colgroup" => some .inColumnGroup
    | "table" => some .inTable
    | "template" => some (b.templateModes.head?.getD .inTemplate)
    | "head" => if around.isEmpty then none else some .inHead
    | "body" => some .inBody
    | "frameset" => some .inFrameset
    | "html" => some (if b.head.isNone then .beforeHead else .afterHead)
    | _ => none

/-- The mode that the innermost of the elements asks for that asks for one. -/
def Builder.modeFor (b : Builder) : List OpenElement → Mode
  | [] => .inBody
  | e :: rest =>
    match b.modeWithin? e rest with
    | some mode => mode
    | none => modeFor b rest

/-- The mode that the open elements ask for. -/
def fittingMode : Build Mode := do
  let b ← get
  return b.modeFor b.stack

/-- The mode becomes the one that the open elements ask for. -/
def resetMode : Build Unit := do
  setMode (← fittingMode)

end TexListing.Html
