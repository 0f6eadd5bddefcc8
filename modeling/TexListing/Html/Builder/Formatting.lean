import TexListing.Html.Builder

/-!
# Formatting elements

Elements that format text go on after a block that ends them, and may be closed in another order
than they were opened.

* `reopenFormatting`: the formatting elements that blocks have ended are opened again.
* `openFormatting`: a new formatting element.
* `closeFormatting`: a formatting element is closed, and what is open within it is put in order.
-/

namespace TexListing.Html

open Markup

/-- The entry is a marker, or its element is open. -/
def isMarkerOrOpen (stack : List OpenElement) : Formatting → Bool
  | .marker => true
  | .element id _ => stack.any (·.id == id)

/-- The entry is about that element. -/
def Formatting.isOf (id : NodeId) : Formatting → Bool
  | .marker => false
  | .element other _ => other == id

/-- The entry with another element in place of the one it is about. -/
def Formatting.moveTo (old new : NodeId) : Formatting → Formatting
  | .marker => .marker
  | .element id tag => .element (if id = old then new else id) tag

/-- The formatting elements that were opened after the last marker, the latest first. -/
def Builder.recentFormatting (b : Builder) : List (NodeId × Tag) :=
  (b.formatting.takeWhile (· != .marker)).filterMap fun
    | .marker => none
    | .element id tag => some (id, tag)

/-- The formatting elements after the last marker or open element are opened again. -/
def reopenFormatting : Build Unit := do
  let b ← get
  let closed := b.formatting.takeWhile (!isMarkerOrOpen b.stack ·)
  for entry in closed.reverse do
    match entry with
    | .marker => pure ()
    | .element id tag =>
      let new ← insertTag tag
      modify fun b => { b with formatting := b.formatting.map (.moveTo id new) }

/-- No formatting from here on. -/
def pushMarker : Build Unit :=
  modify fun b => { b with formatting := .marker :: b.formatting }

/-- The formatting elements up to the last marker count no more. -/
def clearFormatting : Build Unit :=
  modify fun b => { b with formatting := (b.formatting.dropWhile (· != .marker)).tail }

/-- The formatting element counts no more. -/
def dropFormatting (id : NodeId) : Build Unit :=
  modify fun b => { b with formatting := b.formatting.eraseP (·.isOf id) }

/-- The attributes are the same up to their order. -/
def sameAttrs (xs ys : List Attribute) : Bool :=
  xs.length == ys.length && xs.all ys.contains

/-- A new formatting element. Of more than three alike since the last marker, the earliest counts no
more. -/
def openFormatting (tag : Tag) : Build Unit := do
  let alike := (← get).recentFormatting.filter fun (_, other) =>
    other.name == tag.name && sameAttrs other.attrs tag.attrs
  if 3 ≤ alike.length then
    match alike.getLast? with
    | some (id, _) => dropFormatting id
    | none => pure ()
  let id ← insertTag tag
  modify fun b => { b with formatting := .element id tag :: b.formatting }

/-- An end tag without a rule of its own closes the innermost element of its name, unless a special
element is in between. -/
def closeOther (name : String) : Build Unit := do
  let b ← get
  if findsBefore (·.isNamed name) (·.isOneOf specialTags) b.stack then
    let kept := closedThrough (·.isNamed name) b.stack
    modify fun b => { b with stack := kept }

/-- The elements between the formatting element and the block it does not enclose, which are looked
at from the inside out; and what has been found of them so far. -/
structure Unwinding where
  /-- The node that goes into the next element. -/
  last : NodeId
  /-- The element after which the formatting element counts, if that is not its own place. -/
  bookmark : Option NodeId
  /-- The elements that stay open, the outermost first. -/
  kept : List OpenElement

/-- One element in between: it is made anew around what came before, or is open no more. `count`
tells which one it is, from one. -/
def unwindStep (block : NodeId) (count : Nat) (u : Unwinding) (e : OpenElement) :
    Build Unwinding := do
  let entry := (← get).formatting.find? (·.isOf e.id)
  match entry with
  | some (.element _ tag) =>
    if 3 < count then
      dropFormatting e.id
      return u
    else
      let new ← modifyGet fun b =>
        let (new, dom) := b.dom.createElement .html tag.name tag.attrs
        (new, { b with
          dom := dom.append new u.last
          formatting := b.formatting.map (.moveTo e.id new) })
      let bookmark := if u.last = block then some new else u.bookmark
      return ⟨new, bookmark, ⟨new, .html, tag.name⟩ :: u.kept⟩
  | _ => return u

/-- The elements in between, from the inside out. -/
def unwind (block : NodeId) (u : Unwinding) : Nat → List OpenElement → Build Unwinding
  | _, [] => return u
  | count, e :: rest => do
    unwind block (← unwindStep block count u e) (count + 1) rest

/-- A formatting element does not enclose a block that is open within it: the block takes a
formatting element of its own, and all between them is made anew. -/
def splitFormatting (element : NodeId) (tag : Tag) (inside : List OpenElement)
    (outside : List OpenElement) : Build Unit := do
  -- the outermost special element within it, with the elements within and around that one
  let between := (inside.reverse.takeWhile (!·.isOneOf specialTags)).reverse
  let upToBlock := inside.take (inside.length - between.length)
  match upToBlock.getLast?, outside.head? with
  | some block, some ancestor =>
    let u ← unwind block.id ⟨block.id, none, []⟩ 1 between
    modify fun b =>
      let dom := (b.dom.detach u.last).put (b.placeIn ancestor) u.last
      let (new, dom) := dom.createElement .html tag.name tag.attrs
      let dom := (dom.moveChildren block.id new).append block.id new
      let entry := Formatting.element new tag
      let formatting :=
        match u.bookmark with
        | none => b.formatting.map fun e => if e.isOf element then entry else e
        | some previous =>
          (b.formatting.flatMap fun e => if e.isOf previous then [entry, e] else [e]).eraseP
            (·.isOf element)
      let within := upToBlock.dropLast
      { b with
        dom
        formatting
        stack := within ++ ⟨new, .html, tag.name⟩ :: block :: u.kept.reverse ++ outside }
  | _, _ => pure ()

/-- One round of closing a formatting element: whether there may be another one. -/
def closeFormattingOnce (name : String) : Build Bool := do
  let b ← get
  match b.recentFormatting.find? (·.2.name == name) with
  | none =>
    closeOther name
    return false
  | some (id, tag) =>
    if !b.stack.any (·.id == id) then
      dropFormatting id
      return false
    else if !findsBefore (·.id == id) OpenElement.endsScope b.stack then
      return false
    else
      let inside := b.stack.takeWhile (·.id != id)
      let outside := (b.stack.dropWhile (·.id != id)).tail
      if inside.any (·.isOneOf specialTags) then
        splitFormatting id tag inside outside
        return true
      else
        modify fun b => { b with stack := outside }
        dropFormatting id
        return false

/-- Rounds of closing a formatting element, as long as there may be another one. -/
def closeFormattingRounds (name : String) : Nat → Build Unit
  | 0 => pure ()
  | rounds + 1 => do
    if ← closeFormattingOnce name then closeFormattingRounds name rounds

/-- A formatting element is closed by its end tag, in at most eight rounds. -/
def closeFormatting (name : String) : Build Unit := do
  let b ← get
  match b.stack with
  | e :: _ =>
    if e.isNamed name && !b.formatting.any (·.isOf e.id) then pop
    else closeFormattingRounds name 8
  | [] => pure ()

/-- A link within a link closes the outer one. -/
def closeOuterLink : Build Unit := do
  match (← get).recentFormatting.find? (·.2.name == "a") with
  | none => pure ()
  | some (id, _) =>
    closeFormatting "a"
    dropFormatting id
    removeOpen id

end TexListing.Html
