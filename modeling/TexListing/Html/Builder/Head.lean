import TexListing.Html.Builder.Formatting

/-!
# Rules before the body

The rules up to the end of the head of a document.

* `mergeTop`: a second outermost start tag only adds attributes.
* `inHead`: the rules in the head, which other parts follow for some tags.
* `beforeTop`, `beforeHead`, `afterHead`: the rules around it.
-/

namespace TexListing.Html

/-- The token has been dealt with, or is left out. -/
def finished : Build Outcome :=
  return .done

/-- A start tag of the outermost element adds those of its attributes that are new. -/
def mergeTop (tag : Tag) : Build Outcome := do
  if !(← isWithin "template") then
    modify fun b =>
      match b.stack.getLast? with
      | some top => { b with dom := b.dom.addMissingAttrs top.id tag.attrs }
      | none => b
  finished

/-- The end tags before the body that count as content. -/
def contentEndTags : List String :=
  ["body", "html", "br"]

/-- The document type decides on the rules. -/
def initial (token : Token) : Build Outcome := do
  match token with
  | .blanks _ => finished
  | .comment =>
    insertCommentInDocument
    finished
  | _ =>
    modify fun b => { b with legacy := true }
    return .again .beforeHtml token

/-- Before the outermost element. -/
def beforeTop (token : Token) : Build Outcome := do
  match token with
  | .blanks _ => finished
  | .comment =>
    insertCommentInDocument
    finished
  | .startTag tag =>
    if tag.name = "html" then
      insertTop tag.attrs
      setMode .beforeHead
      finished
    else openTop
  | .endTag tag => if tag.name ∈ "head" :: contentEndTags then openTop else finished
  | _ => openTop
where
  /-- The tag of the outermost element was left out. -/
  openTop : Build Outcome := do
    insertTop []
    return .again .beforeHead token

/-- Before the head. -/
def beforeHead (token : Token) : Build Outcome := do
  match token with
  | .blanks _ => finished
  | .comment =>
    insertComment
    finished
  | .startTag tag =>
    if tag.name = "html" then mergeTop tag
    else if tag.name = "head" then
      openHead tag
      setMode .inHead
      finished
    else openImpliedHead
  | .endTag tag => if tag.name ∈ "head" :: contentEndTags then openImpliedHead else finished
  | _ => openImpliedHead
where
  /-- The head is open. -/
  openHead (tag : Tag) : Build Unit := do
    let id ← insertTag tag
    modify fun b => { b with head := some id }
  /-- The tag of the head was left out. -/
  openImpliedHead : Build Outcome := do
    openHead (.plain "head")
    return .again .inHead token

/-- A template opens. -/
def openTemplate (tag : Tag) : Build Outcome := do
  openTag tag
  pushMarker
  forbidFrames
  modify fun b => { b with mode := .inTemplate, templateModes := .inTemplate :: b.templateModes }
  finished

/-- The innermost template ends, with everything in it. -/
def leaveTemplate : Build Unit := do
  popThroughNamed "template"
  clearFormatting
  modify fun b => { b with templateModes := b.templateModes.tail }
  resetMode

/-- The end tag of a template. -/
def closeTemplate : Build Outcome := do
  if ← isWithin "template" then
    closeImplied (·.isOneOf templateImpliedEndTags)
    leaveTemplate
  finished

/-- The start tags that stand in the head. -/
def metadata (tag : Tag) : Build Outcome := do
  if tag.name ∈ emptyMetadataTags then
    emptyTag tag
    finished
  else if tag.name = "title" then openRaw tag (.escapable tag.name)
  else if tag.name = "script" then openRaw tag .script
  else if tag.name = "template" then openTemplate tag
  else openRaw tag (.raw tag.name)

/-- In the head. -/
def inHead (token : Token) : Build Outcome := do
  match token with
  | .blanks content =>
    insertText content
    finished
  | .comment =>
    insertComment
    finished
  | .startTag tag =>
    if tag.name = "html" then mergeTop tag
    else if tag.name ∈ metadataTags || tag.name = "noscript" then metadata tag
    else if tag.name = "head" then finished
    else leaveHead
  | .endTag tag =>
    if tag.name = "head" then
      pop
      setMode .afterHead
      finished
    else if tag.name ∈ contentEndTags then leaveHead
    else if tag.name = "template" then closeTemplate
    else finished
  | _ => leaveHead
where
  /-- The end tag of the head was left out. -/
  leaveHead : Build Outcome := do
    pop
    return .again .afterHead token

/-- Between the head and the body. -/
def afterHead (token : Token) : Build Outcome := do
  match token with
  | .blanks content =>
    insertText content
    finished
  | .comment =>
    insertComment
    finished
  | .startTag tag =>
    if tag.name = "html" then mergeTop tag
    else if tag.name = "body" then
      openTag tag
      forbidFrames
      setMode .inBody
      finished
    else if tag.name = "frameset" then
      openTag tag
      setMode .inFrameset
      finished
    else if tag.name ∈ metadataTags then backInHead tag
    else if tag.name = "head" then finished
    else openBody
  | .endTag tag =>
    if tag.name = "template" then closeTemplate
    else if tag.name ∈ contentEndTags then openBody
    else finished
  | _ => openBody
where
  /-- The tag of the body was left out. -/
  openBody : Build Outcome := do
    openImplied "body"
    return .again .inBody token
  /-- What stands in the head goes there. -/
  backInHead (tag : Tag) : Build Outcome := do
    match (← get).head with
    | none => finished
    | some head =>
      modify fun b => { b with stack := ⟨head, .html, "head"⟩ :: b.stack }
      let outcome ← metadata tag
      removeOpen head
      return outcome

end TexListing.Html
