import TexListing.Html.Builder.Head

/-!
# Rules in the body

* `inBody`: the rules for text and the elements around it, which most other parts fall back on.
* `startInBody`, `endInBody`: the rules for tags.
* `templateAtEnd`: the end of a document within a template.
-/

namespace TexListing.Html

open Markup

/-- The body, if it is open. -/
def Builder.body? (b : Builder) : Option OpenElement :=
  match b.stack.reverse with
  | _ :: e :: _ => if e.isNamed "body" then some e else none
  | _ => none

/-- The tag is of an input that is not shown. -/
def isHiddenInput (tag : Tag) : Bool :=
  match tag.attrs.find? (·.name == "type") with
  | some a => a.value.sameCaseless "hidden"
  | none => false

/-- The document ends; a template that is open ends first. -/
def templateAtEnd (token : Token) : Build Outcome := do
  if ← isWithin "template" then
    leaveTemplate
    return .again (← fittingMode) token
  finished

/-- A second start tag of the body adds those of its attributes that are new. -/
def mergeBody (tag : Tag) : Build Outcome := do
  let b ← get
  match b.body? with
  | some body =>
    if !(← isWithin "template") then
      modify fun b =>
        { b with framesAllowed := false, dom := b.dom.addMissingAttrs body.id tag.attrs }
  | none => pure ()
  finished

/-- Frames replace a body without content. -/
def replaceBody (tag : Tag) : Build Outcome := do
  let b ← get
  match b.body? with
  | some body =>
    if b.framesAllowed then
      modify fun b =>
        { b with dom := b.dom.detach body.id, stack := b.stack.drop (b.stack.length - 1) }
      openTag tag
      setMode .inFrameset
  | none => pure ()
  finished

/-- A start tag of a form, which cannot be within another one. -/
def startForm (tag : Tag) : Build Outcome := do
  let inTemplate ← isWithin "template"
  if inTemplate || (← get).form.isNone then
    closeParagraphInScope
    let id ← insertTag tag
    if !inTemplate then modify fun b => { b with form := some id }
  finished

/-- An end tag of a form. -/
def endForm : Build Outcome := do
  if ← isWithin "template" then
    if ← hasInScope .usual "form" then
      closeImpliedEnds
      popThroughNamed "form"
  else
    match (← get).form with
    | none => pure ()
    | some id =>
      modify fun b => { b with form := none }
      if ← hasInScopeWhere .usual (·.id == id) then
        closeImpliedEnds
        removeOpen id
  finished

/-- The innermost element of the list, unless a special element ends the search. -/
def listPartToClose? (names : List String) : List OpenElement → Option String
  | [] => none
  | e :: rest =>
    if e.isOneOf names then some e.name
    else if e.isOneOf specialTags && !e.isOneOf ["address", "div", "p"] then none
    else listPartToClose? names rest

/-- A start tag of a part of a list, which ends the part before it. -/
def startListPart (tag : Tag) : Build Outcome := do
  forbidFrames
  let names := if tag.name = "li" then ["li"] else ["dd", "dt"]
  match listPartToClose? names (← get).stack with
  | some name =>
    closeImpliedEndsExcept name
    popThroughNamed name
  | none => pure ()
  closeParagraphInScope
  openTag tag
  finished

/-- A start tag of a button, which cannot be within another one. -/
def startButton (tag : Tag) : Build Outcome := do
  if ← hasInScope .usual "button" then
    closeImpliedEnds
    popThroughNamed "button"
  reopenFormatting
  openTag tag
  forbidFrames
  finished

/-- An element within text that has no content. -/
def startEmptyInline (tag : Tag) : Build Outcome := do
  reopenFormatting
  emptyTag tag
  if !(tag.name = "input" && isHiddenInput tag) then forbidFrames
  finished

/-- A start tag of a choice. -/
def startSelect (tag : Tag) : Build Outcome := do
  reopenFormatting
  openTag tag
  forbidFrames
  let mode := (← get).mode
  setMode (if mode ∈ [.inTable, .inCaption, .inTableBody, .inRow, .inCell] then .inSelectInTable
    else .inSelect)
  finished

/-- A start tag of a part of a ruby. The parts before it end, but for those of the kinds named. -/
def startRubyPart (keep : List String) (tag : Tag) : Build Outcome := do
  if ← hasInScope .usual "ruby" then
    closeImplied fun e => e.isOneOf impliedEndTags && !e.isOneOf keep
  openTag tag
  finished

/-- The name that an attribute of a formula or drawing is kept under. -/
def foreignAttribute (ns : Namespace) (a : Attribute) : Attribute :=
  let name :=
    match ns with
    | .html => a.name
    | .mathml => if a.name = "definitionurl" then "definitionURL" else a.name
    | .svg => (drawingAttributes.find? (·.toLower == a.name)).getD a.name
  match qualifiedAttributes.find? (·.1 == name) with
  | some (_, kept) => ⟨kept, a.value⟩
  | none => ⟨name, a.value⟩

/-- An element of a formula or drawing. -/
def openForeign (ns : Namespace) (tag : Tag) : Build Outcome := do
  let attrs := tag.attrs.map (foreignAttribute ns)
  if tag.selfClosing then
    let _ ← insertClosed ns tag.name attrs
  else
    let _ ← insertElement ns tag.name attrs
  finished

/-- A start tag of a block, which ends a paragraph. -/
def startBlock (tag : Tag) : Build Outcome := do
  closeParagraphInScope
  openTag tag
  finished

/-- A start tag of a heading, which ends a heading just around it. -/
def startHeading (tag : Tag) : Build Outcome := do
  closeParagraphInScope
  if ← currentIs (·.isOneOf headingTags) then pop
  openTag tag
  finished

/-- A start tag of preformatted text, in which the first line feed does not count. -/
def startPreformatted (tag : Tag) : Build Outcome := do
  closeParagraphInScope
  openTag tag
  modify fun b => { b with skipLineFeed := true, framesAllowed := false }
  finished

/-- A start tag of a table, which ends a paragraph unless the document is old. -/
def startTable (tag : Tag) : Build Outcome := do
  if !(← get).legacy then closeParagraphInScope
  openTag tag
  forbidFrames
  setMode .inTable
  finished

/-- A start tag of an element whose content is raw text. -/
def startRaw (tag : Tag) : Build Outcome := do
  match tag.name with
  | "textarea" =>
    modify fun b => { b with skipLineFeed := true, framesAllowed := false }
    openRaw tag (.escapable tag.name)
  | "xmp" =>
    closeParagraphInScope
    reopenFormatting
    forbidFrames
    openRaw tag (.raw tag.name)
  | "iframe" =>
    forbidFrames
    openRaw tag (.raw tag.name)
  | _ => openRaw tag (.raw tag.name)

/-- A start tag in the body that is about text. -/
def startInline (tag : Tag) : Build Outcome := do
  match tag.name with
  | "a" =>
    closeOuterLink
    reopenFormatting
    openFormatting tag
    finished
  | "nobr" =>
    reopenFormatting
    if ← hasInScope .usual "nobr" then
      closeFormatting "nobr"
      reopenFormatting
    openFormatting tag
    finished
  | "button" => startButton tag
  | "select" => startSelect tag
  | "optgroup" | "option" =>
    if ← currentIs (·.isNamed "option") then pop
    reopenFormatting
    openTag tag
    finished
  | "rb" | "rtc" => startRubyPart [] tag
  | "rp" | "rt" => startRubyPart ["rtc"] tag
  | "math" => openForeign .mathml tag
  | "svg" => openForeign .svg tag
  | "image" => startEmptyInline { tag with name := "img" }
  | "textarea" | "xmp" | "iframe" | "noembed" | "noscript" => startRaw tag
  | name =>
    if name ∈ formattingTags then
      reopenFormatting
      openFormatting tag
      finished
    else if name ∈ emptyInlineTags then startEmptyInline tag
    else if name ∈ formattingBarrierTags then
      reopenFormatting
      openTag tag
      pushMarker
      forbidFrames
      finished
    else if name ∈ ["param", "source", "track"] then
      emptyTag tag
      finished
    else if name ∈ misplacedTags then finished
    else
      reopenFormatting
      openTag tag
      finished

/-- A start tag in the body. -/
def startInBody (tag : Tag) : Build Outcome := do
  match tag.name with
  | "html" => mergeTop tag
  | "body" => mergeBody tag
  | "frameset" => replaceBody tag
  | "pre" | "listing" => startPreformatted tag
  | "form" => startForm tag
  | "li" | "dd" | "dt" => startListPart tag
  | "plaintext" =>
    closeParagraphInScope
    openTag tag
    return .lex .plaintext
  | "table" => startTable tag
  | "hr" =>
    closeParagraphInScope
    emptyTag tag
    forbidFrames
    finished
  | name =>
    if name ∈ metadataTags then metadata tag
    else if name ∈ blockTags then startBlock tag
    else if name ∈ headingTags then startHeading tag
    else startInline tag

/-- The end tag of the body, or of the whole document. -/
def endBody (whole : Bool) (token : Token) : Build Outcome := do
  if ← hasInScope .usual "body" then
    if whole then return .again .afterBody token
    setMode .afterBody
  finished

/-- An end tag of an element that is in scope closes all that is open within it. -/
def endInScope (scope : Scope) (name : String) : Build Outcome := do
  if ← hasInScope scope name then
    closeImpliedEnds
    popThroughNamed name
  finished

/-- An end tag of a part of a list. -/
def endListPart (scope : Scope) (name : String) : Build Outcome := do
  if ← hasInScope scope name then
    closeImpliedEndsExcept name
    popThroughNamed name
  finished

/-- An end tag in the body. -/
def endInBody (tag : Tag) : Build Outcome := do
  match tag.name with
  | "body" => endBody false (.endTag tag)
  | "html" => endBody true (.endTag tag)
  | "template" => closeTemplate
  | "form" => endForm
  | "p" =>
    if !(← hasInScope .button "p") then openImplied "p"
    closeParagraph
    finished
  | "br" => startEmptyInline (.plain "br")
  | "li" => endListPart .listItem "li"
  | "dd" | "dt" => endListPart .usual tag.name
  | "a" | "nobr" =>
    closeFormatting tag.name
    finished
  | name =>
    if name ∈ closableBlockTags then endInScope .usual name
    else if name ∈ headingTags then
      if ← hasInScopeWhere .usual (·.isOneOf headingTags) then
        closeImpliedEnds
        popThrough (·.isOneOf headingTags)
      finished
    else if name ∈ formattingTags then
      closeFormatting name
      finished
    else if name ∈ formattingBarrierTags then
      if ← hasInScope .usual name then
        closeImpliedEnds
        popThroughNamed name
        clearFormatting
      finished
    else
      closeOther name
      finished

/-- In the body. -/
def inBody (token : Token) : Build Outcome := do
  match token with
  | .blanks content =>
    reopenFormatting
    insertText content
    finished
  | .words content =>
    reopenFormatting
    forbidFrames
    insertText content
    finished
  | .comment =>
    insertComment
    finished
  | .startTag tag => startInBody tag
  | .endTag tag => endInBody tag
  | .eof => if (← get).templateModes.isEmpty then finished else templateAtEnd token
  | .nul | .doctype _ | .mistake => finished

end TexListing.Html
