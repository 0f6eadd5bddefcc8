import TexListing.Html.Builder.Body

/-!
# Rules in tables

The rules in a table and in its parts. What does not belong into a table goes before it.

* `inTable`, `inTableText`: a table, and the text in it.
* `inCaption`, `inColumnGroup`, `inTableBody`, `inRow`, `inCell`: its parts.
-/

namespace TexListing.Html

/-- The token counts as in the body, and what it adds goes before the table. -/
def fosterInBody (token : Token) : Build Outcome := do
  modify fun b => { b with fostering := true }
  let outcome ← inBody token
  modify fun b => { b with fostering := false }
  return outcome

/-- Characters in a table: it is not known yet where they belong. -/
def textInTable (token : Token) : Build Outcome := do
  if ← currentIs (·.isOneOf tableStructureTags) then
    modify fun b => { b with returnMode := b.mode }
    return .again .inTableText token
  else fosterInBody token

/-- A start tag of a table part that may stand just in a table. -/
def startTablePart (tag : Tag) (mode : Mode) : Build Outcome := do
  popTo (·.isOneOf tableScopeTags)
  if tag.name = "caption" then pushMarker
  openTag tag
  setMode mode
  finished

/-- A start tag of a table part before which other tags were left out. -/
def startInImplied (name : String) (mode : Mode) (token : Token) : Build Outcome := do
  popTo (·.isOneOf tableScopeTags)
  openImplied name
  return .again mode token

/-- A form in a table has no content. -/
def formInTable (tag : Tag) : Build Outcome := do
  if !(← isWithin "template") && (← get).form.isNone then
    let id ← insertClosed .html tag.name tag.attrs
    modify fun b => { b with form := some id }
  finished

/-- A table ends, because its end tag comes or another table begins. -/
def endTable (next : Build Outcome) : Build Outcome := do
  if ← hasInScope .table "table" then
    popThroughNamed "table"
    next
  else finished

/-- The end tags that mean nothing just in a table. -/
def strayTableEndTags : List String :=
  ["body", "caption", "col", "colgroup", "html", "tbody", "td", "tfoot", "th", "thead", "tr"]

/-- In a table. -/
def inTable (token : Token) : Build Outcome := do
  match token with
  | .nul | .blanks _ | .words _ => textInTable token
  | .comment =>
    insertComment
    finished
  | .startTag tag =>
    match tag.name with
    | "caption" => startTablePart tag .inCaption
    | "colgroup" => startTablePart tag .inColumnGroup
    | "col" => startInImplied "colgroup" .inColumnGroup token
    | "tbody" | "tfoot" | "thead" => startTablePart tag .inTableBody
    | "td" | "th" | "tr" => startInImplied "tbody" .inTableBody token
    | "table" => endTable do return .again (← fittingMode) token
    | "style" | "script" | "template" => metadata tag
    | "input" =>
      if isHiddenInput tag then
        emptyTag tag
        finished
      else fosterInBody token
    | "form" => formInTable tag
    | _ => fosterInBody token
  | .endTag tag =>
    if tag.name = "table" then
      endTable do
        resetMode
        finished
    else if tag.name = "template" then closeTemplate
    else if tag.name ∈ strayTableEndTags then finished
    else fosterInBody token
  | .eof => inBody token
  | .doctype _ | .mistake => finished

/-- Each of the tokens counts as in the body, and goes before the table. -/
def fosterAll : List Token → Build Unit
  | [] => pure ()
  | token :: rest => do
    let _ ← fosterInBody token
    fosterAll rest

/-- Text at the place for new content, if the token is one. -/
def insertTokenText (token : Token) : Build Unit :=
  match token with
  | .blanks content | .words content => insertText content
  | _ => pure ()

/-- All texts at the place for new content. -/
def insertAllText : List Token → Build Unit
  | [] => pure ()
  | token :: rest => do
    insertTokenText token
    insertAllText rest

/-- The token is text that is not all blank. -/
def Token.isWords : Token → Bool
  | .words _ => true
  | _ => false

/-- In the text of a table. Blanks stay in it, other text goes before it as a whole. -/
def inTableText (token : Token) : Build Outcome := do
  match token with
  | .nul => finished
  | .blanks _ | .words _ =>
    modify fun b => { b with tableText := token :: b.tableText }
    finished
  | _ =>
    let b ← get
    let texts := b.tableText.reverse
    modify fun b => { b with tableText := [] }
    if texts.any Token.isWords then fosterAll texts else insertAllText texts
    return .again b.returnMode token

/-- A caption ends. -/
def endCaption (next : Outcome) : Build Outcome := do
  if ← hasInScope .table "caption" then
    closeImpliedEnds
    popThroughNamed "caption"
    clearFormatting
    setMode .inTable
    return next
  finished

/-- In a caption. -/
def inCaption (token : Token) : Build Outcome := do
  match token with
  | .startTag tag =>
    if tag.name ∈ tablePartTags || tag.name ∈ ["td", "th", "tr"] then
      endCaption (.again .inTable token)
    else inBody token
  | .endTag tag =>
    if tag.name = "caption" then endCaption .done
    else if tag.name = "table" then endCaption (.again .inTable token)
    else if tag.name ∈ strayTableEndTags then finished
    else inBody token
  | _ => inBody token

/-- In a group of columns. -/
def inColumnGroup (token : Token) : Build Outcome := do
  match token with
  | .blanks content =>
    insertText content
    finished
  | .comment =>
    insertComment
    finished
  | .startTag tag =>
    match tag.name with
    | "html" => mergeTop tag
    | "col" =>
      emptyTag tag
      finished
    | "template" => openTemplate tag
    | _ => leave (.again .inTable token)
  | .endTag tag =>
    match tag.name with
    | "colgroup" => leave .done
    | "col" => finished
    | "template" => closeTemplate
    | _ => leave (.again .inTable token)
  | .eof => inBody token
  | _ => leave (.again .inTable token)
where
  /-- The group ends. -/
  leave (next : Outcome) : Build Outcome := do
    if ← currentIs (·.isNamed "colgroup") then
      pop
      setMode .inTable
      return next
    finished

/-- The part of a table that holds rows, or what is around it. -/
def isRowGroupContext (e : OpenElement) : Bool :=
  e.isOneOf rowGroupTags || e.isOneOf ["template", "html"]

/-- In the rows of a table. -/
def inTableBody (token : Token) : Build Outcome := do
  match token with
  | .startTag tag =>
    if tag.name = "tr" then
      popTo isRowGroupContext
      openTag tag
      setMode .inRow
      finished
    else if tag.name ∈ cellTags then
      popTo isRowGroupContext
      openImplied "tr"
      return .again .inRow token
    else if tag.name ∈ tablePartTags then leave
    else inTable token
  | .endTag tag =>
    if tag.name ∈ rowGroupTags then
      if ← hasInScope .table tag.name then
        popTo isRowGroupContext
        pop
        setMode .inTable
      finished
    else if tag.name = "table" then leave
    else if tag.name ∈ strayTableEndTags then finished
    else inTable token
  | _ => inTable token
where
  /-- The rows end. -/
  leave : Build Outcome := do
    if ← hasInScopeWhere .table (·.isOneOf ["table", "tbody", "tfoot"]) then
      popTo isRowGroupContext
      pop
      return .again .inTable token
    finished

/-- A row, or what is around it. -/
def isRowContext (e : OpenElement) : Bool :=
  e.isOneOf ["tr", "template", "html"]

/-- In a row. -/
def inRow (token : Token) : Build Outcome := do
  match token with
  | .startTag tag =>
    if tag.name ∈ cellTags then
      popTo isRowContext
      openTag tag
      setMode .inCell
      pushMarker
      finished
    else if tag.name = "tr" || tag.name ∈ tablePartTags then leave (.again .inTableBody token)
    else inTable token
  | .endTag tag =>
    if tag.name = "tr" then leave .done
    else if tag.name = "table" then leave (.again .inTableBody token)
    else if tag.name ∈ rowGroupTags then
      if ← hasInScope .table tag.name then leave (.again .inTableBody token)
      else finished
    else if tag.name ∈ strayTableEndTags then finished
    else inTable token
  | _ => inTable token
where
  /-- The row ends. -/
  leave (next : Outcome) : Build Outcome := do
    if ← hasInScope .table "tr" then
      popTo isRowContext
      pop
      setMode .inTableBody
      return next
    finished

/-- The cell ends. -/
def closeCell : Build Unit := do
  closeImpliedEnds
  popThrough (·.isOneOf cellTags)
  clearFormatting

/-- In a cell. -/
def inCell (token : Token) : Build Outcome := do
  match token with
  | .startTag tag =>
    if tag.name ∈ tablePartTags || tag.name = "tr" || tag.name ∈ cellTags then
      if ← hasInScopeWhere .table (·.isOneOf cellTags) then
        closeCell
        return .again .inRow token
      finished
    else inBody token
  | .endTag tag =>
    if tag.name ∈ cellTags then
      if ← hasInScope .table tag.name then
        closeImpliedEnds
        popThroughNamed tag.name
        clearFormatting
        setMode .inRow
      finished
    else if tag.name ∈ tableStructureTags then
      if ← hasInScope .table tag.name then
        closeCell
        return .again .inRow token
      finished
    else if tag.name ∈ ["body", "caption", "col", "colgroup", "html"] then finished
    else inBody token
  | _ => inBody token

end TexListing.Html
