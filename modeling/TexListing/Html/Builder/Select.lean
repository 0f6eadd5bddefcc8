import TexListing.Html.Builder.Table

/-!
# Rules in choices and templates

* `inSelect`, `inSelectInTable`: the rules in a choice, which holds options and text only.
* `inTemplate`: the rules just in a template, which may hold parts of any other element.
-/

namespace TexListing.Html

/-- An option just around is closed. -/
def closeOption : Build Unit := do
  if ← currentIs (·.isNamed "option") then pop

/-- A group of options just around is closed. -/
def closeOptionGroup : Build Unit := do
  if ← currentIs (·.isNamed "optgroup") then pop

/-- The choice ends, with everything in it. -/
def leaveSelect : Build Unit :=
  popThroughNamed "select"

/-- An end tag of a group of options, which also ends an option in it. -/
def endOptionGroup : Build Outcome := do
  match (← get).stack with
  | option :: group :: _ => if option.isNamed "option" && group.isNamed "optgroup" then pop
  | _ => pure ()
  closeOptionGroup
  finished

/-- The tag of a choice ends the one that is open. -/
def endSelect : Build Outcome := do
  if ← hasInScope .select "select" then
    leaveSelect
    resetMode
  finished

/-- In a choice. -/
def inSelect (token : Token) : Build Outcome := do
  match token with
  | .blanks content | .words content =>
    insertText content
    finished
  | .comment =>
    insertComment
    finished
  | .startTag tag =>
    match tag.name with
    | "html" => mergeTop tag
    | "option" =>
      closeOption
      openTag tag
      finished
    | "optgroup" =>
      closeOption
      closeOptionGroup
      openTag tag
      finished
    | "hr" =>
      closeOption
      closeOptionGroup
      emptyTag tag
      finished
    | "select" => endSelect
    | "input" | "keygen" | "textarea" =>
      if ← hasInScope .select "select" then
        leaveSelect
        return .again (← fittingMode) token
      finished
    | "script" | "template" => metadata tag
    | _ => finished
  | .endTag tag =>
    match tag.name with
    | "optgroup" => endOptionGroup
    | "option" =>
      closeOption
      finished
    | "select" => endSelect
    | "template" => closeTemplate
    | _ => finished
  | .eof => inBody token
  | .nul | .doctype _ | .mistake => finished

/-- The tags of tables that end a choice in a table. -/
def selectEndingTags : List String :=
  ["caption", "table", "tbody", "tfoot", "thead", "tr", "td", "th"]

/-- In a choice in a table. -/
def inSelectInTable (token : Token) : Build Outcome := do
  match token with
  | .startTag tag =>
    if tag.name ∈ selectEndingTags then
      leaveSelect
      return .again (← fittingMode) token
    else inSelect token
  | .endTag tag =>
    if tag.name ∈ selectEndingTags then
      if ← hasInScope .table tag.name then
        leaveSelect
        return .again (← fittingMode) token
      finished
    else inSelect token
  | _ => inSelect token

/-- The content of the template turns out to be of another part. -/
def becomes (mode : Mode) (token : Token) : Build Outcome := do
  modify fun b => { b with templateModes := mode :: b.templateModes.tail }
  return .again mode token

/-- Just in a template. -/
def inTemplate (token : Token) : Build Outcome := do
  match token with
  | .blanks _ | .words _ | .comment => inBody token
  | .startTag tag =>
    if tag.name ∈ metadataTags then metadata tag
    else
      match tag.name with
      | "caption" | "colgroup" | "tbody" | "tfoot" | "thead" => becomes .inTable token
      | "col" => becomes .inColumnGroup token
      | "tr" => becomes .inTableBody token
      | "td" | "th" => becomes .inRow token
      | _ => becomes .inBody token
  | .endTag tag => if tag.name = "template" then closeTemplate else finished
  | .eof => templateAtEnd token
  | .nul | .doctype _ | .mistake => finished

end TexListing.Html
