import TexListing.Html.Builder.Frameset
import TexListing.Html.Token.Doctype

/-!
# One token

* `step`: the rules of a mode.
* `stepForeign`: the rules within formulas and drawings.
* `Builder.take`: the builder after a token, and how the text after it is read.
-/

namespace TexListing.Html

/-- In raw text. -/
def inText (token : Token) : Build Outcome := do
  match token with
  | .blanks content | .words content =>
    insertText content
    finished
  | .endTag _ =>
    pop
    setMode (← get).returnMode
    finished
  | .eof =>
    pop
    return .again (← get).returnMode token
  | _ => finished

/-- The rules of a mode. -/
def step : Mode → Token → Build Outcome
  | .initial => initial
  | .beforeHtml => beforeTop
  | .beforeHead => beforeHead
  | .inHead => inHead
  | .afterHead => afterHead
  | .inBody => inBody
  | .text => inText
  | .inTable => inTable
  | .inTableText => inTableText
  | .inCaption => inCaption
  | .inColumnGroup => inColumnGroup
  | .inTableBody => inTableBody
  | .inRow => inRow
  | .inCell => inCell
  | .inSelect => inSelect
  | .inSelectInTable => inSelectInTable
  | .inTemplate => inTemplate
  | .afterBody => afterBody
  | .inFrameset => inFrameset
  | .afterFrameset => afterFrameset
  | .afterAfterBody => afterAfterBody
  | .afterAfterFrameset => afterAfterFrameset

/-- The rules of the mode that holds. -/
def stepHere (token : Token) : Build Outcome := do
  step (← get).mode token

/-- The token falls under the rules within formulas and drawings. -/
def isForeign (stack : List OpenElement) (token : Token) : Bool :=
  match stack with
  | [] => false
  | e :: _ =>
    if e.ns == .html then false
    else
      match token with
      | .eof => false
      | .blanks _ | .words _ | .nul => !(e.isFormulaText || e.isDrawingContent)
      | .startTag tag =>
        !(e.isDrawingContent ||
          (e.isFormulaText && tag.name != "mglyph" && tag.name != "malignmark") ||
          (e.ns == .mathml && e.name == "annotation-xml" && tag.name == "svg"))
      | _ => true

/-- The formulas and drawings around are closed, and the token counts as elsewhere. -/
def breakOut (token : Token) : Build Outcome := do
  popTo fun e => e.ns == .html || e.isFormulaText || e.isDrawingContent
  stepHere token

/-- The tag is of a font with an attribute that only documents have. -/
def isDocumentFont (tag : Tag) : Bool :=
  tag.name == "font" && tag.attrs.any fun a => a.name ∈ ["color", "face", "size"]

/-- An end tag within a formula or drawing closes the innermost element of its name there; outside
it counts as elsewhere. `first` if no element has been looked at. -/
def endForeign (tag : Tag) (first : Bool) : List OpenElement → Build Outcome
  | [] | [_] => finished
  | e :: rest => do
    if !first && e.ns == .html then stepHere (.endTag tag)
    else if e.name == tag.name then
      modify fun b => { b with stack := rest }
      finished
    else endForeign tag false rest

/-- Within formulas and drawings. -/
def stepForeign (token : Token) : Build Outcome := do
  match token with
  | .nul =>
    insertText "\uFFFD"
    finished
  | .blanks content =>
    insertText content
    finished
  | .words content =>
    forbidFrames
    insertText content
    finished
  | .comment =>
    insertComment
    finished
  | .startTag tag =>
    if tag.name ∈ foreignBreakoutTags || isDocumentFont tag then breakOut token
    else openForeign (((← current?).map OpenElement.ns).getD .html) tag
  | .endTag tag =>
    if tag.name = "br" || tag.name = "p" then breakOut token
    else endForeign tag true (← get).stack
  | .doctype _ | .mistake | .eof => finished

/-- The token under the rules that hold for it. It counts again as often as a rule says so, but not
more often than there are steps. -/
def takeSteps : Nat → Token → Build Lexing
  | 0, _ => return .data
  | steps + 1, token => do
    let foreign := isForeign (← get).stack token
    match ← if foreign then stepForeign token else stepHere token with
    | .done => return .data
    | .lex lexing => return lexing
    | .again mode token =>
      setMode mode
      takeSteps steps token

/-- More steps than the token takes: a few for the modes, and one for each template that the end of
the document closes. -/
def Builder.stepBound (b : Builder) (token : Token) : Nat :=
  match token with
  | .eof => b.templateModes.length + 40
  | _ => 40

/-- The text without a line feed at its start. -/
def withoutLineFeed (token : Token) : Option Token :=
  match token with
  | .blanks content =>
    match content.toList with
    | '\n' :: [] => none
    | '\n' :: rest => some (.blanks (String.ofList rest))
    | _ => some token
  | .words content =>
    match content.toList with
    | '\n' :: [] => none
    | '\n' :: rest => some (.words (String.ofList rest))
    | _ => some token
  | _ => some token

/-- The document type, which counts only before all else. -/
def takeDoctype (d : Doctype) : Build Unit :=
  modify fun b =>
    if b.mode = .initial then { b with legacy := d.isLegacy, mode := .beforeHtml } else b

/-- A token changes the builder and tells how the text after it is read, if that changes. -/
def take (token : Token) : Build (Option Lexing) := do
  let skip := (← get).skipLineFeed
  modify fun b => { b with skipLineFeed := false }
  match token with
  | .mistake => return none
  | .doctype d =>
    takeDoctype d
    return none
  | .blanks _ | .words _ =>
    match if skip then withoutLineFeed token else some token with
    | none => return none
    | some token =>
      let _ ← takeSteps ((← get).stepBound token) token
      return none
  | _ => return some (← takeSteps ((← get).stepBound token) token)

end TexListing.Html
