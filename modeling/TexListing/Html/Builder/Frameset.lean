import TexListing.Html.Builder.Select

/-!
# Rules after the body, and in frames

* `afterBody`, `afterAfterBody`: after the body and after the document.
* `inFrameset`, `afterFrameset`, `afterAfterFrameset`: frames, which stand in place of a body.
-/

namespace TexListing.Html

/-- After the body. -/
def afterBody (token : Token) : Build Outcome := do
  match token with
  | .blanks _ => inBody token
  | .comment =>
    insertCommentInTop
    finished
  | .startTag tag => if tag.name = "html" then mergeTop tag else return .again .inBody token
  | .endTag tag =>
    if tag.name = "html" then
      setMode .afterAfterBody
      finished
    else return .again .inBody token
  | .eof => finished
  | _ => return .again .inBody token

/-- After the whole document. -/
def afterAfterBody (token : Token) : Build Outcome := do
  match token with
  | .blanks _ => inBody token
  | .comment =>
    insertCommentInDocument
    finished
  | .startTag tag => if tag.name = "html" then mergeTop tag else return .again .inBody token
  | .eof => finished
  | _ => return .again .inBody token

/-- In a set of frames. -/
def inFrameset (token : Token) : Build Outcome := do
  match token with
  | .blanks content =>
    insertText content
    finished
  | .comment =>
    insertComment
    finished
  | .startTag tag =>
    match tag.name with
    | "html" => mergeTop tag
    | "frameset" =>
      openTag tag
      finished
    | "frame" =>
      emptyTag tag
      finished
    | "noframes" => metadata tag
    | _ => finished
  | .endTag tag =>
    if tag.name = "frameset" && (← get).stack.length ≠ 1 then
      pop
      if !(← currentIs (·.isNamed "frameset")) then setMode .afterFrameset
    finished
  | _ => finished

/-- After the frames. -/
def afterFrameset (token : Token) : Build Outcome := do
  match token with
  | .blanks content =>
    insertText content
    finished
  | .comment =>
    insertComment
    finished
  | .startTag tag =>
    match tag.name with
    | "html" => mergeTop tag
    | "noframes" => metadata tag
    | _ => finished
  | .endTag tag =>
    if tag.name = "html" then setMode .afterAfterFrameset
    finished
  | _ => finished

/-- After a whole document with frames. -/
def afterAfterFrameset (token : Token) : Build Outcome := do
  match token with
  | .blanks _ => inBody token
  | .comment =>
    insertCommentInDocument
    finished
  | .startTag tag =>
    match tag.name with
    | "html" => mergeTop tag
    | "noframes" => metadata tag
    | _ => finished
  | _ => finished

end TexListing.Html
