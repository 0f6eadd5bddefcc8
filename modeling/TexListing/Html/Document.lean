import TexListing.Html.Builder.Step
import TexListing.Html.Image
import TexListing.Html.Token.Next

/-!
# Reading a document

* `readDocument`: the document of a text.
* `parseBody`: the markup tree of the content of a document.
-/

namespace TexListing.Html

open Markup

/-- The innermost element is part of a formula or drawing, in which character data sections
count. -/
def Builder.allowsSections (b : Builder) : Bool :=
  b.stack.head?.any (·.ns != .html)

/-- The builder after tokens, and how the text after them is read. -/
def takeAll (lexing : Lexing) : List Token → Builder → Lexing × Builder
  | [], b => (lexing, b)
  | token :: rest, b =>
    let (change, b) := (take token).run b
    takeAll (change.getD lexing) rest b

/-- The builder after a text. Each step reads at least one character. -/
def readFrom (lexing : Lexing) (b : Builder) : Nat → List Char → Builder
  | 0, _ | _, [] => b
  | steps + 1, s =>
    let (tokens, rest) := nextTokens lexing b.allowsSections s
    let (lexing, b) := takeAll lexing tokens b
    readFrom lexing b steps rest

/-- The document of a text. -/
def readDocument (s : String) : Dom :=
  let text := normalize s.toList
  let b := readFrom .data .start text.length text
  ((take .eof).run b).2.dom

/-- The markup tree of the content of a document: its body, or all of it where there are frames
instead. -/
def parseBody (s : String) : Node :=
  let dom := readDocument s
  ((dom.bodyElement?.bind dom.image?)).getD (.make "body" [])

end TexListing.Html
