import TexListing.Html.Token.Doctype
import TexListing.Html.Token.RawText
import TexListing.Html.Token.Tag

/-!
# The next tokens

* `nextTokens`: the tokens that come next, and the text after them.
* `afterComment`, `afterBogusComment`: the text after a comment.

Text comes in runs of blanks and runs of other characters, because blanks count less in many places.
-/

namespace TexListing.Html

/-- The text after the end of a comment. -/
def afterCommentEnd : List Char → List Char
  | [] => []
  | '-' :: '-' :: '>' :: rest => rest
  | '-' :: '-' :: '!' :: '>' :: rest => rest
  | _ :: rest => afterCommentEnd rest

/-- The text after a comment, from the end of its opening dashes on. -/
def afterComment (s : List Char) : List Char :=
  match s with
  | '>' :: rest => rest
  | '-' :: '>' :: rest => rest
  | _ => afterCommentEnd s

/-- The text after something that only looks like a declaration and is taken for a comment. -/
def afterBogusComment (s : List Char) : List Char :=
  (s.dropWhile (· != '>')).drop 1

/-- A text as a token. -/
def textToken (s : List Char) : Token :=
  if s.all isBlankChar then .blanks (String.ofList s) else .words (String.ofList s)

/-- Characters as tokens: runs of blanks, runs of others, and each NUL on its own. -/
def textTokens (s : List Char) : List Token :=
  (s.splitBy fun c d => isBlankChar c == isBlankChar d && c != '\x00' && d != '\x00').map fun run =>
    if run == ['\x00'] then .nul else textToken run

/-- The tokens of an ampersand, given the text after it. Without a reference it stands for
itself. -/
def referenceTokens (rest : List Char) : List Token × List Char :=
  match reference? false rest with
  | none => ([.words "&"], rest)
  | some reference =>
    let tokens := textTokens reference.meaning
    (if reference.closed then tokens else .mistake :: tokens, reference.rest)

/-- What stands after an angle bracket and an exclamation mark where a character data section
begins. -/
def sectionStart : List Char :=
  ['[', 'C', 'D', 'A', 'T', 'A', '[']

/-- The characters of a character data section, and the text after it. What is done is in
reverse. -/
def sectionFrom (done : List Char) : List Char → List Char × List Char
  | [] => (done.reverse, [])
  | ']' :: ']' :: '>' :: rest => (done.reverse, rest)
  | c :: rest => sectionFrom (c :: done) rest

/-- The tokens after an angle bracket and an exclamation mark; `sections` if a character data
section may stand here. -/
def declarationTokens (sections : Bool) (s : List Char) : List Token × List Char :=
  match s with
  | '-' :: '-' :: rest => ([.comment], afterComment rest)
  | _ =>
    if startsCaseless "doctype".toList s then
      let (d, rest) := doctype (s.drop 7)
      ([.doctype d], rest)
    else if sections && s.take 7 == sectionStart then
      let (content, rest) := sectionFrom [] (s.drop 7)
      (textTokens content, rest)
    else ([.comment], afterBogusComment s)

/-- The tokens after an angle bracket. -/
def bracketTokens (sections : Bool) (s : List Char) : List Token × List Char :=
  match s with
  | '!' :: rest => declarationTokens sections rest
  | '/' :: rest =>
    match rest with
    | '>' :: rest => ([.mistake], rest)
    | [] => ([.words "</"], [])
    | c :: _ =>
      if c.isAlpha then
        match tag? rest with
        | some (tag, rest) => ([.endTag tag], rest)
        | none => ([], [])
      else ([.comment], afterBogusComment rest)
  | '?' :: rest => ([.comment], afterBogusComment rest)
  | c :: _ =>
    if c.isAlpha then
      match tag? s with
      | some (tag, rest) => ([.startTag tag], rest)
      | none => ([], [])
    else ([.words "<"], s)
  | [] => ([.words "<"], [])

/-- The character is not text, or begins something that is not. -/
def interruptsText (c : Char) : Bool :=
  c == '<' || c == '&' || c == '\x00'

/-- The tokens of a text that begins with `c`, which interrupts no text. -/
def runTokens (c : Char) (rest : List Char) : List Token × List Char :=
  let (run, rest) :=
    rest.span fun d => !interruptsText d && isBlankChar d == isBlankChar c
  ([textToken (c :: run)], rest)

/-- The next tokens where tags and references count. -/
def dataTokens (sections : Bool) (s : List Char) : List Token × List Char :=
  match s with
  | [] => ([], [])
  | '<' :: rest => bracketTokens sections rest
  | '&' :: rest => referenceTokens rest
  | '\x00' :: rest => ([.nul], rest)
  | c :: rest => runTokens c rest

/-- The next tokens where references count and the end tag of one name. -/
def escapableTokens (name : List Char) (s : List Char) : List Token × List Char :=
  match s with
  | [] => ([], [])
  | '<' :: rest =>
    if isEndTag name rest then bracketTokens false rest else ([.words "<"], rest)
  | '&' :: rest => referenceTokens rest
  | '\x00' :: rest => ([.words "\uFFFD"], rest)
  | c :: rest => runTokens c rest

/-- The next tokens, given a text and what follows it. Without text, the end tag comes. -/
def contentTokens (content : List Char × List Char) : List Token × List Char :=
  match content with
  | ([], '<' :: rest) => bracketTokens false rest
  | ([], rest) => ([], rest)
  | (run, rest) => ([textToken run], rest)

/-- The next tokens of a script. What follows its end is read like a document of its own, which may
begin with a byte order mark. -/
def scriptTokens (s : List Char) : List Token × List Char :=
  match scriptText s with
  | ([], '<' :: rest) =>
    let (tokens, rest) := bracketTokens false rest
    (tokens, withoutMark rest)
  | content => contentTokens content

/-- The next tokens of a document and the text after them; there may be none before the end. Where
`sections` holds, character data sections count. -/
def nextTokens (lexing : Lexing) (sections : Bool) (s : List Char) : List Token × List Char :=
  match lexing with
  | .data => dataTokens sections s
  | .escapable name => escapableTokens name.toList s
  | .raw name => contentTokens (rawText name.toList s)
  | .script => scriptTokens s
  | .plaintext => ([textToken (s.map replaceNul)], [])

end TexListing.Html
