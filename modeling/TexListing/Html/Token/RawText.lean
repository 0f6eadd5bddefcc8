import TexListing.Html.Source

/-!
# Raw text

The content of elements in which tags do not count.

* `isEndTag`: whether the element ends here.
* `rawText`: the text up to the end of an element.
* `scriptText`: the text up to the end of a script, which may hold other scripts in comments.
-/

namespace TexListing.Html

/-- The character ends the name of a tag. -/
def endsName (s : List Char) : Bool :=
  match s with
  | c :: _ => isSpace c || c == '/' || c == '>'
  | [] => false

/-- The word, in letters of either case, and the end of a name stand here. -/
def isWholeName (word s : List Char) : Bool :=
  startsCaseless word s && endsName (s.drop word.length)

/-- After an angle bracket, the end tag of that name stands here. -/
def isEndTag (name : List Char) (s : List Char) : Bool :=
  match s with
  | '/' :: rest => isWholeName name rest
  | _ => false

/-- The text up to the end tag of that name, and the rest from the end tag on. What is done is in
reverse. -/
def rawTextFrom (name done : List Char) : List Char → List Char × List Char
  | [] => (done.reverse, [])
  | '<' :: rest =>
    if isEndTag name rest then (done.reverse, '<' :: rest) else rawTextFrom name ('<' :: done) rest
  | c :: rest => rawTextFrom name (replaceNul c :: done) rest

/-- The text up to the end tag of that name, and the rest from the end tag on. -/
def rawText (name s : List Char) : List Char × List Char :=
  rawTextFrom name [] s

/-- Where in a script the text is. -/
inductive ScriptPlace where
  | plain
  /-- In a comment. -/
  | comment
  /-- In a script in a comment, whose end tag does not end the script around it. -/
  | inner
deriving DecidableEq, Repr

/-- The word that opens and ends a script. -/
def scriptName : List Char :=
  ['s', 'c', 'r', 'i', 'p', 't']

/-- The place after an angle bracket, given the text after it. -/
def ScriptPlace.afterBracket (place : ScriptPlace) (rest : List Char) : ScriptPlace :=
  match place with
  | plain => if rest.take 3 == ['!', '-', '-'] then comment else plain
  | comment => if isWholeName scriptName rest then inner else comment
  | inner => if isEndTag scriptName rest then comment else inner

/-- The text up to the end of a script, and the rest from its end tag on. What is done is in
reverse; `dashes` counts the dashes just before, up to two. -/
def scriptTextFrom (place : ScriptPlace) (dashes : Nat) (done : List Char) :
    List Char → List Char × List Char
  | [] => (done.reverse, [])
  | '<' :: rest =>
    if place ≠ .inner ∧ isEndTag scriptName rest then (done.reverse, '<' :: rest)
    else scriptTextFrom (place.afterBracket rest) 0 ('<' :: done) rest
  | '-' :: rest => scriptTextFrom place (min 2 (dashes + 1)) ('-' :: done) rest
  | '>' :: rest => scriptTextFrom (if dashes = 2 then .plain else place) 0 ('>' :: done) rest
  | c :: rest => scriptTextFrom place 0 (replaceNul c :: done) rest

/-- The text up to the end of a script, and the rest from its end tag on. -/
def scriptText (s : List Char) : List Char × List Char :=
  scriptTextFrom .plain 0 [] s

end TexListing.Html
