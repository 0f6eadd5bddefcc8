/-!
# Source text

The characters of a document as they are read.

* `withoutMark`: a byte order mark at the start is left out.
* `normalize`: every line ends with a line feed, and there is no byte order mark at the start.
* `isSpace`, `isBlankChar`: the blanks within tags, and those within text.
* `lowerName`: the characters of a name.
-/

namespace TexListing.Html

/-- Adds the text to the front of what is done, which is in reverse, with a line feed for each line
end: a carriage return, a line feed, or the first followed by the second. -/
def lineFeedsFrom (done : List Char) : List Char → List Char
  | [] => done.reverse
  | '\r' :: '\n' :: rest => lineFeedsFrom ('\n' :: done) rest
  | '\r' :: rest => lineFeedsFrom ('\n' :: done) rest
  | c :: rest => lineFeedsFrom (c :: done) rest

/-- The text without a byte order mark at the start. -/
def withoutMark (s : List Char) : List Char :=
  match s with
  | '\uFEFF' :: rest => rest
  | _ => s

/-- The characters of a document, without a byte order mark at the start and with a line feed for
each line end. -/
def normalize (s : List Char) : List Char :=
  lineFeedsFrom [] (withoutMark s)

/-- The character separates the parts of a tag. -/
def isSpace (c : Char) : Bool :=
  c == ' ' || c == '\t' || c == '\n' || c == '\x0C'

/-- The character is a blank within text. -/
def isBlankChar (c : Char) : Bool :=
  isSpace c || c == '\r'

/-- The character that is read where there is no place for NUL. -/
def replaceNul (c : Char) : Char :=
  if c = '\x00' then '\uFFFD' else c

/-- A name as it is kept: in small letters as far as ASCII goes, without NUL. -/
def lowerName (name : List Char) : String :=
  String.ofList (name.map fun c => replaceNul c.toLower)

/-- The text begins with the letters of the word, in either case. -/
def startsCaseless (word s : List Char) : Bool :=
  (s.take word.length).map Char.toLower == word

end TexListing.Html
