import TexListing.Text.Casing

/-!
# Lowercase text

The lowercase form of a whole text, which differs from that of its characters at two letters.

* `endsWord`: whether a capital sigma between two texts ends a word.
* `lowercase`: the lowercase form.
-/

namespace TexListing.Text

/-- The first character that is not passed over has case. -/
def meetsCased (s : List Char) : Bool :=
  match s.dropWhile isCaseIgnorable with
  | [] => false
  | c :: _ => isCased c

/-- A letter follows a cased letter and none follows it; the text before is given in reverse. -/
def endsWord (before after : List Char) : Bool :=
  meetsCased before && !meetsCased after

/-- The lowercase form of the second text, where the first, in reverse, stands before it. -/
def lowercaseAfter (before : List Char) : List Char → List Char
  | [] => []
  | c :: rest =>
    if c = 'Σ' then
      (if endsWord before rest then 'ς' else 'σ') :: lowercaseAfter (c :: before) rest
    -- the dot over a capital I is a character of its own once the letter is small
    else if c = 'İ' then 'i' :: '\u0307' :: lowercaseAfter (c :: before) rest
    else lowerChar c :: lowercaseAfter (c :: before) rest

/-- The text in lowercase letters. -/
def lowercase (s : String) : String :=
  String.ofList (lowercaseAfter [] s.toList)

end TexListing.Text
