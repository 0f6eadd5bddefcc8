import TexListing.Text.Caseless

/-!
# Kinds of tags

What an element does to the lines of a listing depends on its tag alone.

* `TagKind`, `classify`: the kinds, and the kind of a tag.
-/

namespace TexListing.Markup

/-- What an element does to the lines. -/
inductive TagKind where
  /-- It starts a new line, unless it comes first. -/
  | block
  /-- It ends the line and holds nothing. -/
  | lineBreak
  /-- It does nothing. -/
  | inline
deriving DecidableEq, Repr, Inhabited

/-- The tags that start a new line unless others are named. -/
def defaultBlockTags : List String :=
  ["div", "p"]

/-- The kind of a tag, given the tags that start a new line, in letters of either case. The tag `br`
ends a line even if it is among them. -/
def classify (blockTags : List String) (tag : String) : TagKind :=
  if tag.sameCaseless "br" then .lineBreak
  else if blockTags.any (·.sameCaseless tag) then .block
  else .inline

end TexListing.Markup
