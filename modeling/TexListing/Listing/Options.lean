import TexListing.Markup.TagKind
import TexListing.Style.ColorValue

/-!
# Options

What can be chosen about a conversion.

* `Options`: the choices, with those that hold unless others are made.
-/

namespace TexListing.Listing

/-- What can be chosen about a conversion. -/
structure Options where
  /-- The tags that start a new line, in letters of either case. -/
  blockTags : List String := Markup.defaultBlockTags
  /-- The notations of colours that are read. -/
  colorSyntax : Style.ColorSyntax := .strict
  /-- The definition of the environment comes first. -/
  includePreamble : Bool := true
deriving DecidableEq, Repr, Inhabited

/-- The options with one more tag that starts a new line. -/
def Options.addBlockTag (options : Options) (tag : String) : Options :=
  { options with blockTags := options.blockTags ++ [tag] }

end TexListing.Listing
