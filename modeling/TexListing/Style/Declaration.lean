import TexListing.Text.Blank
import TexListing.Text.Caseless
import TexListing.Text.Split

/-!
# Colour declarations

An inline style is a list of declarations with semicolons between them. A declaration is a property
and a value with a colon between them.

* `declaredColor?`: the value of one declaration, if the property is the colour.
* `colorDeclarations`: the values of all colour declarations of a style.
-/

namespace TexListing.Style

open Text

/-- The mark that makes a declaration weightier. It says nothing about the colour. -/
def importantMark : List Char :=
  ['!', 'i', 'm', 'p', 'o', 'r', 't', 'a', 'n', 't']

/-- The value without the mark at its end and the blanks before the mark. -/
def stripImportant (value : List Char) : List Char :=
  let n := value.length - importantMark.length
  if sameCaseless (value.drop n) importantMark then trimEnd (value.take n) else value

/-- The value of a declaration whose property is the colour. -/
def declaredColor? (declaration : List Char) : Option (List Char) :=
  match cutFirst ':' declaration with
  | none => none
  | some (property, value) =>
    if sameCaseless (trim property) ['c', 'o', 'l', 'o', 'r'] then
      some (stripImportant (trim value))
    else none

/-- The first colon is the one between property and value. -/
theorem declaredColor?_append_cons {property : List Char} (h : ':' ∉ property) (value : List Char) :
    declaredColor? (property ++ ':' :: value) =
      if sameCaseless (trim property) ['c', 'o', 'l', 'o', 'r'] then
        some (stripImportant (trim value))
      else none := by
  rw [declaredColor?, cutFirst_append_cons h]

/-- The values of the colour declarations of a style, in order. -/
def colorValues (style : List Char) : List (List Char) :=
  (split ';' style).filterMap declaredColor?

/-- The values of the colour declarations of a style, in order. -/
def colorDeclarations (style : String) : List String :=
  (colorValues style.toList).map String.ofList

end TexListing.Style
