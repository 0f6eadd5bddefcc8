import TexListing.Color.Hsl
import TexListing.Color.Palette
import TexListing.Text.Blank

/-!
# The nearest named colour

Each colour takes the name of the palette's colour that is nearest to it.

* `distance`: how far two colours are apart.
* `closest?`: the search through a table; a row of the very colour wins, else the first of the rows
  at the least distance.
* `colorMatch?`: what a search comes to, with whether the row has the very colour.
* `nearest`, `colorName`: the search through the palette, and the name without its spaces.
-/

namespace TexListing

/-- The square of a difference. -/
def squareDiff (a b : Int) : Int :=
  (a - b) * (a - b)

/-- The squared distance of the channels. -/
def channelDistance (c d : Rgb) : Int :=
  squareDiff c.r.toNat d.r.toNat + squareDiff c.g.toNat d.g.toNat + squareDiff c.b.toNat d.b.toNat

/-- The squared distance of hue, saturation and lightness. -/
def hslDistance (c d : Hsl) : Int :=
  squareDiff c.hue d.hue + squareDiff c.saturation d.saturation +
    squareDiff c.lightness d.lightness

/-- How far two colours are apart, where `hsl` gives the second coordinates of each: the squared
distance of the channels and twice that of the coordinates. -/
def distance (hsl : Rgb → Hsl) (c d : Rgb) : Int :=
  channelDistance c d + 2 * hslDistance (hsl c) (hsl d)

/-- The best row of a table, starting from the best row so far and its distance. A row of the very
colour ends the search; a later row replaces an earlier one only if it is nearer. -/
def closestFrom (hsl : Rgb → Hsl) (color : Rgb) (best : Swatch) (bestDistance : Int) :
    List Swatch → Swatch
  | [] => best
  | row :: rest =>
    if row.color = color then row
    else if distance hsl color row.color < bestDistance then
      closestFrom hsl color row (distance hsl color row.color) rest
    else closestFrom hsl color best bestDistance rest

/-- The row of a table that is nearest to a colour; none only if the table has no rows. -/
def closest? (hsl : Rgb → Hsl) (color : Rgb) : List Swatch → Option Swatch
  | [] => none
  | row :: rest =>
    if row.color = color then some row
    else some (closestFrom hsl color row (distance hsl color row.color) rest)

/-- What looking up a colour comes to. -/
structure ColorMatch where
  /-- The row that was found, with its own colour. -/
  swatch : Swatch
  /-- The row has the very colour that was looked up. -/
  exact : Bool
deriving DecidableEq, Repr, Inhabited

/-- Looks up a colour in a table; there is nothing only if the table has no rows. -/
def colorMatch? (hsl : Rgb → Hsl) (color : Rgb) (table : List Swatch) : Option ColorMatch :=
  (closest? hsl color table).map fun row => ⟨row, row.color == color⟩

/-- The palette's colour that is nearest to the given one. -/
def nearest (color : Rgb) : Swatch :=
  (closest? Rgb.hsl color palette).getD default

/-- The name without its blanks, as it is used where a name is one word. -/
def Swatch.identifier (s : Swatch) : String :=
  String.ofList (s.name.toList.filter (!Text.isBlank ·))

/-- The one-word name of the palette's colour that is nearest to the given one. -/
def colorName (color : Rgb) : String :=
  (nearest color).identifier

end TexListing
