import TexListing.Color.Rgb

/-!
# Hue, saturation and lightness

The coordinates that a colour's name is looked up by, beside its channels.

* `Hsl`: whole coordinates, of which one full turn or unit is 255.
* `Rgb.hsl`: the coordinates of a colour.
-/

namespace TexListing

/-- Hue, saturation and lightness in steps of a 255th. -/
structure Hsl where
  hue : Int
  saturation : Int
  lightness : Int
deriving DecidableEq, Repr, Inhabited

/-- The part of a number between zero and one in steps of a 255th, cut off toward zero. -/
def scaled (x : Float) : Int :=
  (x * 255.0).toInt32.toInt

namespace Rgb

/-- The coordinates of a colour, in double precision until they are cut off. The hue is not wrapped
around: reds that have more blue than green lie below zero. -/
def hsl (c : Rgb) : Hsl :=
  let r := c.r.toNat.toFloat / 255.0
  let g := c.g.toNat.toFloat / 255.0
  let b := c.b.toNat.toFloat / 255.0
  let low := min (min r g) b
  let high := max (max r g) b
  let delta := high - low
  let l := (low + high) / 2.0
  let s :=
    if l > 0.0 && l < 1.0 then delta / (if l < 0.5 then 2.0 * l else 2.0 - 2.0 * l) else 0.0
  let h :=
    if delta > 0.0 then
      let sextant :=
        if high == r && high != g then (g - b) / delta
        else if high == g && high != b then 2.0 + (b - r) / delta
        else 4.0 + (r - g) / delta
      sextant / 6.0
    else 0.0
  ⟨scaled h, scaled s, scaled l⟩

end Rgb

end TexListing
