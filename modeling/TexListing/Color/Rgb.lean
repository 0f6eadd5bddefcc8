import TexListing.Text.Hex

/-!
# Colours

A colour is a triplet of channels of eight bits.

* `Rgb.hex`, `Rgb.ofHex?`: the hexadecimal notation, written with six capital digits and read with
  three or six digits of either case.
* `Rgb.triplet`: the decimal notation `r,g,b`.
* `Rgb.le`: the order by red, then green, then blue.
-/

namespace TexListing

open Text

/-- A colour by its red, green and blue channels. -/
structure Rgb where
  r : UInt8
  g : UInt8
  b : UInt8
deriving DecidableEq, Repr, Inhabited

/-- The two capital hexadecimal digits of a channel. -/
def hexPair (x : UInt8) : List Char :=
  [hexDigit (x.toNat / 16), hexDigit (x.toNat % 16)]

namespace Rgb

/-- The six capital hexadecimal digits of the colour. -/
def hex (c : Rgb) : String :=
  String.ofList (hexPair c.r ++ hexPair c.g ++ hexPair c.b)

/-- The hexadecimal digits after a number sign. -/
def hexCode (c : Rgb) : String :=
  "#" ++ c.hex

/-- The channels in decimal with commas between them. -/
def triplet (c : Rgb) : String :=
  toString c.r.toNat ++ "," ++ toString c.g.toNat ++ "," ++ toString c.b.toNat

/-- The colour of the values of hexadecimal digits: six digits give two to each channel, three stand
for six with each digit doubled. -/
def ofDigits? : List Nat → Option Rgb
  | [r, g, b] => some ⟨.ofNat (r * 17), .ofNat (g * 17), .ofNat (b * 17)⟩
  | [r₁, r₀, g₁, g₀, b₁, b₀] =>
    some ⟨.ofNat (r₁ * 16 + r₀), .ofNat (g₁ * 16 + g₀), .ofNat (b₁ * 16 + b₀)⟩
  | _ => none

/-- Reads three or six hexadecimal digits, of either case, after at most one number sign. -/
def ofHexDigits? (s : List Char) : Option Rgb :=
  let digits := match s with
    | '#' :: rest => rest
    | _ => s
  (digits.mapM hexValue?).bind ofDigits?

/-- Reads the hexadecimal notation of a colour. -/
def ofHex? (s : String) : Option Rgb :=
  ofHexDigits? s.toList

/-- The order by red, then green, then blue. -/
def le (c d : Rgb) : Bool :=
  c.r < d.r || (c.r == d.r && (c.g < d.g || (c.g == d.g && c.b ≤ d.b)))

/-- The colours in order, each once. -/
def sorted (colors : List Rgb) : List Rgb :=
  dropRepeats (colors.mergeSort le)
where
  /-- Of neighbours that are equal, the first stays. -/
  dropRepeats : List Rgb → List Rgb
    | [] => []
    | c :: rest => c :: (dropRepeats rest).dropWhile (· == c)

end Rgb

end TexListing
