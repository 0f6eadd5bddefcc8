import TexListing.Color.Rgb
import TexListing.Style.Declaration
import TexListing.Text.Quoted

/-!
# Colour values

The notations of a colour in a style, and the colour that a whole style gives.

* `ColorSyntax`: which notations are read.
* `ColorError`: why a value is no colour, and the wording of it.
* `parseColor`: the colour of one value.
* `styleColor?`: the colour of a style, of which the last declaration that can be read counts.
-/

namespace TexListing.Style

open Text

/-- The notations that are read. -/
inductive ColorSyntax where
  /-- Only `rgb(r, g, b)`. -/
  | strict
  /-- Also three or six hexadecimal digits after a number sign. -/
  | cssom
deriving DecidableEq, Repr, Inhabited

/-- Why a value is no colour. -/
inductive ColorError where
  /-- The notation is none of those that are read. -/
  | unsupported (value : String)
  /-- There are more or fewer than three channels. -/
  | channelCount (found : Nat)
  /-- A channel is no whole number. -/
  | invalidChannel (channel : String)
deriving DecidableEq, Repr

/-- The error in words. -/
def ColorError.message : ColorError → String
  | unsupported value => "unsupported color notation: " ++ quoted value
  | channelCount found => "expected 3 color channels, found " ++ toString found
  | invalidChannel channel => "invalid color channel: " ++ quoted channel

/-- What stands between the parentheses of `rgb(…)`, in letters of either case. -/
def rgbArguments? (value : List Char) : Option (List Char) :=
  match value with
  | r :: g :: b :: '(' :: rest =>
    if sameCaseless [r, g, b] ['r', 'g', 'b'] then
      match rest.reverse with
      | ')' :: inner =>
        if inner.any (fun c => c == '(' || c == ')') then none else some inner.reverse
      | _ => none
    else none
  | _ => none

/-- The number that decimal digits stand for, where all from 255 on count as 255. -/
def cappedValue (digits : List Char) : Nat :=
  digits.foldl (fun n c => min 255 (10 * n + (c.toNat - '0'.toNat))) 0

/-- The value of one channel. Numbers above 255 count as 255. -/
def parseChannel (raw : List Char) : Except ColorError UInt8 :=
  let digits := trim raw
  if digits.isEmpty || !digits.all Char.isDigit then
    .error (.invalidChannel (String.ofList digits))
  else .ok (.ofNat (cappedValue digits))

/-- The colour of channels with commas between them. The first channel that is no number counts as
the error, and their count only if there is none. -/
def ofArguments (arguments : List Char) : Except ColorError Rgb :=
  match (split ',' arguments).mapM parseChannel with
  | .error e => .error e
  | .ok [r, g, b] => .ok ⟨r, g, b⟩
  | .ok channels => .error (.channelCount channels.length)

/-- The colour of a value without blanks around it. -/
def parseTrimmed (colorSyntax : ColorSyntax) (value : List Char) : Except ColorError Rgb :=
  if colorSyntax = .cssom ∧ value.head? = some '#' then
    match Rgb.ofHexDigits? value with
    | some color => .ok color
    | none => .error (.unsupported (String.ofList value))
  else
    match rgbArguments? value with
    | some arguments => ofArguments arguments
    | none => .error (.unsupported (String.ofList value))

/-- The colour of a value. -/
def parseValue (colorSyntax : ColorSyntax) (value : List Char) : Except ColorError Rgb :=
  parseTrimmed colorSyntax (trim value)

/-- The colour of a value. -/
def parseColor (colorSyntax : ColorSyntax) (value : String) : Except ColorError Rgb :=
  parseValue colorSyntax value.toList

/-- Of the values that a style declares, the one that counts: the last that can be read, or else the
last. -/
def decidingValue? (colorSyntax : ColorSyntax) (values : List (List Char)) : Option (List Char) :=
  (values.reverse.find? fun value => (parseValue colorSyntax value).isOk).or values.getLast?

/-- What the colour declarations of a style come to. There is nothing only if there are none. -/
def styleColor? (colorSyntax : ColorSyntax) (style : String) : Option (Except ColorError Rgb) :=
  (decidingValue? colorSyntax (colorValues style.toList)).map (parseValue colorSyntax)

end TexListing.Style
