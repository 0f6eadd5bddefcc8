import Std.Data.HashMap
import TexListing.Html.Reference.Names
import TexListing.Html.Source
import TexListing.Text.Hex
import TexListing.Text.Split

/-!
# Character references

An ampersand that stands for other characters, by their name or by their number.

* `Reference`: the characters that are meant, and the text that is left.
* `reference?`: the reference that begins after an ampersand, if one does.
* `decodeValue`: the value of an attribute, with its references replaced.
-/

namespace TexListing.Html

open Text

/-- What an ampersand and the text after it stand for. -/
structure Reference where
  /-- The characters that are meant. -/
  meaning : List Char
  /-- The text after the reference. -/
  rest : List Char
  /-- The reference ends with a semicolon. -/
  closed : Bool

/-- The number that hexadecimal digits stand for. -/
def hexNumber (digits : List Char) : Nat :=
  digits.foldl (fun n c => 16 * n + (hexValue? c).getD 0) 0

/-- The number that decimal digits stand for. -/
def decimalNumber (digits : List Char) : Nat :=
  digits.foldl (fun n c => 10 * n + (c.toNat - '0'.toNat)) 0

/-- The name, whether it counts without a semicolon, and the characters it stands for. -/
def readName (entry : List Char) : Option (String × Bool × List Char) :=
  match cutFirst '=' entry with
  | none => none
  | some (name, codes) =>
    let meaning := (split '+' codes).map fun digits => Char.ofNat (hexNumber digits)
    match cutFirst '*' name with
    | none => some (String.ofList name, false, meaning)
    | some (name, _) => some (String.ofList name, true, meaning)

/-- The entries of a table of names, which have blanks between them. -/
def nameEntries (table : String) : List (List Char) :=
  (split ' ' (table.toList.map fun c => if c = '\n' then ' ' else c)).filter (!·.isEmpty)

/-- What each name stands for, and whether it counts without a semicolon. -/
def namedCharacters : Std.HashMap String (Bool × List Char) :=
  (nameEntries referenceNames).foldl (fun known entry =>
    match readName entry with
    | none => known
    | some (name, open_, meaning) => known.insert name (open_, meaning)) ∅

/-- The characters that the codes from 0x80 to 0x9F stand for; zero keeps the code itself. -/
def controlMeanings : List Nat :=
  [0x20AC, 0, 0x201A, 0x192, 0x201E, 0x2026, 0x2020, 0x2021, 0x2C6, 0x2030, 0x160, 0x2039, 0x152, 0,
   0x17D, 0, 0, 0x2018, 0x2019, 0x201C, 0x201D, 0x2022, 0x2013, 0x2014, 0x2DC, 0x2122, 0x161,
   0x203A, 0x153, 0, 0x17E, 0x178]

/-- The character of a code. Codes that stand for none give the replacement character. -/
def codeMeaning (n : Nat) : Char :=
  if n = 0 || (0xD800 ≤ n && n ≤ 0xDFFF) || 0x10FFFF < n then '\uFFFD'
  else if 0x80 ≤ n && n ≤ 0x9F then
    match controlMeanings[n - 0x80]? with
    | some 0 | none => Char.ofNat n
    | some m => Char.ofNat m
  else Char.ofNat n

/-- A reference by number, where the text begins with its digits; there must be some. -/
def numbered (number : Nat) (digits rest : List Char) : Option Reference :=
  if digits.isEmpty then none
  else
    match rest with
    | ';' :: rest => some ⟨[codeMeaning number], rest, true⟩
    | _ => some ⟨[codeMeaning number], rest, false⟩

/-- A reference by number, after the number sign. -/
def numericReference? (s : List Char) : Option Reference :=
  match s with
  | 'x' :: s | 'X' :: s =>
    let (digits, rest) := s.span fun c => (hexValue? c).isSome
    numbered (hexNumber digits) digits rest
  | _ =>
    let (digits, rest) := s.span Char.isDigit
    numbered (decimalNumber digits) digits rest

/-- The longest name at the start of the text that needs no semicolon, of the given length at
most. -/
def openName? (s : List Char) : Nat → Option Reference
  | 0 => none
  | n + 1 =>
    match namedCharacters[String.ofList (s.take (n + 1))]? with
    | some (true, meaning) => some ⟨meaning, s.drop (n + 1), false⟩
    | _ => openName? s n

/-- No name has more letters. -/
def longestName : Nat := 31

/-- A reference by name. Within the value of an attribute, a name without a semicolon does not count
before an equals sign, a letter or a digit. -/
def namedReference? (inAttribute : Bool) (s : List Char) : Option Reference :=
  let (word, rest) := s.span Char.isAlphanum
  let whole := match rest with
    | ';' :: rest => (namedCharacters[String.ofList word]?).map fun (_, meaning) =>
      Reference.mk meaning rest true
    | _ => none
  match whole with
  | some reference => some reference
  | none =>
    match openName? s (min word.length longestName) with
    | none => none
    | some reference =>
      match reference.rest with
      | c :: _ => if inAttribute && (c == '=' || c.isAlphanum) then none else some reference
      | [] => some reference

/-- The reference that begins after an ampersand. -/
def reference? (inAttribute : Bool) (s : List Char) : Option Reference :=
  match s with
  | '#' :: s => numericReference? s
  | _ => namedReference? inAttribute s

/-- Adds the value of an attribute to the front of what is done, which is in reverse. Each step
reads a character or a reference; there are no more steps than characters. -/
def decodeValueFrom (done : List Char) : Nat → List Char → List Char
  | 0, _ | _, [] => done.reverse
  | steps + 1, '&' :: rest =>
    match reference? true rest with
    | some reference =>
      decodeValueFrom (reference.meaning.reverse ++ done) steps reference.rest
    | none => decodeValueFrom ('&' :: done) steps rest
  | steps + 1, c :: rest => decodeValueFrom (replaceNul c :: done) steps rest

/-- The value of an attribute, with its references replaced. -/
def decodeValue (s : List Char) : String :=
  String.ofList (decodeValueFrom [] s.length s)

end TexListing.Html
