import TexListing.Text.Extending
import TexListing.Text.Hidden

/-!
# Quoted text

A text written between double quotes on one line, so that every character of it can be told.

* `quotedChar`: the characters that stand for one character.
* `quoted`: a whole text, quotes included.
-/

namespace TexListing.Text

/-- The code point in small hexadecimal digits, without leading zeros. -/
def hexCode (c : Char) : List Char :=
  Nat.toDigits 16 c.toNat

/-- A quote and a backslash follow a backslash, four controls have a letter, and any other character
that is hidden or extends the one before it is written by its code point. -/
def quotedChar (c : Char) : List Char :=
  match c with
  | '\x22' => ['\\', '\x22']
  | '\\' => ['\\', '\\']
  | '\n' => ['\\', 'n']
  | '\r' => ['\\', 'r']
  | '\t' => ['\\', 't']
  | '\x00' => ['\\', '0']
  | _ =>
    if isExtending c || isHidden c then ['\\', 'u', '\x7b'] ++ hexCode c ++ ['\x7d'] else [c]

/-- The text between double quotes. -/
def quoted (s : String) : String :=
  String.ofList ('\x22' :: s.toList.flatMap quotedChar ++ ['\x22'])

end TexListing.Text
