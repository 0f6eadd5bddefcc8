import TexListing.Color.Rgb
import TexListing.Text.Caseless

/-!
# Hexadecimal colours

The notation of a colour by a number sign and three or six hexadecimal digits, told by the places of
the digits in the row from `0` to `f`.

* `hexRow`, `isHexDigit`, `hexPlace`: the digits, and the place of a digit in the row.
* `hexChannels?`, `hexColor?`: the colour of digits, and of the whole notation.
* `hexValue?_eq`: the value of a digit is its place.
* `ofHexDigits?_eq`: what is read after a number sign is the colour of the notation.
-/

namespace TexListing

open Text

/-- The hexadecimal digits in order. -/
def hexRow : List Char :=
  "0123456789abcdef".toList

/-- The character is a hexadecimal digit, in letters of either case. -/
def isHexDigit (c : Char) : Bool :=
  hexRow.contains c.toLower

/-- The place of a digit in the row. -/
def hexPlace (c : Char) : Nat :=
  hexRow.idxOf c.toLower

/-- The channel of two digits. -/
def hexByte (high low : Char) : UInt8 :=
  .ofNat (16 * hexPlace high + hexPlace low)

/-- The colour of exactly three or exactly six digits, two for each channel; three stand for six with
each digit doubled. -/
def hexChannels? : List Char → Option Rgb
  | [r, g, b] => some ⟨hexByte r r, hexByte g g, hexByte b b⟩
  | [r₁, r₀, g₁, g₀, b₁, b₀] => some ⟨hexByte r₁ r₀, hexByte g₁ g₀, hexByte b₁ b₀⟩
  | _ => none

/-- The colour of a number sign and hexadecimal digits. -/
def hexColor? : List Char → Option Rgb
  | '#' :: digits => if digits.all isHexDigit then hexChannels? digits else none
  | _ => none

/-- Characters beyond ASCII are no digits and have no value. -/
theorem hexValue?_of_le {c : Char} (h : 128 ≤ c.toNat) :
    isHexDigit c = false ∧ hexValue? c = none := by
  have hgt : ∀ d : Char, d.toNat < 128 → ¬ c ≤ d := by
    intro d hd hle
    have : c.toNat ≤ d.toNat := UInt32.le_iff_toNat_le.1 hle
    omega
  refine ⟨?_, ?_⟩
  · rw [isHexDigit, toLower_of_le h, List.contains_eq_mem, decide_eq_false_iff_not]
    intro hm
    have hrow : hexRow.all (·.toNat < 128) = true := by decide
    have hc : c.toNat < 128 := by simpa using List.all_eq_true.1 hrow c hm
    omega
  · rw [hexValue?, if_neg fun hc => hgt _ (by decide) hc.2,
      if_neg fun hc => hgt _ (by decide) hc.2, if_neg fun hc => hgt _ (by decide) hc.2]

/-- **The value of a digit is its place in the row**, and no other character has a value. -/
theorem hexValue?_eq (c : Char) :
    hexValue? c = if isHexDigit c = true then some (hexPlace c) else none := by
  refine forall_ascii_or ?_ (fun c hc => ?_) c
  · decide +kernel
  · obtain ⟨hdigit, hvalue⟩ := hexValue?_of_le hc
    rw [hvalue, hdigit]
    rfl

theorem mapM_hexValue? (digits : List Char) :
    digits.mapM hexValue? =
      if digits.all isHexDigit = true then some (digits.map hexPlace) else none := by
  induction digits with
  | nil => rfl
  | cons c rest ih =>
    rw [List.mapM_cons, hexValue?_eq, ih]
    by_cases hc : isHexDigit c = true <;> by_cases hr : rest.all isHexDigit = true <;>
      simp [hc, hr]

/-- **What is read after a number sign is the colour of the notation.** -/
theorem ofHexDigits?_eq (digits : List Char) :
    Rgb.ofHexDigits? ('#' :: digits) = hexColor? ('#' :: digits) := by
  have hdouble : ∀ c, UInt8.ofNat (hexPlace c * 17) = hexByte c c := by
    intro c
    rw [hexByte]
    congr 1
    omega
  have hpair : ∀ c d, UInt8.ofNat (hexPlace c * 16 + hexPlace d) = hexByte c d := by
    intro c d
    rw [hexByte, Nat.mul_comm]
  -- the number of digits decides, and seven of them are already too many
  have hchannels : Rgb.ofDigits? (digits.map hexPlace) = hexChannels? digits := by
    rcases digits with - | ⟨a, - | ⟨b, - | ⟨c, - | ⟨d, - | ⟨e, - | ⟨f, - | ⟨g, rest⟩⟩⟩⟩⟩⟩⟩ <;>
      simp only [List.map_nil, List.map_cons, Rgb.ofDigits?, hexChannels?, hdouble, hpair]
  have hread : Rgb.ofHexDigits? ('#' :: digits) = (digits.mapM hexValue?).bind Rgb.ofDigits? := rfl
  rw [hread, mapM_hexValue?, hexColor?]
  split
  · exact hchannels
  · rfl

end TexListing
