import Mathlib.Data.List.Basic
import TexListing.Proofs.Color.Hexadecimal

/-!
# What is read as a hexadecimal colour

A colour is read off three or six hexadecimal digits after at most one number sign, and off nothing
else. Written again it has the same digits in capitals, three of them doubled.

* `withoutSign`, `IsHexCode`, `sixDigits`: the digits of a text, whether they are those of a colour,
  and three digits as the six that they stand for.
* `map_hex_ofHex?`: which texts are read, and what is written of the colour.
* `ofHex?_sixDigits`: three digits are read as the six that they stand for.
* `ofHex?_hex`, `ofHex?_hexCode`: a written colour is read back.
-/

namespace TexListing

open Text

/-! ## Digits -/

/-- The text without a sign at its start. Only one sign comes off. -/
def withoutSign (sign : Char) : List Char → List Char
  | [] => []
  | c :: rest => if c = sign then rest else c :: rest

@[simp] theorem withoutSign_cons_self (sign : Char) (rest : List Char) :
    withoutSign sign (sign :: rest) = rest :=
  if_pos rfl

theorem withoutSign_cons_of_ne {sign c : Char} (h : c ≠ sign) (rest : List Char) :
    withoutSign sign (c :: rest) = c :: rest :=
  if_neg h

/-- The digits are those of a colour: three or six of them, in letters of either case. -/
def IsHexCode (digits : List Char) : Prop :=
  (digits.length = 3 ∨ digits.length = 6) ∧ digits.all isHexDigit = true

instance (digits : List Char) : Decidable (IsHexCode digits) :=
  inferInstanceAs (Decidable (_ ∧ _))

/-- Three digits stand for six, each of them doubled. -/
def sixDigits : List Char → List Char
  | [r, g, b] => [r, r, g, g, b, b]
  | digits => digits

theorem hexPlace_lt {c : Char} (h : isHexDigit c = true) : hexPlace c < 16 := by
  have hmem : c.toLower ∈ hexRow := List.contains_iff_mem.1 h
  exact List.idxOf_lt_length_iff.2 hmem

/-- A digit is written as its capital. -/
theorem hexDigit_hexPlace {c : Char} (h : isHexDigit c = true) :
    hexDigit (hexPlace c) = c.toUpper := by
  revert h
  refine forall_ascii_or ?_ (fun c hc h => ?_) c
  · decide +kernel
  · rw [(hexValue?_of_le hc).1] at h
    exact absurd h Bool.false_ne_true

/-- The number of two digits is in a byte. -/
theorem pair_lt_size {n m : Nat} (hn : n < 16) (hm : m < 16) : 16 * n + m < UInt8.size := by
  unfold UInt8.size
  omega

theorem toNat_hexByte {c d : Char} (hc : isHexDigit c = true) (hd : isHexDigit d = true) :
    (hexByte c d).toNat = 16 * hexPlace c + hexPlace d := by
  rw [hexByte, UInt8.toNat_ofNat_of_lt' (pair_lt_size (hexPlace_lt hc) (hexPlace_lt hd))]

/-- **The channel of two digits is written as the two digits.** -/
theorem hexPair_hexByte {c d : Char} (hc : isHexDigit c = true) (hd : isHexDigit d = true) :
    hexPair (hexByte c d) = [c.toUpper, d.toUpper] := by
  have hplace := hexPlace_lt hd
  have hhigh : (16 * hexPlace c + hexPlace d) / 16 = hexPlace c := by omega
  have hlow : (16 * hexPlace c + hexPlace d) % 16 = hexPlace d := by omega
  rw [hexPair, toNat_hexByte hc hd, hhigh, hlow, hexDigit_hexPlace hc, hexDigit_hexPlace hd]

/-- A written digit is a digit, at the place of the number. -/
theorem isHexDigit_hexDigit {n : Nat} (h : n < 16) :
    isHexDigit (hexDigit n) = true ∧ hexPlace (hexDigit n) = n := by
  have hvalue := hexValue?_hexDigit h
  rw [hexValue?_eq] at hvalue
  split at hvalue
  · next hdigit => exact ⟨hdigit, Option.some.inj hvalue⟩
  · exact absurd hvalue (by simp)

/-! ## Colours -/

/-- A text is read by its digits, with a number sign or without. -/
theorem ofHexDigits?_eq_hexChannels? (s : List Char) :
    Rgb.ofHexDigits? s =
      if (withoutSign '#' s).all isHexDigit = true then hexChannels? (withoutSign '#' s)
      else none := by
  have hsign : Rgb.ofHexDigits? s = Rgb.ofHexDigits? ('#' :: withoutSign '#' s) := by
    cases s with
    | nil => rfl
    | cons c rest =>
      by_cases hc : c = '#'
      · rw [hc, withoutSign_cons_self]
      · rw [withoutSign_cons_of_ne hc]
        unfold Rgb.ofHexDigits?
        split
        · next heq => exact absurd (List.cons.inj heq).1 hc
        · rfl
  rw [hsign, ofHexDigits?_eq]
  rfl

theorem hexChannels?_of_length {digits : List Char}
    (h : ¬ (digits.length = 3 ∨ digits.length = 6)) : hexChannels? digits = none := by
  unfold hexChannels?
  split
  · exact absurd (Or.inl rfl) h
  · exact absurd (Or.inr rfl) h
  · rfl

theorem exists_of_length_eq_six {digits : List Char} (h : digits.length = 6) :
    ∃ r₁ r₀ g₁ g₀ b₁ b₀, digits = [r₁, r₀, g₁, g₀, b₁, b₀] := by
  have htake : (digits.take 3).length = 3 := by
    rw [List.length_take]
    omega
  have hdrop : (digits.drop 3).length = 3 := by
    rw [List.length_drop]
    omega
  obtain ⟨r₁, r₀, g₁, hfirst⟩ := List.length_eq_three.1 htake
  obtain ⟨g₀, b₁, b₀, hsecond⟩ := List.length_eq_three.1 hdrop
  refine ⟨r₁, r₀, g₁, g₀, b₁, b₀, ?_⟩
  rw [← List.take_append_drop 3 digits, hfirst, hsecond]
  rfl

theorem hexChannels?_sixDigits (digits : List Char) :
    hexChannels? (sixDigits digits) = hexChannels? digits := by
  unfold sixDigits
  split
  · rfl
  · rfl

theorem all_sixDigits (digits : List Char) :
    (sixDigits digits).all isHexDigit = digits.all isHexDigit := by
  unfold sixDigits
  split
  · next r g b =>
    simp only [List.all_cons, List.all_nil, Bool.and_true]
    cases isHexDigit r <;> cases isHexDigit g <;> cases isHexDigit b <;> rfl
  · rfl

/-- The colour of six digits is written as the six digits. -/
theorem hex_of_hexBytes {r₁ r₀ g₁ g₀ b₁ b₀ : Char}
    (h : [r₁, r₀, g₁, g₀, b₁, b₀].all isHexDigit = true) :
    Rgb.hex ⟨hexByte r₁ r₀, hexByte g₁ g₀, hexByte b₁ b₀⟩ =
      String.ofList ([r₁, r₀, g₁, g₀, b₁, b₀].map Char.toUpper) := by
  simp only [List.all_cons, List.all_nil, Bool.and_true, Bool.and_eq_true] at h
  obtain ⟨hr₁, hr₀, hg₁, hg₀, hb₁, hb₀⟩ := h
  unfold Rgb.hex
  simp only
  rw [hexPair_hexByte hr₁ hr₀, hexPair_hexByte hg₁ hg₀, hexPair_hexByte hb₁ hb₀]
  rfl

theorem map_hex_hexChannels? {digits : List Char} (h : digits.all isHexDigit = true) :
    (hexChannels? digits).map Rgb.hex =
      if digits.length = 3 ∨ digits.length = 6 then
        some (String.ofList ((sixDigits digits).map Char.toUpper))
      else none := by
  by_cases hlength : digits.length = 3 ∨ digits.length = 6
  · rw [if_pos hlength, ← hexChannels?_sixDigits]
    rw [← all_sixDigits] at h
    -- either way there are six digits to be written
    obtain ⟨r₁, r₀, g₁, g₀, b₁, b₀, hsix⟩ :
        ∃ r₁ r₀ g₁ g₀ b₁ b₀, sixDigits digits = [r₁, r₀, g₁, g₀, b₁, b₀] := by
      rcases hlength with hthree | hsix
      · obtain ⟨r, g, b, rfl⟩ := List.length_eq_three.1 hthree
        exact ⟨r, r, g, g, b, b, rfl⟩
      · obtain ⟨r₁, r₀, g₁, g₀, b₁, b₀, rfl⟩ := exists_of_length_eq_six hsix
        exact ⟨r₁, r₀, g₁, g₀, b₁, b₀, rfl⟩
    rw [hsix] at h ⊢
    rw [hexChannels?, Option.map_some, hex_of_hexBytes h]
  · rw [if_neg hlength, hexChannels?_of_length hlength, Option.map_none]

/-- **What is read and what is written again.** A text is read if and only if its digits are those of
a colour, and the colour is written with the same digits in capitals. -/
theorem map_hex_ofHex? (s : String) :
    (Rgb.ofHex? s).map Rgb.hex =
      if IsHexCode (withoutSign '#' s.toList) then
        some (String.ofList ((sixDigits (withoutSign '#' s.toList)).map Char.toUpper))
      else none := by
  rw [Rgb.ofHex?, ofHexDigits?_eq_hexChannels?]
  by_cases hall : (withoutSign '#' s.toList).all isHexDigit = true
  · rw [if_pos hall, map_hex_hexChannels? hall]
    refine if_congr ?_ rfl rfl
    exact (and_iff_left hall).symm
  · rw [if_neg hall, if_neg fun h : IsHexCode _ => hall h.2, Option.map_none]

/-- **Three digits are read as the six that they stand for.** -/
theorem ofHex?_sixDigits (s : String) :
    Rgb.ofHex? s = Rgb.ofHex? (String.ofList ('#' :: sixDigits (withoutSign '#' s.toList))) := by
  rw [Rgb.ofHex?, Rgb.ofHex?, String.toList_ofList, ofHexDigits?_eq_hexChannels?,
    ofHexDigits?_eq_hexChannels?, withoutSign_cons_self, all_sixDigits, hexChannels?_sixDigits]

/-! ## Written colours -/

theorem toNat_div_lt (x : UInt8) : x.toNat / 16 < 16 := by
  have hx : x.toNat < 256 := x.toNat_lt
  omega

theorem toNat_mod_lt (x : UInt8) : x.toNat % 16 < 16 :=
  Nat.mod_lt _ (by decide)

theorem all_hexPair (x : UInt8) : (hexPair x).all isHexDigit = true := by
  have hhigh := isHexDigit_hexDigit (toNat_div_lt x)
  have hlow := isHexDigit_hexDigit (toNat_mod_lt x)
  simp only [hexPair, List.all_cons, List.all_nil, hhigh.1, hlow.1, Bool.and_true]

/-- A channel is read off the two digits that are written for it. -/
theorem hexByte_hexDigit (x : UInt8) :
    hexByte (hexDigit (x.toNat / 16)) (hexDigit (x.toNat % 16)) = x := by
  have hhigh := isHexDigit_hexDigit (toNat_div_lt x)
  have hlow := isHexDigit_hexDigit (toNat_mod_lt x)
  have hwhole : 16 * (x.toNat / 16) + x.toNat % 16 = x.toNat := Nat.div_add_mod _ _
  rw [hexByte, hhigh.2, hlow.2, hwhole, UInt8.ofNat_toNat]

theorem ofHexDigits?_hex {s : List Char} {c : Rgb} (h : withoutSign '#' s = c.hex.toList) :
    Rgb.ofHexDigits? s = some c := by
  have hdigits : c.hex.toList = hexPair c.r ++ hexPair c.g ++ hexPair c.b :=
    String.toList_ofList
  have hall : (hexPair c.r ++ hexPair c.g ++ hexPair c.b).all isHexDigit = true := by
    rw [List.all_append, List.all_append, all_hexPair, all_hexPair, all_hexPair]
    rfl
  have hchannels : hexChannels? (hexPair c.r ++ hexPair c.g ++ hexPair c.b) = some c := by
    simp only [hexPair, List.cons_append, List.nil_append, hexChannels?, hexByte_hexDigit]
  rw [ofHexDigits?_eq_hexChannels?, h, hdigits, if_pos hall, hchannels]

/-- **A written colour is read back.** -/
theorem ofHex?_hex (c : Rgb) : Rgb.ofHex? c.hex = some c := by
  refine ofHexDigits?_hex ?_
  have hdigits : c.hex.toList = hexPair c.r ++ (hexPair c.g ++ hexPair c.b) := by
    rw [Rgb.hex, String.toList_ofList, List.append_assoc]
  -- the first character is a digit, and so it is no number sign
  have hfirst : hexDigit (c.r.toNat / 16) ≠ '#' := by
    intro hsign
    have hpair := all_hexPair c.r
    rw [hexPair, hsign, List.all_cons] at hpair
    exact absurd (Bool.and_eq_true_iff.1 hpair).1 (by decide)
  rw [hdigits, hexPair, List.cons_append, withoutSign_cons_of_ne hfirst]

/-- **So it is with a number sign.** -/
theorem ofHex?_hexCode (c : Rgb) : Rgb.ofHex? c.hexCode = some c := by
  refine ofHexDigits?_hex ?_
  rw [Rgb.hexCode, String.toList_append]
  exact withoutSign_cons_self _ _

end TexListing
