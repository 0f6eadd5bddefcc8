import TexListing.Proofs.Color.HexNotation
import TexListing.Proofs.Style.ImportantMark

/-!
# Hexadecimal colours read by bytes

A colour can be read as its text lies in memory: the digits are told by their bytes and counted in
bytes, three of them are read as characters, and six are cut into pairs by bytes. Each of these steps
could go wrong with other texts. With a text whose bytes are all those of digits none does, since
there is a character to each byte.

* `readHexBytes?`: the notation read by bytes, with no outcome if a step goes wrong.
* `all_isHexByte_toUTF8`, `utf8ByteSize_digits`: digits told and counted by bytes.
* `byteOf?_pair`, `channelAt?_append`: the channel of two digits, cut off by bytes.
* `readHexBytes?_eq`: no step goes wrong.
* `ofHex?_exact`: what is read, what is written, and that it can be read by bytes.
-/

namespace TexListing

open Text Style

/-! ## Reading by bytes -/

/-- The byte is the code of a hexadecimal digit, in letters of either case. -/
def isHexByte (b : UInt8) : Bool :=
  (48 ≤ b && b ≤ 57) || (65 ≤ b && b ≤ 70) || (97 ≤ b && b ≤ 102)

/-- The channel of a digit that is to be doubled. There is none if the character has no value or the
channel is in no byte. -/
def doubledDigit? (c : Char) : Option UInt8 := do
  let digit ← hexValue? c
  let n := digit * 17
  if n < UInt8.size then some (.ofNat n) else none

/-- A number with one more digit, if the character has a value and the number is in a byte. -/
def byteStep? (n : Nat) (c : Char) : Option Nat := do
  let digit ← hexValue? c
  let m := 16 * n + digit
  if m < UInt8.size then some m else none

/-- The byte that digits stand for, after a plus sign or none. There has to be a digit, and no other
character may be among them. -/
def byteOf? (s : List Char) : Option UInt8 :=
  let digits := withoutSign '+' s
  if digits = [] then none else (digits.foldlM byteStep? 0).map .ofNat

/-- The channel of the two bytes from an offset on. There is none if a cut falls within a character
or the two bytes are no number. -/
def channelAt? (digits : String) (offset : Nat) : Option UInt8 := do
  let rest ← sliceFrom? digits offset
  let pair ← sliceTo? rest 2
  byteOf? pair.toList

/-- Reads the hexadecimal notation of a colour by bytes. There is no outcome if a step goes wrong;
a text that is no notation of a colour has the outcome `none`. -/
def readHexBytes? (s : String) : Option (Option Rgb) :=
  let digits := String.ofList (withoutSign '#' s.toList)
  if digits.toUTF8.data.toList.all isHexByte then
    if digits.utf8ByteSize = 3 then do
      let channels ← digits.toList.mapM doubledDigit?
      match channels with
      | [r, g, b] => some (some ⟨r, g, b⟩)
      | _ => none
    else if digits.utf8ByteSize = 6 then do
      let r ← channelAt? digits 0
      let g ← channelAt? digits 2
      let b ← channelAt? digits 4
      some (some ⟨r, g, b⟩)
    else some none
  else some none

/-! ## Digits -/

/-- The first byte of a character beyond ASCII is the code of no digit. -/
theorem isHexByte_ofNat {n : Nat} (hlow : 128 ≤ n) (hhigh : n < 256) :
    isHexByte (.ofNat n) = false := by
  have hn : (UInt8.ofNat n).toNat = n := UInt8.toNat_ofNat_of_lt' hhigh
  have hgt : ∀ m : UInt8, m.toNat < 128 → decide (UInt8.ofNat n ≤ m) = false := by
    intro m hm
    rw [decide_eq_false_iff_not, UInt8.le_iff_toNat_le]
    omega
  unfold isHexByte
  rw [hgt 57 (by decide), hgt 70 (by decide), hgt 102 (by decide)]
  simp only [Bool.and_false, Bool.or_false]

/-- **A character is a digit if its bytes are those of digits.** -/
theorem all_isHexByte_utf8EncodeChar (c : Char) :
    (String.utf8EncodeChar c).all isHexByte = isHexDigit c := by
  refine forall_ascii_or ?_ (fun c hc => ?_) c
  · decide +kernel
  · -- whatever the number of bytes is, the first of them is no ASCII code
    obtain ⟨lead, rest, hbytes, hlow, hhigh⟩ : ∃ lead rest,
        String.utf8EncodeChar c = UInt8.ofNat lead :: rest ∧ 128 ≤ lead ∧ lead < 256 := by
      have hascii : ¬ c.val.toNat ≤ 127 := Nat.not_le.2 hc
      unfold String.utf8EncodeChar
      simp only
      rw [if_neg hascii]
      split
      · exact ⟨_, _, rfl, by omega, by omega⟩
      · split
        · exact ⟨_, _, rfl, by omega, by omega⟩
        · exact ⟨_, _, rfl, by omega, by omega⟩
    rw [hbytes, List.all_cons, isHexByte_ofNat hlow hhigh, Bool.false_and, (hexValue?_of_le hc).1]

/-- **Digits are told by their bytes.** -/
theorem all_isHexByte_toUTF8 (digits : List Char) :
    (String.ofList digits).toUTF8.data.toList.all isHexByte = digits.all isHexDigit := by
  have hbytes :
      (String.ofList digits).toUTF8.data.toList = digits.flatMap String.utf8EncodeChar := by
    rw [String.toUTF8_eq_toByteArray, String.toByteArray_ofList]
    exact List.toList_data_toByteArray
  rw [hbytes, List.all_flatMap]
  congr 1
  funext c
  exact all_isHexByte_utf8EncodeChar c

/-- **Digits are counted by their bytes.** -/
theorem utf8ByteSize_digits {digits : List Char} (h : digits.all isHexDigit = true) :
    (String.ofList digits).utf8ByteSize = digits.length := by
  induction digits with
  | nil => rfl
  | cons c rest ih =>
    rw [List.all_cons, Bool.and_eq_true] at h
    have hascii : c.utf8Size = 1 := by
      rw [Char.utf8Size_eq_one_iff, UInt32.le_iff_toNat_le]
      by_contra hlarge
      have hle : 128 ≤ c.toNat := Nat.lt_of_not_le hlarge
      rw [(hexValue?_of_le hle).1] at h
      exact absurd h.1 Bool.false_ne_true
    rw [utf8ByteSize_ofList_cons, hascii, ih h.2, List.length_cons, Nat.add_comm]

/-! ## Channels -/

theorem doubledDigit?_eq {c : Char} (h : isHexDigit c = true) :
    doubledDigit? c = some (hexByte c c) := by
  have hdouble : hexPlace c * 17 = 16 * hexPlace c + hexPlace c := by omega
  have hsmall := pair_lt_size (hexPlace_lt h) (hexPlace_lt h)
  unfold doubledDigit?
  rw [hexValue?_eq, if_pos h, Option.bind_eq_bind, Option.bind_some, hdouble, if_pos hsmall,
    ← hexByte]

theorem byteStep?_eq {n : Nat} {c : Char} (hn : n < 16) (h : isHexDigit c = true) :
    byteStep? n c = some (16 * n + hexPlace c) := by
  have hsmall := pair_lt_size hn (hexPlace_lt h)
  unfold byteStep?
  rw [hexValue?_eq, if_pos h, Option.bind_eq_bind, Option.bind_some, if_pos hsmall]

/-- Two digits are a number in a byte. Neither of them is a plus sign. -/
theorem byteOf?_pair {c d : Char} (hc : isHexDigit c = true) (hd : isHexDigit d = true) :
    byteOf? [c, d] = some (hexByte c d) := by
  have hplus : c ≠ '+' := by
    rintro rfl
    exact absurd hc (by decide)
  have hfirst : byteStep? 0 c = some (hexPlace c) := by
    rw [byteStep?_eq (by decide) hc, Nat.mul_zero, Nat.zero_add]
  have hboth : [c, d].foldlM byteStep? 0 = some (16 * hexPlace c + hexPlace d) := by
    rw [List.foldlM_cons, hfirst, Option.bind_eq_bind, Option.bind_some, List.foldlM_cons,
      byteStep?_eq (hexPlace_lt hc) hd]
    rfl
  unfold byteOf?
  simp only
  rw [withoutSign_cons_of_ne hplus, if_neg (List.cons_ne_nil _ _), hboth, Option.map_some, hexByte]

/-- **The channel of two digits among others** is cut off by bytes. -/
theorem channelAt?_append (before : List Char) {after : List Char} {c d : Char}
    (h : (before ++ c :: d :: after).all isHexDigit = true) :
    channelAt? (String.ofList (before ++ c :: d :: after)) before.length = some (hexByte c d) := by
  rw [List.all_append, Bool.and_eq_true] at h
  obtain ⟨hbefore, hrest⟩ := h
  simp only [List.all_cons, Bool.and_eq_true] at hrest
  obtain ⟨hc, hd, -⟩ := hrest
  have hpair : [c, d].all isHexDigit = true := by
    rw [List.all_cons, List.all_cons, hc, hd]
    rfl
  have htwo : (String.ofList [c, d]).utf8ByteSize = 2 := utf8ByteSize_digits hpair
  have hcut : c :: d :: after = [c, d] ++ after := rfl
  unfold channelAt?
  rw [← utf8ByteSize_digits hbefore, String.ofList_append, sliceFrom?_append, Option.bind_eq_bind,
    Option.bind_some, hcut, String.ofList_append, ← htwo, sliceTo?_append, Option.bind_some,
    String.toList_ofList, byteOf?_pair hc hd]

/-! ## Colours -/

theorem mapM_doubledDigit? {r g b : Char} (h : [r, g, b].all isHexDigit = true) :
    [r, g, b].mapM doubledDigit? = some [hexByte r r, hexByte g g, hexByte b b] := by
  simp only [List.all_cons, List.all_nil, Bool.and_true, Bool.and_eq_true] at h
  obtain ⟨hr, hg, hb⟩ := h
  rw [List.mapM_cons, List.mapM_cons, List.mapM_cons, doubledDigit?_eq hr, doubledDigit?_eq hg,
    doubledDigit?_eq hb]
  rfl

/-- **No step goes wrong**, whatever the text is. -/
theorem readHexBytes?_eq (s : String) : readHexBytes? s = some (Rgb.ofHex? s) := by
  rw [Rgb.ofHex?, ofHexDigits?_eq_hexChannels?]
  unfold readHexBytes?
  simp only
  rw [all_isHexByte_toUTF8, String.toList_ofList]
  by_cases h : (withoutSign '#' s.toList).all isHexDigit = true
  · -- from here on there is a character to each byte
    rw [if_pos h, if_pos h, utf8ByteSize_digits h]
    generalize withoutSign '#' s.toList = digits at h
    by_cases hthree : digits.length = 3
    · obtain ⟨r, g, b, rfl⟩ := List.length_eq_three.1 hthree
      rw [if_pos hthree, mapM_doubledDigit? h]
      rfl
    · rw [if_neg hthree]
      by_cases hsix : digits.length = 6
      · obtain ⟨r₁, r₀, g₁, g₀, b₁, b₀, rfl⟩ := exists_of_length_eq_six hsix
        have hr := channelAt?_append [] h
        have hg := channelAt?_append [r₁, r₀] h
        have hb := channelAt?_append [r₁, r₀, g₁, g₀] h
        simp only [List.nil_append, List.cons_append, List.length_cons, List.length_nil] at hr hg hb
        rw [if_pos hsix, hr, hg, hb]
        rfl
      · have hlength : ¬ (digits.length = 3 ∨ digits.length = 6) := not_or.2 ⟨hthree, hsix⟩
        rw [if_neg hsix, hexChannels?_of_length hlength]
  · rw [if_neg h, if_neg h]

/-- **Exactly the notation of colours is read.** A text is read if and only if three or six
hexadecimal digits are left of it without a number sign at its start, and the colour is written with
the same digits in capitals, three of them doubled, which are read as the same colour. A written
colour is read back, with a number sign and without. Read by bytes, no text is cut within a
character, and no digit is without a value or too large for its channel. -/
theorem ofHex?_exact :
    (∀ s : String, (Rgb.ofHex? s).map Rgb.hex =
      if IsHexCode (withoutSign '#' s.toList) then
        some (String.ofList ((sixDigits (withoutSign '#' s.toList)).map Char.toUpper))
      else none) ∧
    (∀ s : String,
      Rgb.ofHex? s = Rgb.ofHex? (String.ofList ('#' :: sixDigits (withoutSign '#' s.toList)))) ∧
    (∀ c : Rgb, Rgb.ofHex? c.hex = some c ∧ Rgb.ofHex? c.hexCode = some c) ∧
    ∀ s : String, readHexBytes? s = some (Rgb.ofHex? s) := by
  refine ⟨map_hex_ofHex?, ofHex?_sixDigits, fun c => ?_, readHexBytes?_eq⟩
  exact ⟨ofHex?_hex c, ofHex?_hexCode c⟩

/-- Three digits with a sign, and as many bytes of which two are one character. -/
example : (Rgb.ofHex? "#0a3").map Rgb.hex = some "00AA33" ∧ Rgb.ofHex? "aé" = none := by decide

end TexListing
