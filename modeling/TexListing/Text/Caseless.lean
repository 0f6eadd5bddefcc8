/-!
# Caseless comparison

Comparison of texts that does not tell the capital letters of ASCII from the small ones.

* `foldCase`: the text with its ASCII capitals made small.
* `sameCaseless`: two texts are equal up to the case of ASCII letters.
* `forall_ascii_or`: what holds of each character of ASCII and of all others holds of any.
* `toLower_of_le`: the others have no case.
-/

namespace TexListing.Text

/-- The text with the capital letters of ASCII made small, all else kept. -/
def foldCase (s : List Char) : List Char :=
  s.map Char.toLower

/-- The texts differ at most in the case of ASCII letters. -/
def sameCaseless (s t : List Char) : Bool :=
  foldCase s == foldCase t

@[simp] theorem sameCaseless_iff {s t : List Char} :
    sameCaseless s t = true ↔ foldCase s = foldCase t := by
  simp [sameCaseless]

theorem sameCaseless_self (s : List Char) : sameCaseless s s = true := by
  simp

@[simp] theorem length_foldCase (s : List Char) : (foldCase s).length = s.length := by
  simp [foldCase]

/-- A character is one of the 128 of ASCII or none of them. -/
@[elab_as_elim]
theorem forall_ascii_or {motive : Char → Prop} (ascii : ∀ n < 128, motive (Char.ofNat n))
    (other : ∀ c : Char, 128 ≤ c.toNat → motive c) (c : Char) : motive c := by
  by_cases hc : c.toNat < 128
  · have hchar := ascii c.toNat hc
    rwa [Char.ofNat_toNat] at hchar
  · exact other c (Nat.le_of_not_lt hc)

/-- No character beyond ASCII has a case. -/
theorem toLower_of_le {c : Char} (h : 128 ≤ c.toNat) : c.toLower = c := by
  unfold Char.toLower
  rw [dif_neg]
  rintro ⟨-, hle⟩
  have : c.toNat ≤ 90 := UInt32.le_iff_toNat_le.1 hle
  omega

end TexListing.Text

namespace String

/-- The texts differ at most in the case of ASCII letters. -/
def sameCaseless (s t : String) : Bool :=
  TexListing.Text.sameCaseless s.toList t.toList

end String
