import Std.Data.String.ToNat

/-!
# Decimal digits

The decimal notation of a number, as it is written and read.

* `isDigit_of_mem_toString`, `notMem_toString`: it has digits only.
* `ofDigitChars_toString`: its digits stand for the number.
-/

namespace TexListing.Text

theorem isDigit_of_mem_toString {n : Nat} {c : Char} (hc : c ∈ (toString n).toList) :
    c.isDigit = true := by
  rw [Nat.toString_eq_repr, Nat.toList_repr] at hc
  exact Nat.isDigit_of_mem_toDigits (by omega) (by omega) hc

theorem notMem_toString {sep : Char} (h : sep.isDigit = false) (n : Nat) :
    sep ∉ (toString n).toList := by
  intro hsep
  rw [isDigit_of_mem_toString hsep] at h
  exact Bool.noConfusion h

theorem toString_toList_ne_nil (n : Nat) : (toString n).toList ≠ [] := by
  rw [Nat.toString_eq_repr, Nat.toList_repr]
  exact Nat.toDigits_ne_nil

/-- The digits of a number stand for it. -/
theorem ofDigitChars_toString (n : Nat) : Nat.ofDigitChars 10 (toString n).toList 0 = n := by
  rw [Nat.toString_eq_repr, Nat.toList_repr, Nat.ofDigitChars_ten_toDigits]

end TexListing.Text
