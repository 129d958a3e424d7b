/-
This file says when arithmetic on numbers of 64 bits is that of the integers. It is
wherever the exact answer is such a number itself.
-/

import Mathlib.Algebra.Group.Int.Defs

namespace Scriptling

/-- An integer that is a number of 64 bits. -/
def Fits (number : Int) : Prop :=
  Int64.minValue.toInt ≤ number ∧ number ≤ Int64.maxValue.toInt

instance (number : Int) : Decidable (Fits number) :=
  inferInstanceAs (Decidable (_ ∧ _))

theorem fits_iff {number : Int} : Fits number ↔ -2 ^ 63 ≤ number ∧ number < 2 ^ 63 := by
  have least : Int64.minValue.toInt = -2 ^ 63 := by decide
  have most : Int64.maxValue.toInt = 2 ^ 63 - 1 := by decide
  unfold Fits
  omega

theorem fits_toInt (number : Int64) : Fits number.toInt :=
  fits_iff.mpr ⟨number.le_toInt, number.toInt_lt⟩

theorem Fits.of_le {number bound : Nat} (fits : Fits bound) (le : number ≤ bound) : Fits number := by
  obtain ⟨-, below⟩ := fits_iff.mp fits
  exact fits_iff.mpr (by omega)

theorem toInt_ofNat_of_fits {number : Nat} (fits : Fits number) :
    (Int64.ofNat number).toInt = number := by
  obtain ⟨-, below⟩ := fits_iff.mp fits
  exact Int64.toInt_ofNat_of_lt (by omega)

theorem toInt_ofNat_nonneg {number : Nat} (fits : Fits number) : 0 ≤ (Int64.ofNat number).toInt := by
  rw [toInt_ofNat_of_fits fits]
  exact Int.natCast_nonneg number

/-- A sum that fits is exact. -/
theorem toInt_add_of_fits {left right : Int64} (fits : Fits (left.toInt + right.toInt)) :
    (left + right).toInt = left.toInt + right.toInt := by
  obtain ⟨above, below⟩ := fits_iff.mp fits
  rw [Int64.toInt_add]
  exact Int.bmod_eq_of_le above below

/-- A difference that fits is exact. -/
theorem toInt_sub_of_fits {left right : Int64} (fits : Fits (left.toInt - right.toInt)) :
    (left - right).toInt = left.toInt - right.toInt := by
  obtain ⟨above, below⟩ := fits_iff.mp fits
  rw [Int64.toInt_sub]
  exact Int.bmod_eq_of_le above below

theorem toInt_max (left right : Int64) : (max left right).toInt = max left.toInt right.toInt := by
  show (if left ≤ right then right else left).toInt = _
  split
  next less =>
    rw [Int64.le_iff_toInt_le] at less
    exact (Int.max_eq_right less).symm
  next more =>
    rw [Int64.le_iff_toInt_le] at more
    exact (Int.max_eq_left (Int.le_of_not_le more)).symm

end Scriptling
