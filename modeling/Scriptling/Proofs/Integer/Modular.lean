/-
This file says which number of 64 bits an integer wraps to: the one that is the
same modulo 2^64. Every integer wraps to one number only, and sums, differences,
products and negatives wrap to those of the numbers. So it does not matter where
a computation with them leaves the numbers of 64 bits, or how often. Division is
that of the integers toward zero, and the one quotient that does not fit wraps
too.
-/

import Mathlib.Data.Int.ModEq
import Scriptling.Operators

namespace Scriptling

/-- An integer wraps to the number of 64 bits that is the same modulo 2^64. -/
def WrapsTo (integer : Int) (number : Int64) : Prop :=
  number.toInt ≡ integer [ZMOD 2 ^ 64]

theorem wrapsTo_toInt (number : Int64) : WrapsTo number.toInt number :=
  Int.ModEq.refl number.toInt

theorem wrapsTo_of_bmod {integer : Int} {number : Int64}
    (same : number.toInt = integer.bmod (2 ^ 64)) : WrapsTo integer number := by
  unfold WrapsTo Int.ModEq
  rw [same]
  exact Int.bmod_emod

/-- An integer wraps to one number only. -/
theorem WrapsTo.unique {integer : Int} {number other : Int64} (wraps : WrapsTo integer number)
    (otherWraps : WrapsTo integer other) : number = other := by
  have least := number.le_toInt
  have most := number.toInt_lt
  have otherLeast := other.le_toInt
  have otherMost := other.toInt_lt
  have same : number.toInt % 2 ^ 64 = other.toInt % 2 ^ 64 := wraps.trans otherWraps.symm
  refine Int64.toInt_inj.mp ?_
  omega

/-! ### Sums and products -/

section

variable {integer other : Int} {number second : Int64}

theorem WrapsTo.add (wraps : WrapsTo integer number) (otherWraps : WrapsTo other second) :
    WrapsTo (integer + other) (number + second) :=
  (wrapsTo_of_bmod (Int64.toInt_add number second)).trans (Int.ModEq.add wraps otherWraps)

theorem WrapsTo.sub (wraps : WrapsTo integer number) (otherWraps : WrapsTo other second) :
    WrapsTo (integer - other) (number - second) :=
  (wrapsTo_of_bmod (Int64.toInt_sub number second)).trans (Int.ModEq.sub wraps otherWraps)

theorem WrapsTo.mul (wraps : WrapsTo integer number) (otherWraps : WrapsTo other second) :
    WrapsTo (integer * other) (number * second) :=
  (wrapsTo_of_bmod (Int64.toInt_mul number second)).trans (Int.ModEq.mul wraps otherWraps)

theorem WrapsTo.neg (wraps : WrapsTo integer number) : WrapsTo (-integer) (-number) :=
  (wrapsTo_of_bmod (Int64.toInt_neg number)).trans (Int.ModEq.neg wraps)

theorem WrapsTo.complement (wraps : WrapsTo integer number) :
    WrapsTo (-integer - 1) (~~~number) :=
  (wrapsTo_of_bmod (Int64.toInt_not number)).trans
    (Int.ModEq.sub (Int.ModEq.neg wraps) (Int.ModEq.refl 1))

end

/-! ### Division -/

/-- A quotient and a remainder of a division toward zero, where the quotient may have wrapped. -/
structure Divides (dividend divisor quotient remainder : Int64) : Prop where
  truncated : WrapsTo (dividend.toInt.tdiv divisor.toInt) quotient
  whole : WrapsTo (quotient.toInt * divisor.toInt + remainder.toInt) dividend
  smaller : remainder.toInt.natAbs < divisor.toInt.natAbs
  signed : remainder = 0 ∨ remainder.toInt.sign = dividend.toInt.sign

variable {dividend divisor : Int64}

theorem toInt_ne_zero (some : divisor ≠ 0) : divisor.toInt ≠ 0 := fun none =>
  some (Int64.toInt_inj.mp (none.trans Int64.toInt_zero.symm))

/-- Only the quotient can wrap, and then what it is a factor of wraps with it. -/
theorem wrapsTo_of_remainder (dividend divisor : Int64) :
    WrapsTo ((dividend / divisor).toInt * divisor.toInt + (dividend % divisor).toInt) dividend := by
  have exact : dividend.toInt.tdiv divisor.toInt * divisor.toInt + (dividend % divisor).toInt =
      dividend.toInt := by
    rw [Int64.toInt_mod, Int.mul_comm]
    exact Int.mul_tdiv_add_tmod dividend.toInt divisor.toInt
  have quotient : (dividend / divisor).toInt ≡ dividend.toInt.tdiv divisor.toInt [ZMOD 2 ^ 64] :=
    wrapsTo_of_bmod (Int64.toInt_div dividend divisor)
  have wrapped := (quotient.mul_right divisor.toInt).add_right (dividend % divisor).toInt
  rw [exact] at wrapped
  exact wrapped.symm

theorem natAbs_remainder_lt (some : divisor ≠ 0) :
    (dividend % divisor).toInt.natAbs < divisor.toInt.natAbs := by
  rw [Int64.toInt_mod, Int.natAbs_tmod]
  exact Nat.mod_lt _ (Int.natAbs_pos.mpr (toInt_ne_zero some))

theorem sign_remainder (dividend divisor : Int64) :
    dividend % divisor = 0 ∨ (dividend % divisor).toInt.sign = dividend.toInt.sign := by
  have sign := Int.sign_tmod dividend.toInt divisor.toInt
  rw [← Int64.toInt_mod] at sign
  split at sign
  next => exact .inl (Int64.toInt_inj.mp (Int.sign_eq_zero_iff_zero.mp sign))
  next => exact .inr sign

/-- The operators divide, also the least number by minus one. -/
theorem divides_onIntegers (some : divisor ≠ 0) :
    Divides dividend divisor (BinaryOperator.floorDivide.onIntegers dividend divisor)
      (BinaryOperator.remainder.onIntegers dividend divisor) := by
  have quotient : BinaryOperator.floorDivide.onIntegers dividend divisor = dividend / divisor :=
    if_neg some
  have remainder : BinaryOperator.remainder.onIntegers dividend divisor = dividend % divisor :=
    if_neg some
  rw [quotient, remainder]
  exact ⟨wrapsTo_of_bmod (Int64.toInt_div dividend divisor), wrapsTo_of_remainder dividend divisor,
    natAbs_remainder_lt some, sign_remainder dividend divisor⟩

end Scriptling
