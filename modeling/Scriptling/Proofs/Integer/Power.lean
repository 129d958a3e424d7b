/-
This file proves that repeated squaring gives the power. Every round halves the
exponent and squares the base, and what is done times what is left to raise stays
the same integer modulo 2^64. So the squares may wrap as they like, the last of
them is not even used, and the answer is what the exact power wraps to.
-/

import Scriptling.Proofs.Integer.Fitting
import Scriptling.Proofs.Integer.Modular

namespace Scriptling.Power

/-- A power is one of the square with half the exponent, and once more the base if the exponent is
odd. -/
theorem pow_eq_square_pow (base : Int) (exponent : Nat) :
    base ^ exponent = (base * base) ^ (exponent / 2) * base ^ (exponent % 2) := by
  rw [← pow_two, ← pow_mul, ← pow_add, Nat.div_add_mod]

/-- What is done times the power that is left is what the loop ends with. -/
theorem wrapsTo_powerTimes {base done : Int64} {exactBase exactDone : Int} (exponent : Nat)
    (baseWraps : WrapsTo exactBase base) (doneWraps : WrapsTo exactDone done) :
    WrapsTo (exactDone * exactBase ^ exponent) (powerTimes base exponent done) := by
  -- The next round is about another base, so the exact integers are part of the induction as well.
  induction exponent using Nat.strongRecOn generalizing base done exactBase exactDone with
  | ind exponent hypothesis =>
    rw [powerTimes]
    split
    next none =>
      rw [none, pow_zero, mul_one]
      exact doneWraps
    next some =>
      have half : exponent / 2 < exponent := Nat.div_lt_self (Nat.pos_of_ne_zero some) Nat.one_lt_two
      have square := baseWraps.mul baseWraps
      rw [pow_eq_square_pow]
      split
      next odd =>
        rw [odd, pow_one, mul_comm (_ ^ _), ← mul_assoc]
        exact hypothesis _ half square (doneWraps.mul baseWraps)
      next even =>
        rw [Nat.mod_two_ne_one.mp even, pow_zero, mul_one]
        exact hypothesis _ half square doneWraps

variable {base exponent : Int64}

/-- The exact power wraps to the answer. -/
theorem wrapsTo_power (natural : 0 ≤ exponent) :
    WrapsTo (base.toInt ^ exponent.toInt.toNat) (power base exponent) := by
  rw [power, if_neg (Int64.not_lt.mpr natural), ← one_mul (base.toInt ^ _)]
  exact wrapsTo_powerTimes _ (wrapsTo_toInt base) (wrapsTo_toInt 1)

theorem power_of_neg (negative : exponent < 0) : power base exponent = 0 :=
  if_pos negative

/-- Exponents add up as long as their sum fits. -/
theorem power_add {more : Int64} (natural : 0 ≤ exponent) (moreNatural : 0 ≤ more)
    (fits : Fits (exponent.toInt + more.toInt)) :
    power base (exponent + more) = power base exponent * power base more := by
  have sum := toInt_add_of_fits fits
  have product := (@wrapsTo_power base _ natural).mul (@wrapsTo_power base _ moreNatural)
  rw [Int64.le_iff_toInt_le, Int64.toInt_zero] at natural moreNatural
  have sumNatural : 0 ≤ exponent + more := by
    rw [Int64.le_iff_toInt_le, Int64.toInt_zero, sum]
    exact Int.add_nonneg natural moreNatural
  have whole := @wrapsTo_power base _ sumNatural
  rw [sum, Int.toNat_add natural moreNatural, pow_add] at whole
  exact whole.unique product

end Scriptling.Power
