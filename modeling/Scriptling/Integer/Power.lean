/-
This file raises an integer to a power by repeated squaring. All arithmetic is
modulo 2^64, so the answer is the exact power reduced to a signed number of 64
bits; a negative exponent gives zero.
-/

namespace Scriptling.Power

/-- `done` times `base` to the `exponent`, modulo 2^64. -/
def powerTimes (base : Int64) (exponent : Nat) (done : Int64) : Int64 :=
  if exponent = 0 then done
  else powerTimes (base * base) (exponent / 2) (if exponent % 2 = 1 then done * base else done)
termination_by exponent

/-- Integer power. -/
def power (base exponent : Int64) : Int64 :=
  if exponent < 0 then 0 else powerTimes base exponent.toInt.toNat 1

end Scriptling.Power
