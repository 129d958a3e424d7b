/-
This file reads back the digits that are written of a natural number. The digits
of a number are those of its tenth part and one more, and reading them takes the
same step. A total that is held at a limit in each step is the exact value held
there once, since what is over the limit stays over it.
-/

import Scriptling.Integer.Decimal

namespace Scriptling.Decimal

/-- The byte of one digit. -/
def digit (number : Nat) : UInt8 :=
  (0x30 + number).toUInt8

theorem toNat_digit {number : Nat} (small : number < 10) :
    (digit number).toNat = 0x30 + number := by
  show (0x30 + number) % 256 = _
  omega

theorem isDigit_digit {number : Nat} (small : number < 10) :
    Byte.isDigit (digit number) = true := by
  unfold Byte.isDigit
  rw [Bool.and_eq_true, decide_eq_true_eq, decide_eq_true_eq, UInt8.le_iff_toNat_le,
    UInt8.le_iff_toNat_le, toNat_digit small]
  refine ⟨Nat.le_add_right 0x30 number, ?_⟩
  show 0x30 + number ≤ 0x39
  omega

/-- A number below ten is a digit, and any other is its tenth part and a digit. -/
theorem digits_eq (number : Nat) :
    digits number = if number < 10 then [digit number]
      else digits (number / 10) ++ [digit (number % 10)] := by
  unfold digits
  rw [Nat.toDigits_eq_if (by decide)]
  split
  next small =>
    rw [List.map_singleton, Nat.toNat_digitChar_of_lt_ten small]
    rfl
  next =>
    rw [List.map_append, List.map_singleton,
      Nat.toNat_digitChar_of_lt_ten (Nat.mod_lt number (by decide))]
    rfl

theorem value_append_digit {run : Bytes} {last : UInt8} :
    value (run ++ [last]) = value run * 10 + (last.toNat - 0x30) := by
  unfold value
  rw [List.foldl_append]
  rfl

/-- What is written of a number consists of digits. -/
theorem isDigit_of_mem_digits {number : Nat} {byte : UInt8} (member : byte ∈ digits number) :
    Byte.isDigit byte = true := by
  induction number using Nat.strongRecOn with
  | ind number hypothesis =>
    rw [digits_eq] at member
    split at member
    next small =>
      rw [List.mem_singleton.mp member]
      exact isDigit_digit small
    next large =>
      rcases List.mem_append.mp member with front | last
      · exact hypothesis (number / 10) (by omega) front
      · rw [List.mem_singleton.mp last]
        exact isDigit_digit (Nat.mod_lt number (by decide))

/-- The digits of a number have its value. -/
theorem value_digits (number : Nat) : value (digits number) = number := by
  induction number using Nat.strongRecOn with
  | ind number hypothesis =>
    rw [digits_eq]
    split
    next small =>
      show 0 * 10 + ((digit number).toNat - 0x30) = number
      rw [toNat_digit small]
      omega
    next large =>
      rw [value_append_digit, hypothesis (number / 10) (by omega),
        toNat_digit (Nat.mod_lt number (by decide))]
      omega

/-! ### Totals held at a limit -/

/-- Holding the total at a limit after each digit is holding the last one there. -/
theorem foldl_min (limit : Nat) (run : Bytes) (total : Nat) :
    run.foldl (fun total digit => min (total * 10 + (digit.toNat - 0x30)) limit)
        (min total limit) =
      min (run.foldl (fun total digit => total * 10 + (digit.toNat - 0x30)) total) limit := by
  induction run generalizing total with
  | nil => rfl
  | cons digit rest hypothesis =>
    have step : min (min total limit * 10 + (digit.toNat - 0x30)) limit =
        min (total * 10 + (digit.toNat - 0x30)) limit := by
      omega
    rw [List.foldl_cons, List.foldl_cons, step, hypothesis]

theorem toNat_saturate (number : Nat) :
    (saturate number).toNat = min number (UInt64.size - 1) :=
  UInt64.toNat_ofNat_of_lt' (Nat.lt_of_le_of_lt (Nat.min_le_right _ _) (by decide))

/-- The bits of a literal are its exact value, or all set if that does not fit. -/
theorem toNat_literal (run : Bytes) :
    (literal run).toUInt64.toNat = min (value run) (UInt64.size - 1) := by
  have held (total : UInt64) (run : Bytes) : (run.foldl (fun total digit =>
      saturate ((saturate (total.toNat * 10)).toNat + (digit.toNat - 0x30))) total).toNat =
        run.foldl (fun total digit => min (total * 10 + (digit.toNat - 0x30)) (UInt64.size - 1))
          total.toNat := by
    induction run generalizing total with
    | nil => rfl
    | cons digit rest hypothesis =>
      rw [List.foldl_cons, List.foldl_cons, hypothesis, toNat_saturate, toNat_saturate]
      congr 1
      omega
  exact (held 0 run).trans (foldl_min (UInt64.size - 1) run 0)

/-- The magnitude of a text is the exact value of its digits, or one above the largest signed
number if that is less. -/
theorem magnitude_eq (run : Bytes) :
    magnitude run = min (value run : Int) (Int64.maxValue.toInt + 1) := by
  have held (total : Nat) (run : Bytes) : run.foldl (fun (total : Int) digit =>
      min (total * 10 + (digit.toNat - 0x30 : Nat)) (Int64.maxValue.toInt + 1)) total =
        (run.foldl (fun total digit => min (total * 10 + (digit.toNat - 0x30)) (2 ^ 63))
          total : Nat) := by
    induction run generalizing total with
    | nil => rfl
    | cons digit rest hypothesis =>
      rw [List.foldl_cons, List.foldl_cons, ← hypothesis]
      congr 1
      have limit : Int64.maxValue.toInt + 1 = 2 ^ 63 := by decide
      omega
  have whole := foldl_min (2 ^ 63) run 0
  rw [Nat.zero_min] at whole
  refine (held 0 run).trans ?_
  rw [whole]
  have limit : Int64.maxValue.toInt + 1 = 2 ^ 63 := by decide
  unfold value
  omega

theorem literal_eq (run : Bytes) :
    literal run = Int64.ofNat (min (value run) (UInt64.size - 1)) := by
  rw [← toNat_literal]
  show _ = (UInt64.ofNat (literal run).toUInt64.toNat).toInt64
  rw [UInt64.ofNat_toNat, Int64.toInt64_toUInt64]

/-- A literal that is written of a number of 64 bits has those bits. -/
theorem literal_digits_of_lt {number : Nat} (fits : number < UInt64.size) :
    literal (digits number) = Int64.ofNat number := by
  rw [literal_eq, value_digits, Nat.min_eq_left (Nat.le_sub_one_of_lt fits)]

theorem literal_digits (number : Int64) : literal (digits number.toUInt64.toNat) = number := by
  rw [literal_digits_of_lt number.toUInt64.toNat_lt_size]
  show (UInt64.ofNat number.toUInt64.toNat).toInt64 = number
  rw [UInt64.ofNat_toNat, Int64.toInt64_toUInt64]

end Scriptling.Decimal
