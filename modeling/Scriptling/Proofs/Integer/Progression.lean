/-
This file says which terms of a progression are written. The loop adds one term
after another, and there are three ways for it to end: the next term does not lie
before the bound, the text has reached its limit, or the next term is no number of
64 bits. A term that is no such number has passed the bound as well, so the third
way is no other end than the first, and what has been written is always the first
so many terms.
-/

import Mathlib.Algebra.Group.Nat.Defs
import Mathlib.Order.Nat
import Scriptling.Integer.Progression
import Scriptling.Proofs.Bytes.Pieces
import Scriptling.Proofs.Integer.Conversion
import Scriptling.Proofs.Integer.Fitting

namespace Scriptling

namespace Decimal

/-- A number has no more digits than the power of ten that it is below. -/
theorem length_digits_le {number count : Nat} (small : number < 10 ^ (count + 1)) :
    (digits number).length ≤ count + 1 := by
  induction count generalizing number with
  | zero =>
    have one : number < 10 := small
    rw [digits_eq, if_pos one]
    exact Nat.le_refl 1
  | succ count hypothesis =>
    rw [digits_eq]
    split
    next => exact Nat.le_add_left 1 _
    next =>
      have tenth : number / 10 < 10 ^ (count + 1) :=
        Nat.div_lt_of_lt_mul (by rwa [Nat.pow_succ, Nat.mul_comm] at small)
      rw [List.length_append]
      exact Nat.succ_le_succ (hypothesis tenth)

/-- A number of 64 bits is written with 19 digits and a sign at most. -/
theorem length_writeInt_le {number : Int} (fits : Fits number) :
    (writeInt number).length ≤ 20 := by
  obtain ⟨above, below⟩ := fits_iff.mp fits
  have short : (digits number.natAbs).length ≤ 18 + 1 := length_digits_le (by omega)
  have signed : (sign number).length ≤ 1 := by
    unfold sign
    split <;> decide
  unfold writeInt
  rw [List.length_append]
  omega

/-- No comma is written of a number. -/
theorem comma_notMem_writeInt (number : Int) : (0x2c : UInt8) ∉ writeInt number := by
  intro member
  rcases List.mem_append.mp member with inSign | inDigits
  · unfold sign at inSign
    split at inSign
    next => exact absurd inSign (by decide)
    next => cases inSign
  · exact absurd (isDigit_of_mem_digits inDigits) (by decide)

end Decimal

namespace Progression

variable {start stop step : Int64}

/-- The term of an index, which is any integer. -/
def term (start step : Int64) (index : Nat) : Int :=
  start.toInt + index * step.toInt

/-- An integer lies strictly before the bound in the direction of the step. -/
def Before (stop step : Int64) (number : Int) : Prop :=
  0 < step.toInt ∧ number < stop.toInt ∨ step.toInt < 0 ∧ stop.toInt < number

/-- So many terms in decimal, joined by a comma and a space. -/
def joined (start step : Int64) (count : Nat) : Bytes :=
  (ascii ", ").intercalate
    ((List.range count).map fun index => Decimal.writeInt (term start step index))

/-! ### Terms -/

theorem term_succ (start step : Int64) (index : Nat) :
    term start step (index + 1) = term start step index + step.toInt := by
  unfold term
  rw [Int.natCast_add, Int.natCast_one, Int.add_mul, Int.one_mul, Int.add_assoc]

theorem continues_iff {number : Int64} :
    continues stop step number = true ↔ Before stop step number.toInt := by
  unfold continues Before
  simp only [Bool.or_eq_true, Bool.and_eq_true, decide_eq_true_eq, Int64.lt_iff_toInt_lt,
    Int64.toInt_zero]

/-- The next term is exact, or it is no number of 64 bits. -/
theorem next?_cases (step number : Int64) :
    (∃ next, next? step number = some next ∧ next.toInt = number.toInt + step.toInt) ∨
      next? step number = none ∧ ¬Fits (number.toInt + step.toInt) := by
  unfold next?
  dsimp only
  split
  next fits => exact .inl ⟨_, rfl, toInt_add_of_fits fits⟩
  next outside => exact .inr ⟨rfl, outside⟩

/-- All terms lie on one side of the start. -/
theorem fits_term {index : Nat} (before : Before stop step (term start step index)) :
    Fits (term start step index) := by
  have first := fits_toInt start
  have bound := fits_toInt stop
  unfold Fits at first bound ⊢
  rcases before with ⟨upward, less⟩ | ⟨downward, less⟩
  · have grown : 0 ≤ index * step.toInt :=
      Int.mul_nonneg (Int.natCast_nonneg index) (Int.le_of_lt upward)
    have above : start.toInt ≤ term start step index := Int.le_add_of_nonneg_right grown
    omega
  · have shrunk : index * step.toInt ≤ 0 :=
      Int.mul_nonpos_of_nonneg_of_nonpos (Int.natCast_nonneg index) (Int.le_of_lt downward)
    have below : term start step index ≤ start.toInt := by
      unfold term
      omega
    omega

/-- The terms come to the bound. -/
theorem exists_not_before (start stop step : Int64) :
    ∃ index, ¬Before stop step (term start step index) := by
  refine ⟨(stop.toInt - start.toInt).natAbs, ?_⟩
  unfold Before term
  rcases Int.lt_trichotomy step.toInt 0 with downward | none | upward
  · have reached : ((stop.toInt - start.toInt).natAbs : Int) * step.toInt ≤
        (stop.toInt - start.toInt).natAbs * -1 :=
      Int.mul_le_mul_of_nonneg_left (Int.le_sub_one_of_lt downward) (Int.natCast_nonneg _)
    omega
  · omega
  · have reached : ((stop.toInt - start.toInt).natAbs : Int) * 1 ≤
        (stop.toInt - start.toInt).natAbs * step.toInt :=
      Int.mul_le_mul_of_nonneg_left upward (Int.natCast_nonneg _)
    omega

/-! ### Texts -/

theorem joined_zero (start step : Int64) : joined start step 0 = [] :=
  List.intercalate_nil

theorem joined_succ (start step : Int64) (count : Nat) : joined start step (count + 1) =
    joined start step count ++ (if (joined start step count).isEmpty then [] else ascii ", ") ++
      Decimal.writeInt (term start step count) := by
  have whole (count : Nat) : joined start step (count + 1) =
      ((List.range count).map fun index => Decimal.writeInt (term start step index)).flatMap
        (· ++ ascii ", ") ++ Decimal.writeInt (term start step count) := by
    unfold joined
    rw [List.range_succ, List.map_append, List.map_singleton, intercalate_concat]
  cases count with
  | zero => exact whole 0
  | succ count =>
    have some : (joined start step (count + 1)).isEmpty = false := by
      rw [whole, List.isEmpty_eq_false_iff]
      exact List.append_ne_nil_of_right_ne_nil _ (Decimal.writeInt_ne_nil _)
    rw [some, whole (count + 1), whole count, List.range_succ, List.map_append,
      List.map_singleton, List.flatMap_append, List.flatMap_singleton]
    simp only [Bool.false_eq_true, if_false, List.append_assoc]

/-- A term is added behind those before it. -/
theorem addTerm_joined {count : Nat} {number : Int64} (same : number.toInt = term start step count) :
    addTerm (joined start step count) number = joined start step (count + 1) := by
  rw [joined_succ, ← same]
  rfl

theorem length_joined_lt (start step : Int64) (count : Nat) :
    (joined start step count).length < (joined start step (count + 1)).length := by
  have positive := List.length_pos_iff.mpr (Decimal.writeInt_ne_nil (term start step count))
  rw [joined_succ, List.length_append, List.length_append]
  omega

/-- The text of so many terms is no shorter than they are many. -/
theorem le_length_joined (start step : Int64) (count : Nat) :
    count ≤ (joined start step count).length := by
  induction count with
  | zero => exact Nat.zero_le _
  | succ count hypothesis =>
    exact Nat.succ_le_of_lt (Nat.lt_of_le_of_lt hypothesis (length_joined_lt start step count))

/-- One more term makes the text longer by 22 bytes at most. -/
theorem length_joined_succ_le {count : Nat} (fits : Fits (term start step count)) :
    (joined start step (count + 1)).length ≤ (joined start step count).length + 22 := by
  have short := Decimal.length_writeInt_le fits
  have between : (if (joined start step count).isEmpty then [] else ascii ", ").length ≤ 2 := by
    split
    next => exact Nat.zero_le 2
    next => exact Nat.le_of_eq rfl
  rw [joined_succ, List.length_append, List.length_append]
  omega

/-! ### The loop -/

/-- How many terms lie before the bound, and how many it takes to fill the text. -/
structure StopsAt (start stop step : Int64) (bound full : Nat) : Prop where
  bound : IsLeast {index | ¬Before stop step (term start step index)} bound
  full : IsLeast {count | textLimit ≤ (joined start step count).length} full

theorem exists_stopsAt (start stop step : Int64) :
    ∃ bound full, StopsAt start stop step bound full := by
  classical
  have filled : ∃ count, textLimit ≤ (joined start step count).length :=
    ⟨textLimit, le_length_joined start step textLimit⟩
  exact ⟨_, _, Nat.isLeast_find (exists_not_before start stop step), Nat.isLeast_find filled⟩

namespace StopsAt

variable {bound full count : Nat} (stops : StopsAt start stop step bound full)
include stops

theorem before_of_lt (less : count < bound) : Before stop step (term start step count) :=
  Classical.byContradiction fun passed => Nat.not_le.mpr less (stops.bound.2 passed)

theorem length_lt_of_lt (less : count < full) : (joined start step count).length < textLimit :=
  Nat.lt_of_not_le fun filled => Nat.not_le.mpr less (stops.full.2 filled)

/-- The text of all terms that are written is filled by the last of them at most. -/
theorem length_joined_le : (joined start step (min bound full)).length ≤ 513 := by
  cases last : min bound full with
  | zero =>
    rw [joined_zero]
    exact Nat.zero_le _
  | succ count =>
    have before : Before stop step (term start step count) := stops.before_of_lt (by omega)
    have longer := length_joined_succ_le (fits_term before)
    have short : (joined start step count).length < textLimit := stops.length_lt_of_lt (by omega)
    have limit : textLimit = 492 := rfl
    omega

/-- After the first terms the loop goes on up to the bound or the limit, whichever comes first. -/
theorem writeAfter_joined {number : Int64} (same : number.toInt = term start step count)
    (inside : count ≤ bound) (unfilled : count < full) :
    writeAfter stop step (joined start step count) number = joined start step (min bound full) := by
  -- The terms that are still to come before the bound become fewer.
  induction left : bound - count generalizing count number with
  | zero =>
    obtain rfl : count = bound := by omega
    have passed : ¬continues stop step number = true := by
      rw [continues_iff, same]
      exact stops.bound.1
    rw [writeAfter, if_neg passed, Nat.min_eq_left (Nat.le_of_lt unfilled)]
  | succ more hypothesis =>
    have before : Before stop step (term start step count) := stops.before_of_lt (by omega)
    rw [writeAfter, if_pos (continues_iff.mpr (same ▸ before)), addTerm_joined same]
    split
    next filled =>
      have last : min bound full = count + 1 := by
        have least := stops.full.2 filled
        omega
      rw [last]
    next unfilledText =>
      have unfilledYet : count + 1 < full := by
        rcases Nat.lt_or_eq_of_le (Nat.succ_le_of_lt unfilled) with less | rfl
        · exact less
        · exact absurd stops.full.1 unfilledText
      rcases next?_cases step number with ⟨next, found, sum⟩ | ⟨none, outside⟩
      · rw [found]
        refine hypothesis ?_ (by omega) unfilledYet (by omega)
        rw [term_succ, sum, same]
      · rw [none]
        have passed : ¬Before stop step (term start step (count + 1)) := by
          intro before
          have fits := fits_term before
          rw [term_succ, ← same] at fits
          exact outside fits
        have last : min bound full = count + 1 := by
          have least := stops.bound.2 passed
          omega
        rw [last]

/-- What is written of a progression is its first terms, up to the bound or the limit. -/
theorem write_eq : write start stop step = joined start step (min bound full) := by
  have unfilled : 0 < full := by
    refine Nat.pos_of_ne_zero fun none => ?_
    have filled : textLimit ≤ (joined start step full).length := stops.full.1
    rw [none, joined_zero] at filled
    exact absurd filled (by decide)
  have first : start.toInt = term start step 0 := by
    unfold term
    omega
  rw [write, ← joined_zero start step]
  exact stops.writeAfter_joined first (Nat.zero_le _) unfilled

end StopsAt

end Progression

end Scriptling
