/-
This file proves that expressions compute modulo 2^64. An expression of sums,
products, negatives and complements amounts to an exact integer, and what it is
evaluated to is what this integer wraps to. Division is that of the integers
toward zero, and powers are exact powers that wrap, whether they are written with
the operator or with the builtin.
-/

import Scriptling.Proofs.Integer.Power
import Scriptling.Proofs.Steps
import Scriptling.Proofs.Tree.Height
import Scriptling.Session.Operations

namespace Scriptling

/-- On numbers all operators compute. -/
theorem BinaryOperator.apply_int (operator : BinaryOperator) (heap : Heap) (left right : Int64) :
    operator.apply heap (.int left) (.int right) = .int (operator.onIntegers left right) := by
  cases operator <;> rfl

/-- A call of a builtin evaluates its arguments and hands them over. -/
theorem Run.evaluate_builtin {name : Name} {builtin : Builtin}
    (found : Builtin.ofName? name = some builtin) (limits : Limits) (fuel : Nat) (place : Span)
    (arguments : List Expr) (session : Session) :
    Run.evaluate limits (fuel + 1) (.call place name arguments) session =
      (do Run.onWorld (builtin.call (← arguments.mapM (Run.evaluate limits fuel)))) session := by
  unfold Run.evaluate
  simp only [Machine.evaluate, found]
  rfl

namespace Expr

/-- An expression of sums, differences, products, negatives and complements of numbers amounts to an
integer, which may be of any size. -/
inductive AmountsTo : Expr → Int → Prop
  | number (place : Span) (value : Int64) : AmountsTo (.number place value) value.toInt
  | paren (place : Span) {inner : Expr} {integer : Int} :
    AmountsTo inner integer → AmountsTo (.paren place inner) integer
  | negate (place : Span) {operand : Expr} {integer : Int} :
    AmountsTo operand integer → AmountsTo (.unary place .negate operand) (-integer)
  | complement (place : Span) {operand : Expr} {integer : Int} :
    AmountsTo operand integer → AmountsTo (.unary place .complement operand) (-integer - 1)
  | add (place : Span) {left right : Expr} {first second : Int} :
    AmountsTo left first → AmountsTo right second →
      AmountsTo (.binary place .add left right) (first + second)
  | subtract (place : Span) {left right : Expr} {first second : Int} :
    AmountsTo left first → AmountsTo right second →
      AmountsTo (.binary place .subtract left right) (first - second)
  | multiply (place : Span) {left right : Expr} {first second : Int} :
    AmountsTo left first → AmountsTo right second →
      AmountsTo (.binary place .multiply left right) (first * second)

/-- In every session an expression is evaluated to a number, given fuel for its nodes, and nothing
else happens. -/
def EvaluatesTo (expr : Expr) (number : Int64) : Prop :=
  ∀ (limits : Limits) (fuel : Nat) (session : Session), expr.height ≤ fuel →
    Run.evaluate limits fuel expr session = .ok (.int number) session

/-! ### Evaluation -/

/-- The first node takes some of the fuel. -/
theorem evaluatesTo_of_step {expr : Expr} {number : Int64}
    (step : ∀ (limits : Limits) (fuel : Nat) (session : Session), expr.height ≤ fuel + 1 →
      Run.evaluate limits (fuel + 1) expr session = .ok (.int number) session) :
    expr.EvaluatesTo number := by
  intro limits fuel session enough
  obtain ⟨less, rfl⟩ := Nat.exists_eq_succ_of_ne_zero
    (Nat.ne_of_gt (Nat.lt_of_lt_of_le expr.height_pos enough))
  exact step limits less session enough

theorem evaluatesTo_number (place : Span) (value : Int64) :
    (Expr.number place value).EvaluatesTo value :=
  evaluatesTo_of_step fun _ _ _ _ => rfl

section

variable {left right operand : Expr} {first second number : Int64}

theorem EvaluatesTo.paren (evaluates : operand.EvaluatesTo number) (place : Span) :
    (Expr.paren place operand).EvaluatesTo number :=
  evaluatesTo_of_step fun limits _ session enough =>
    evaluates limits _ session (Nat.le_of_succ_le_succ enough)

theorem EvaluatesTo.unary (evaluates : operand.EvaluatesTo number) (place : Span)
    {operator : UnaryOperator} {result : Int64}
    (applies : operator.apply (.int number) = .int result) :
    (Expr.unary place operator operand).EvaluatesTo result := by
  refine evaluatesTo_of_step fun limits fuel session enough => ?_
  have value := evaluates limits fuel session (Nat.le_of_succ_le_succ enough)
  rw [← applies]
  exact bind_of_ok value

theorem EvaluatesTo.binary (leftEvaluates : left.EvaluatesTo first)
    (rightEvaluates : right.EvaluatesTo second) (place : Span) (operator : BinaryOperator) :
    (Expr.binary place operator left right).EvaluatesTo (operator.onIntegers first second) := by
  refine evaluatesTo_of_step fun limits fuel session enough => ?_
  have room := Nat.max_le.mp (Nat.le_of_succ_le_succ enough)
  have leftValue := leftEvaluates limits fuel session room.1
  have rightValue := rightEvaluates limits fuel session room.2
  rw [← operator.apply_int session.world.heap]
  exact (bind_of_ok leftValue).trans (bind_of_ok rightValue)

theorem EvaluatesTo.pow (leftEvaluates : left.EvaluatesTo first)
    (rightEvaluates : right.EvaluatesTo second) (place : Span) :
    (Expr.call place (ascii "pow") [left, right]).EvaluatesTo (Power.power first second) := by
  refine evaluatesTo_of_step fun limits fuel session enough => ?_
  have room := Nat.max_le.mp (Nat.le_of_succ_le_succ enough)
  have leftValue := leftEvaluates limits fuel session room.1
  have rightValue := rightEvaluates limits fuel session (Nat.max_le.mp room.2).1
  have values : [left, right].mapM (Run.evaluate limits fuel) session =
      .ok [.int first, .int second] session := by
    rw [List.mapM_cons, List.mapM_cons, List.mapM_nil]
    exact (bind_of_ok leftValue).trans (bind_of_ok (bind_of_ok rightValue))
  have found : Builtin.ofName? (ascii "pow") = some .pow := by decide
  rw [Run.evaluate_builtin found]
  exact bind_of_ok values

end

/-! ### Exact values -/

/-- An expression is evaluated to what its exact value wraps to. -/
theorem AmountsTo.exists_evaluatesTo {expr : Expr} {integer : Int}
    (amounts : expr.AmountsTo integer) :
    ∃ number, expr.EvaluatesTo number ∧ WrapsTo integer number := by
  induction amounts with
  | number place value => exact ⟨value, evaluatesTo_number place value, wrapsTo_toInt value⟩
  | paren place _ hypothesis =>
    obtain ⟨number, evaluates, wraps⟩ := hypothesis
    exact ⟨number, evaluates.paren place, wraps⟩
  | negate place _ hypothesis =>
    obtain ⟨number, evaluates, wraps⟩ := hypothesis
    exact ⟨-number, evaluates.unary place rfl, wraps.neg⟩
  | complement place _ hypothesis =>
    obtain ⟨number, evaluates, wraps⟩ := hypothesis
    exact ⟨~~~number, evaluates.unary place rfl, wraps.complement⟩
  | add place _ _ leftHypothesis rightHypothesis =>
    obtain ⟨first, leftEvaluates, leftWraps⟩ := leftHypothesis
    obtain ⟨second, rightEvaluates, rightWraps⟩ := rightHypothesis
    exact ⟨first + second, leftEvaluates.binary rightEvaluates place .add,
      leftWraps.add rightWraps⟩
  | subtract place _ _ leftHypothesis rightHypothesis =>
    obtain ⟨first, leftEvaluates, leftWraps⟩ := leftHypothesis
    obtain ⟨second, rightEvaluates, rightWraps⟩ := rightHypothesis
    exact ⟨first - second, leftEvaluates.binary rightEvaluates place .subtract,
      leftWraps.sub rightWraps⟩
  | multiply place _ _ leftHypothesis rightHypothesis =>
    obtain ⟨first, leftEvaluates, leftWraps⟩ := leftHypothesis
    obtain ⟨second, rightEvaluates, rightWraps⟩ := rightHypothesis
    exact ⟨first * second, leftEvaluates.binary rightEvaluates place .multiply,
      leftWraps.mul rightWraps⟩

end Expr

/-- Integer expressions compute modulo 2^64. An expression of sums, differences, products, negatives
and complements is evaluated to what its exact value wraps to, wherever that overflows on the way,
and leaves the session as it is. A quotient and a remainder of two expressions belong together: the
divisor times the quotient and the remainder make up the dividend again, the remainder is smaller
than the divisor, and if it is not zero it has the sign of the dividend. With a divisor of zero both
are zero. -/
theorem arithmetic_is_modular :
    (∀ (expr : Expr) (integer : Int), expr.AmountsTo integer →
      ∃ number, expr.EvaluatesTo number ∧ WrapsTo integer number) ∧
    ∀ (left right : Expr) (dividend divisor : Int64),
      left.EvaluatesTo dividend → right.EvaluatesTo divisor →
        ∃ quotient remainder : Int64,
          (∀ place, (Expr.binary place .floorDivide left right).EvaluatesTo quotient) ∧
          (∀ place, (Expr.binary place .remainder left right).EvaluatesTo remainder) ∧
          (divisor ≠ 0 → Divides dividend divisor quotient remainder) ∧
          (divisor = 0 → quotient = 0 ∧ remainder = 0) := by
  refine ⟨fun expr integer amounts => amounts.exists_evaluatesTo,
    fun left right dividend divisor leftEvaluates rightEvaluates =>
      ⟨_, _, fun place => leftEvaluates.binary rightEvaluates place .floorDivide,
        fun place => leftEvaluates.binary rightEvaluates place .remainder,
        divides_onIntegers, ?_⟩⟩
  rintro rfl
  exact ⟨rfl, rfl⟩

/-- A product may overflow twice, and so does the quotient of the least number and minus one. -/
theorem overflowing_product_and_quotient_are_modular :
    let place : Span := ⟨0, 0, 0, 0⟩
    let most := Expr.number place Int64.maxValue
    let least := Expr.number place Int64.minValue
    let minusOne := Expr.unary place .negate (.number place 1)
    (Expr.binary place .multiply (.paren place (.binary place .add most most))
      (.unary place .complement least)).EvaluatesTo 2 ∧
    (Expr.binary place .floorDivide least minusOne).EvaluatesTo Int64.minValue ∧
    (Expr.binary place .remainder least minusOne).EvaluatesTo 0 := by
  intro place most least minusOne
  obtain ⟨computes, divides⟩ := arithmetic_is_modular
  obtain ⟨product, evaluates, wraps⟩ := computes _ _ (.multiply place
    (.paren place (.add place (.number place Int64.maxValue) (.number place Int64.maxValue)))
    (.complement place (.number place Int64.minValue)))
  obtain ⟨quotient, remainder, divided, left, whole, -⟩ := divides least minusOne Int64.minValue (-1)
    (Expr.evaluatesTo_number place _) ((Expr.evaluatesTo_number place 1).unary place rfl)
  have parts := whole (by decide)
  have productIs : product = 2 := wraps.unique (by unfold WrapsTo; decide +kernel)
  have quotientIs : quotient = Int64.minValue :=
    parts.truncated.unique (by unfold WrapsTo; decide +kernel)
  have remainderIs : remainder = 0 :=
    Int64.toInt_inj.mp (Int.natAbs_eq_zero.mp (Nat.lt_one_iff.mp parts.smaller))
  rw [productIs] at evaluates
  rw [quotientIs] at divided
  rw [remainderIs] at left
  exact ⟨evaluates, divided place, left place⟩

/-- Powers are exact powers that wrap. Repeated squaring comes to an end for every exponent: for a
natural one with what the exact power wraps to, and for a negative one with zero. So exponents whose
sum fits add up to products. The operator and the builtin raise numbers to the same power. -/
theorem powers_are_modular :
    (∀ base exponent : Int64,
      (0 ≤ exponent → WrapsTo (base.toInt ^ exponent.toInt.toNat) (Power.power base exponent)) ∧
      (exponent < 0 → Power.power base exponent = 0)) ∧
    (∀ base exponent more : Int64, 0 ≤ exponent → 0 ≤ more →
      Fits (exponent.toInt + more.toInt) →
        Power.power base (exponent + more) =
          Power.power base exponent * Power.power base more) ∧
    ∀ (left right : Expr) (base exponent : Int64),
      left.EvaluatesTo base → right.EvaluatesTo exponent → ∀ place,
        (Expr.binary place .power left right).EvaluatesTo (Power.power base exponent) ∧
        (Expr.call place (ascii "pow") [left, right]).EvaluatesTo (Power.power base exponent) :=
  ⟨fun _ _ => ⟨Power.wrapsTo_power, Power.power_of_neg⟩, fun _ _ _ => Power.power_add,
    fun _ _ _ _ leftEvaluates rightEvaluates place =>
      ⟨leftEvaluates.binary rightEvaluates place .power, leftEvaluates.pow rightEvaluates place⟩⟩

/-- A power may wrap to zero, and the greatest exponent is the sum of two others. -/
theorem great_powers_are_modular :
    let place : Span := ⟨0, 0, 0, 0⟩
    let half : Int64 := 4611686018427387904
    Power.power 3 (half + (half - 1)) = Power.power 3 half * Power.power 3 (half - 1) ∧
    Power.power 3 (-1) = 0 ∧
    (Expr.binary place .power (.number place 2) (.number place 64)).EvaluatesTo 0 ∧
    (Expr.call place (ascii "pow") [.number place 2, .number place 64]).EvaluatesTo 0 := by
  intro place half
  obtain ⟨powers, sums, evaluated⟩ := powers_are_modular
  have zero : Power.power 2 64 = 0 :=
    ((powers 2 64).1 (by decide)).unique (by unfold WrapsTo; decide +kernel)
  have raised := evaluated _ _ 2 64 (Expr.evaluatesTo_number place 2)
    (Expr.evaluatesTo_number place 64) place
  rw [zero] at raised
  exact ⟨sums 3 half (half - 1) (by decide) (by decide) (by decide), (powers 3 (-1)).2 (by decide),
    raised⟩

end Scriptling
