/-
This file bounds the height of what is read by the levels that are left. The
levels are no bound themselves: those that an operand has taken are free again
before operators are put around it, and so are those of one operator that takes
a right operand before the next one takes it. So every level may raise a tree by
as much as there are levels below it, and the height stays below their square.

Operators raise an expression that stands left of them. How high the expression
is does not matter, as long as the bound on it is one for the right operands too:
a run raises it by one for each of its operators, and it has only so many. A right
operand is raised by a run at every precedence that takes it from its operator.
There are five of them above the comparisons and at most four above any other
operator, which is why runs are told apart by whether comparisons may be in them.
-/

import Mathlib.Tactic.Ring
import Scriptling.Proofs.Tree.Height
import Scriptling.Proofs.Tree.Hereditary
import Scriptling.Proofs.Tree.Spelling

namespace Scriptling

/-! ### Who takes a right operand -/

namespace BinaryOperator

/-- Whether the operators of a precedence take the right operand of an operator. -/
def yieldsTo (operator : BinaryOperator) (level : Precedence) : Bool :=
  operator.precedence.rank < level.rank ∨ operator = .power ∧ level = .power

theorem takesFrom_eq_yieldsTo (next operator : BinaryOperator) :
    next.takesFrom operator = operator.yieldsTo next.precedence := by
  have power : next.precedence = .power ↔ next.precedence.rank = 3 := by
    cases next <;> decide
  rw [Bool.eq_iff_iff, takesFrom_iff, yieldsTo, decide_eq_true_iff, eq_power_iff, power]

/-- Comparisons are never taken from an operator. -/
theorem rank_pos_of_yieldsTo {operator : BinaryOperator} {level : Precedence}
    (yields : operator.yieldsTo level = true) : 0 < level.rank := by
  rcases of_decide_eq_true yields with tighter | ⟨-, rfl⟩
  · exact Nat.zero_lt_of_lt tighter
  · decide

end BinaryOperator

/-- How many more precedences take a right operand in a run that comparisons may be in. -/
def Precedence.slack (least : Precedence) : Nat :=
  if least.rank = 0 then 1 else 0

theorem Precedence.slack_of_pos {least : Precedence} (above : 0 < least.rank) : least.slack = 0 :=
  if_neg (Nat.ne_of_gt above)

/-- Few precedences take the right operand of an operator in a run. -/
theorem BinaryOperator.countP_yieldsTo_le {operator : BinaryOperator} {least : Precedence}
    (atLeast : least.rank ≤ operator.precedence.rank) :
    Precedence.descending.countP operator.yieldsTo ≤ least.slack + 4 := by
  have most : Precedence.descending.countP operator.yieldsTo ≤
      operator.precedence.slack + 4 := by
    cases operator <;> decide
  have looser : operator.precedence.slack ≤ least.slack := by
    unfold Precedence.slack
    split <;> split <;> omega
  omega

namespace Reader

/-! ### Operands -/

section

variable {inner expression : Reader Expr} {deep : Nat}
  (low : Gives (fun expr => expr.height < deep) expression)

include low

theorem height_items {close : TokenKind} {what : Counted} (room : Nat) :
    Gives (fun items => Expr.allHeight items < max 1 deep) (items expression close what room) := by
  have nothing : Expr.allHeight [] < max 1 deep := by
    rw [Expr.allHeight]
    omega
  induction room with
  | zero =>
    refine gives_bind fun found => ?_
    split
    next => exact gives_pure nothing
    next => exact gives_refuse
  | succ room hypothesis =>
    refine gives_bind fun found => ?_
    split
    next => exact gives_pure nothing
    next =>
      refine gives_bind_of low fun item lowItem => gives_bind fun found => ?_
      split
      next =>
        refine gives_bind_of hypothesis fun others lowOthers => gives_pure ?_
        rw [Expr.allHeight]
        omega
      next =>
        refine gives_pure ?_
        rw [Expr.allHeight]
        omega

theorem height_subscripted {target : Expr} (lowTarget : target.height ≤ max 1 deep) :
    Gives (fun expr => expr.height ≤ deep + 1) (subscripted expression target) := by
  refine gives_bind fun found => ?_
  split
  next =>
    refine gives_bind_of low fun index lowIndex => gives_bind fun close => gives_pure ?_
    rw [Expr.height]
    omega
  next => exact gives_pure (by omega)

theorem height_named : Gives (fun expr => expr.height ≤ deep + 1) (named expression) := by
  refine gives_bind fun token => gives_bind fun found => ?_
  split
  next =>
    refine gives_bind_of (height_items low _) fun arguments lowArguments => gives_bind fun close =>
      height_subscripted low ?_
    rw [Expr.height]
    omega
  next =>
    refine height_subscripted low ?_
    rw [Expr.height]
    omega

theorem height_primary : Gives (fun expr => expr.height ≤ deep + 1) (primary expression) := by
  refine gives_bind fun first => ?_
  split
  next => exact gives_bind fun token => gives_pure (Nat.le_add_left 1 deep)
  next => exact gives_bind fun token => gives_pure (Nat.le_add_left 1 deep)
  next => exact height_named low
  next =>
    refine gives_bind fun first => gives_bind_of low fun inside lowInside => gives_bind fun close =>
      height_subscripted low ?_
    rw [Expr.height]
    omega
  next =>
    refine gives_bind fun first => gives_bind_of (height_items low _) fun content lowContent =>
      gives_bind fun close => gives_pure ?_
    rw [Expr.height]
    omega
  next => exact gives_refuse

/-- An operand is at most two higher than what may stand in its brackets. -/
theorem height_operand (lowInner : Gives (fun expr => expr.height ≤ deep) inner) :
    Gives (fun expr => expr.height ≤ deep + 1) (operand inner expression) := by
  refine gives_bind fun first => ?_
  split
  next =>
    refine gives_bind fun first => gives_bind_of lowInner fun value lowValue => gives_pure ?_
    rw [Expr.height]
    omega
  next => exact height_primary low

end

/-! ### Operators -/

/-- An expression is raised by less than so much, if a number bounds its height that is large
enough. -/
def Raises (enough more : Nat) (reader : Expr → Reader Expr) : Prop :=
  ∀ left bound, enough ≤ bound → left.height ≤ bound →
    Gives (fun result => result.height < bound + more) (reader left)

/-- A right operand is raised once at every precedence that takes it. -/
theorem height_climb {tail : Precedence → Expr → Reader Expr} {enough more : Nat}
    (raises : ∀ level, 0 < level.rank → Raises enough more (tail level))
    (operator : BinaryOperator) (levels : List Precedence) (right : Expr) (bound : Nat)
    (large : enough ≤ bound) (low : right.height ≤ bound) :
    Gives (fun result => result.height ≤ bound + levels.countP operator.yieldsTo * more)
      (climb tail operator levels right) := by
  induction levels generalizing right bound with
  | nil => exact gives_pure (Nat.le_add_right_of_le low)
  | cons level levels hypothesis =>
    have fewer : levels.countP operator.yieldsTo * more ≤
        (level :: levels).countP operator.yieldsTo * more :=
      Nat.mul_le_mul_right _ (List.sublist_cons_self level levels).countP_le
    refine gives_bind fun token => ?_
    split
    next => exact gives_pure (Nat.le_add_right_of_le low)
    next next _ =>
      split
      next takes =>
        rw [BinaryOperator.takesFrom_eq_yieldsTo] at takes
        split
        next same =>
          subst same
          rw [List.countP_cons_of_pos takes]
          refine gives_bind_of
            (raises _ (BinaryOperator.rank_pos_of_yieldsTo takes) right bound large low) ?_
          intro result lowResult
          refine (hypothesis result (bound + more) (by omega) (by omega)).weaken
            fun final lowFinal => ?_
          rw [Nat.add_mul, Nat.one_mul]
          omega
        next =>
          exact (hypothesis right bound large low).weaken fun final lowFinal => by omega
      next => exact gives_pure (Nat.le_add_right_of_le low)

/-- One operator of a run with its right operand, and the rest of the run. -/
theorem height_next {unary : Reader Expr} {tail run : Precedence → Expr → Reader Expr} {room : Nat}
    (lowUnary : Gives (fun expr => expr.height ≤ room * room + 1) unary)
    (raisesTail : ∀ level, 0 < level.rank → Raises (room * room + 1) room (tail level))
    {least : Precedence}
    (raisesRun : Raises (room * room + (least.slack + 2) * room + 2) (room + 1) (run least))
    {operator : BinaryOperator} (atLeast : least.rank ≤ operator.precedence.rank)
    {left : Expr} {bound : Nat}
    (large : (room + 1) * (room + 1) + (least.slack + 2) * (room + 1) + 2 ≤ bound)
    (low : left.height ≤ bound) :
    Gives (fun result => result.height < bound + (room + 1 + 1)) (do
      discard take
      let first ← unary
      let right ← climb tail operator Precedence.descending first
      run least (.binary (left.span.through right.span) operator left right)) := by
  refine gives_bind fun _ => gives_bind_of lowUnary fun first lowFirst => ?_
  refine gives_bind_of (height_climb raisesTail operator _ first _ (Nat.le_refl _) lowFirst) ?_
  intro right lowRight
  have taken : Precedence.descending.countP operator.yieldsTo * room ≤ (least.slack + 4) * room :=
    Nat.mul_le_mul_right _ (BinaryOperator.countP_yieldsTo_le atLeast)
  have expanded : (room + 1) * (room + 1) + (least.slack + 2) * (room + 1) + 2 =
      room * room + (least.slack + 4) * room + least.slack + 5 := by
    ring
  have apart : (least.slack + 4) * room = (least.slack + 2) * room + 2 * room := by
    ring
  have whole (span : Span) : (Expr.binary span operator left right).height ≤ bound + 1 := by
    rw [Expr.height]
    omega
  exact (raisesRun _ (bound + 1) (by omega) (whole _)).weaken fun result lowResult => by omega

theorem height_run {least : Precedence} {left : Expr} {bound more : Nat}
    (low : left.height < bound + more) {step : BinaryOperator → Reader Expr}
    (steps : ∀ operator, least.rank ≤ operator.precedence.rank →
      Gives (fun result => result.height < bound + more) (step operator)) :
    Gives (fun result => result.height < bound + more) (do
      match ← operatorFrom least with
      | none => return left
      | some operator => step operator) := by
  have found : Gives (fun found : Option BinaryOperator => ∀ operator ∈ found,
      least.rank ≤ operator.precedence.rank) (operatorFrom least) := by
    refine gives_bind fun token => gives_pure fun operator member => ?_
    exact of_decide_eq_true (Option.filter_eq_some_iff.mp member).2
  refine gives_bind_of found fun found atLeast => ?_
  cases found with
  | none => exact gives_pure low
  | some operator => exact steps operator (atLeast operator rfl)

/-- An operand, and the operators after it. -/
theorem height_chain {unary : Reader Expr} {tail : Precedence → Expr → Reader Expr} {room : Nat}
    (lowUnary : Gives (fun expr => expr.height ≤ room * room + 1) unary)
    (raisesTail : Raises (room * room + Precedence.comparison.slack * room + 1) room
      (tail .comparison)) :
    Gives (fun expr => expr.height < (room + 1) * (room + 1)) (do
      let left ← unary
      tail .comparison left) := by
  refine gives_bind_of lowUnary fun left low => ?_
  have square : (room + 1) * (room + 1) = room * room + Precedence.comparison.slack * room + 1 +
      room := by
    rw [Precedence.slack, Precedence.rank, if_pos rfl]
    ring
  rw [square]
  exact raisesTail left _ (Nat.le_refl _) (by omega)

/-- How high operands get with so many levels left, and by how much operators raise them. -/
theorem height_of_room (room : Nat) :
    Gives (fun expr => expr.height ≤ room * room + 1) (unary room) ∧
    (∀ least, Raises (room * room + least.slack * room + 1) room (tail room least)) ∧
    ∀ least, Raises (room * room + (least.slack + 2) * room + 2) (room + 1) (run room least) := by
  induction room with
  | zero =>
    refine ⟨?_, fun _ _ _ _ _ => gives_refuse, fun least left bound large low => ?_⟩
    · rw [unary]
      exact height_operand gives_refuse gives_refuse
    · rw [run]
      exact height_run (Nat.lt_succ_of_le low) fun _ _ => gives_refuse
  | succ room hypothesis =>
    obtain ⟨lowUnary, raisesTail, raisesRun⟩ := hypothesis
    have square : (room + 1) * (room + 1) = room * room + room + room + 1 :=
      Nat.succ_mul_succ room room
    refine ⟨?_, fun least left bound large low => ?_, fun least left bound large low => ?_⟩
    · rw [unary]
      refine height_operand (height_chain lowUnary (raisesTail .comparison)) ?_
      exact lowUnary.weaken fun expr low => by omega
    · have expanded : (room + 1) * (room + 1) + least.slack * (room + 1) + 1 =
          room * room + (least.slack + 2) * room + 2 + least.slack := by
        ring
      exact raisesRun least left bound (by omega) low
    · rw [run]
      refine height_run (by omega) fun operator atLeast => ?_
      refine height_next lowUnary (fun level above => ?_) (raisesRun least) atLeast large low
      have raises := raisesTail level
      rw [Precedence.slack_of_pos above, Nat.zero_mul] at raises
      exact raises

/-- An expression that is read is lower than the square of the levels that were left. -/
theorem height_expression (room : Nat) :
    Gives (fun expr => expr.height < room * room) (Reader.expression room) := by
  cases room with
  | zero => exact gives_refuse
  | succ room =>
    obtain ⟨lowUnary, raisesTail, -⟩ := height_of_room room
    exact height_chain lowUnary (raisesTail .comparison)

end Reader

/-! ### Statements -/

/-- How high a statement may get with so many levels left. -/
def heightLimit (room : Nat) : Nat :=
  max (room + 1) (room * room)

/-- What keeps to the limit with one level less is below it. -/
theorem lt_heightLimit {height room : Nat} (low : height ≤ heightLimit room) :
    height < heightLimit (room + 1) := by
  have square : (room + 1) * (room + 1) = room * room + room + room + 1 :=
    Nat.succ_mul_succ room room
  unfold heightLimit at low ⊢
  omega

theorem heightLimit_pos (room : Nat) : 0 < heightLimit room :=
  Nat.lt_of_lt_of_le (Nat.zero_lt_succ room) (Nat.le_max_left _ _)

/-- An expression has its height below the limit of its statement, and a body has a level less
than its statement. -/
theorem hereditary_height :
    Hereditary (fun room expr => expr.height < heightLimit room)
      (fun room _ statement => statement.height ≤ heightLimit room)
      (fun room _ branches => branches.height < heightLimit room) where
  reads room := (Reader.height_expression room).weaken fun _ low =>
    Nat.lt_of_lt_of_le low (Nat.le_max_right _ _)
  expr low := low
  returns {room _ value} _ _ low := by
    cases value with
    | none => exact heightLimit_pos room
    | some result => exact low result rfl
  define _ _ _ low := lt_heightLimit low
  assign _ _ low := low
  forLoop _ _ condition low := Nat.max_lt.mpr ⟨condition, lt_heightLimit low⟩
  branch _ condition first rest :=
    Nat.max_lt.mpr ⟨condition, Nat.max_lt.mpr ⟨lt_heightLimit first, rest⟩⟩
  whileLoop _ condition low := Nat.max_lt.mpr ⟨condition, lt_heightLimit low⟩
  pass _ := heightLimit_pos _
  breaks _ _ := heightLimit_pos _
  continues _ _ := heightLimit_pos _
  imports _ _ := heightLimit_pos _
  arm condition first rest :=
    Nat.max_lt.mpr ⟨condition, Nat.max_lt.mpr ⟨lt_heightLimit first, rest⟩⟩
  otherwise low := lt_heightLimit low
  done := heightLimit_pos _

end Scriptling
