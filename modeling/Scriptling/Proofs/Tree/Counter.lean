/-
This file reads with a counter of the levels that are in use, where the reader
has the number of those that are left. Whoever goes a level down raises the
counter, unless it stands at the limit, and it stands where it stood before when
the level is left again; a run of operators raises it by one more for each of
them.

Whatever value the counter takes is shown to somebody who watches it and may do
as they like. If they do nothing at values up to the limit, they never do
anything, and what is read is what the reader reads. So the counter never passes
the limit, and with it the heights of all trees are bounded.
-/

import Scriptling.Proofs.Tree.Levels

namespace Scriptling

namespace Counting

open Reader

variable (watch : Nat → Reader Unit)

mutual

/-- An operand, with so many levels in use. -/
def unary (depth : Nat) : Reader Expr := do
  watch depth
  operand (if depth < nestingLimit then unary (depth + 1) else tooDeep)
    (if depth < nestingLimit then do
      let left ← unary (depth + 1)
      tail (depth + 1) .comparison left
    else
      tooDeep)
termination_by nestingLimit - depth

/-- A run of operators after its first operand, one level down. -/
def tail (depth : Nat) (least : Precedence) (left : Expr) : Reader Expr :=
  if depth < nestingLimit then run (depth + 1) least left else tooDeep
termination_by nestingLimit - depth

/-- The operators that bind at least as tightly as `least`, with their right operands. Each of
them uses a level until the run ends. -/
def run (depth : Nat) (least : Precedence) (left : Expr) : Reader Expr := do
  watch depth
  match ← operatorFrom least with
  | none => return left
  | some operator =>
    if depth < nestingLimit then
      discard take
      let first ← unary (depth + 1)
      let right ← climb (tail (depth + 1)) operator Precedence.descending first
      run (depth + 1) least (.binary (left.span.through right.span) operator left right)
    else
      tooDeep
termination_by nestingLimit - depth

end

/-- An expression, one level down. -/
def expression (depth : Nat) : Reader Expr :=
  if depth < nestingLimit then do
    let left ← unary watch (depth + 1)
    tail watch (depth + 1) .comparison left
  else
    tooDeep

/-- A statement, with so many levels in use. The body of a compound statement is one level down. -/
def statement (depth : Nat) (surroundings : Surroundings) : Reader Stmt := do
  watch depth
  statementWith (expression watch depth)
    (fun inner => body (if depth < nestingLimit then statement (depth + 1) inner else tooDeep))
    surroundings
termination_by nestingLimit - depth

variable {watch} (quiet : ∀ depth ≤ nestingLimit, watch depth = pure ())

include quiet

/-- With so many levels in use and so many left, both readers read the same. -/
theorem reads_alike (room depth : Nat) (levels : depth + room = nestingLimit) :
    unary watch depth = Reader.unary room ∧ tail watch depth = Reader.tail room ∧
      run watch depth = Reader.run room := by
  induction room generalizing depth with
  | zero =>
    have full : ¬depth < nestingLimit := by omega
    refine ⟨?_, ?_, ?_⟩
    · rw [unary, quiet depth (by omega), if_neg full, if_neg full, Reader.unary]
      rfl
    · funext least left
      rw [tail, if_neg full, Reader.tail]
    · funext least left
      rw [run, quiet depth (by omega), pure_bind, Reader.run]
      refine bind_congr fun found => ?_
      cases found with
      | none => rfl
      | some operator => exact if_neg full
  | succ room hypothesis =>
    obtain ⟨sameUnary, sameTail, sameRun⟩ := hypothesis (depth + 1) (by omega)
    have free : depth < nestingLimit := by omega
    refine ⟨?_, ?_, ?_⟩
    · rw [unary, quiet depth (by omega), if_pos free, if_pos free, sameUnary, sameTail,
        Reader.unary]
      rfl
    · funext least left
      rw [tail, if_pos free, sameRun, Reader.tail]
    · funext least left
      rw [run, quiet depth (by omega), pure_bind, sameUnary, sameTail, sameRun, Reader.run]
      refine bind_congr fun found => ?_
      cases found with
      | none => rfl
      | some operator => exact if_pos free

theorem expression_alike (room depth : Nat) (levels : depth + room = nestingLimit) :
    expression watch depth = Reader.expression room := by
  unfold expression
  cases room with
  | zero => rw [if_neg (by omega), Reader.expression]
  | succ room =>
    obtain ⟨sameUnary, sameTail, -⟩ := reads_alike quiet room (depth + 1) (by omega)
    rw [if_pos (by omega), sameUnary, sameTail, Reader.expression]

theorem statement_alike (room depth : Nat) (levels : depth + room = nestingLimit) :
    statement watch depth = Reader.statement room := by
  induction room generalizing depth with
  | zero =>
    funext surroundings
    rw [statement, quiet depth (by omega), expression_alike quiet 0 depth levels,
      Reader.statement]
    simp only [if_neg (show ¬depth < nestingLimit by omega), pure_bind]
  | succ room hypothesis =>
    funext surroundings
    rw [statement, quiet depth (by omega), expression_alike quiet (room + 1) depth levels,
      hypothesis (depth + 1) (by omega), Reader.statement]
    simp only [if_pos (show depth < nestingLimit by omega), pure_bind]

end Counting

/-- The trees that are read have bounded height. Whoever watches the counter never sees it past the
limit, whatever they would do then, while statements and expressions are read; and no way down any
tree is longer than the square of the limit. -/
theorem trees_have_bounded_height :
    (∀ watch : Nat → Reader Unit, (∀ depth ≤ nestingLimit, watch depth = pure ()) →
      Counting.statement watch 0 = Reader.statement nestingLimit ∧
      Counting.expression watch 0 = Reader.expression nestingLimit) ∧
    (∀ source program, Program.ofSource source = .ok program →
      ∀ item ∈ program.items, item.height ≤ nestingLimit * nestingLimit) ∧
    ∀ source expr, Expr.ofSource source = .ok expr →
      expr.height ≤ nestingLimit * nestingLimit := by
  refine ⟨fun watch quiet => ⟨?_, ?_⟩, fun source program read => ?_, fun source expr read => ?_⟩
  · exact Counting.statement_alike quiet nestingLimit 0 (Nat.zero_add _)
  · exact Counting.expression_alike quiet nestingLimit 0 (Nat.zero_add _)
  · exact hereditary_height.of_ofSource read
  · exact Nat.le_of_lt (Expr.of_ofSource (Reader.height_expression nestingLimit) read)

/-- A negative power in a call in a loop: nobody sees the counter past the limit, and seven nodes
stand on the longest way down. -/
theorem power_in_loop_has_bounded_height :
    let source := ascii "while a: f(-b[1] ** 2)"
    let watch (depth : Nat) : Reader Unit :=
      if depth ≤ nestingLimit then pure () else Reader.tooDeep
    Counting.statement watch 0 = Reader.statement nestingLimit ∧
    Counting.expression watch 0 = Reader.expression nestingLimit ∧
    ∃ program, Program.ofSource source = .ok program ∧ program.height = 7 ∧
      ∀ item ∈ program.items, item.height ≤ nestingLimit * nestingLimit := by
  intro source watch
  obtain ⟨counted, programs, -⟩ := trees_have_bounded_height
  obtain ⟨statements, expressions⟩ := counted watch fun _ low => if_pos low
  have height : (Program.ofSource source).toOption.map Program.height = some 7 := by
    decide +kernel
  refine ⟨statements, expressions, ?_⟩
  cases read : Program.ofSource source with
  | ok program =>
    rw [read] at height
    exact ⟨program, rfl, Option.some.inj height, programs source program read⟩
  | error diagnostics =>
    rw [read] at height
    cases height

end Scriptling
