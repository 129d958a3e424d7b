/-
This file says what it means for words to spell an expression, and what trees
operators are grouped into. Reading the leaves and operators of a tree from left
to right gives its words; only a comma that ends a list of arguments or items
may be there or not. Many trees have the same words. Of these the grammar takes
the one in which every operator takes as operands what binds tighter than
itself, and on its left also what binds alike, while the power operator has
that on its right.

An expression is looked at from its left: at the left end stands an operand
without an operator, and to it the operators are added one after another, each
with its right operand. That is the order in which they are read.
-/

import Scriptling.Proofs.Tree.Words

namespace Scriptling

/-! ### Spelling -/

mutual

/-- Some words are what is read off an expression from left to right. -/
inductive Expr.Spelled : Expr → List Word → Prop
  | number (span : Span) (value : Int64) : Spelled (.number span value) [.number value]
  | string (span : Span) (text : Text) : Spelled (.string span text) [.string text]
  | name (span : Span) (name : Name) : Spelled (.name span name) [.name name]
  | binary {left right : Expr} {leftWords rightWords : List Word} (span : Span)
    (operator : BinaryOperator) : Spelled left leftWords → Spelled right rightWords →
      Spelled (.binary span operator left right) (leftWords ++ operator.word :: rightWords)
  | unary {operand : Expr} {words : List Word} (span : Span) (operator : UnaryOperator) :
    Spelled operand words → Spelled (.unary span operator operand) (operator.word :: words)
  | call {arguments : List Expr} {words : List Word} (span : Span) (callee : Name) :
    Expr.AllSpelled arguments words → Spelled (.call span callee arguments)
      (.name callee :: .mark .leftParen :: words ++ [.mark .rightParen])
  | paren {inner : Expr} {words : List Word} (span : Span) :
    Spelled inner words →
      Spelled (.paren span inner) (.mark .leftParen :: words ++ [.mark .rightParen])
  | list {items : List Expr} {words : List Word} (span : Span) :
    Expr.AllSpelled items words →
      Spelled (.list span items) (.mark .leftBracket :: words ++ [.mark .rightBracket])
  | subscript {target index : Expr} {targetWords indexWords : List Word} (span : Span) :
    Spelled target targetWords → Spelled index indexWords →
      Spelled (.subscript span target index)
        (targetWords ++ .mark .leftBracket :: indexWords ++ [.mark .rightBracket])

/-- Some words are expressions with commas between them, and perhaps a comma after the last. -/
inductive Expr.AllSpelled : List Expr → List Word → Prop
  | none : AllSpelled [] []
  | last {item : Expr} {words : List Word} : item.Spelled words → AllSpelled [item] words
  | comma {item : Expr} {rest : List Expr} {words restWords : List Word} :
    item.Spelled words → AllSpelled rest restWords →
      AllSpelled (item :: rest) (words ++ .mark .comma :: restWords)

end

/-! ### Grouping -/

namespace Expr

/-- The operator of an expression that is an operation on two operands. -/
def operator? : Expr → Option BinaryOperator
  | .binary _ operator _ _ => some operator
  | _ => none

/-- A subscript may stand after a name, a call or parentheses. -/
def TakesSubscript : Expr → Prop
  | .name .. | .call .. | .paren .. => True
  | _ => False

mutual

/-- Operators are grouped by how tightly they bind. An operand that is itself an operation binds
tighter than the operator it belongs to, and a left operand may also bind alike; with the power
operator a right operand may. Nothing between an operand and its unary operator is an operation
on two operands. -/
def Grouped : Expr → Prop
  | .number .. | .string .. | .name .. => True
  | .binary _ operator left right =>
    (∀ inner, left.operator? = some inner →
      if operator = .power then operator.precedence.rank < inner.precedence.rank
      else operator.precedence.rank ≤ inner.precedence.rank) ∧
    (∀ inner, right.operator? = some inner →
      if operator = .power then operator.precedence.rank ≤ inner.precedence.rank
      else operator.precedence.rank < inner.precedence.rank) ∧
    left.Grouped ∧ right.Grouped
  | .unary _ _ operand => operand.operator? = none ∧ operand.Grouped
  | .call _ _ arguments => AllGrouped arguments
  | .paren _ inner => inner.Grouped
  | .list _ items => AllGrouped items
  | .subscript _ target index => target.TakesSubscript ∧ target.Grouped ∧ index.Grouped

def AllGrouped : List Expr → Prop
  | [] => True
  | item :: rest => item.Grouped ∧ AllGrouped rest

end

/-! ### Trees without places -/

mutual

/-- The same expression without its places in the source. -/
def unplaced : Expr → Expr
  | .number _ value => .number ⟨0, 0, 0, 0⟩ value
  | .string _ text => .string ⟨0, 0, 0, 0⟩ text
  | .name _ content => .name ⟨0, 0, 0, 0⟩ content
  | .binary _ operator left right => .binary ⟨0, 0, 0, 0⟩ operator left.unplaced right.unplaced
  | .unary _ operator operand => .unary ⟨0, 0, 0, 0⟩ operator operand.unplaced
  | .call _ callee arguments => .call ⟨0, 0, 0, 0⟩ callee (allUnplaced arguments)
  | .paren _ inner => .paren ⟨0, 0, 0, 0⟩ inner.unplaced
  | .list _ items => .list ⟨0, 0, 0, 0⟩ (allUnplaced items)
  | .subscript _ target index => .subscript ⟨0, 0, 0, 0⟩ target.unplaced index.unplaced

def allUnplaced : List Expr → List Expr
  | [] => []
  | item :: rest => item.unplaced :: allUnplaced rest

end

end Expr

/-! ### Which operator takes an operand -/

namespace BinaryOperator

theorem eq_power_iff {operator : BinaryOperator} :
    operator = .power ↔ operator.precedence.rank = 3 := by
  cases operator <;> decide

theorem takesFrom_iff {next operator : BinaryOperator} :
    next.takesFrom operator = true ↔
      operator.precedence.rank < next.precedence.rank ∨
        operator.precedence.rank = 3 ∧ next.precedence.rank = 3 := by
  have power : next.groupsRight = true ↔ next.precedence.rank = 3 := by
    cases next <;> decide
  unfold takesFrom
  split
  next right =>
    rw [decide_eq_true_eq]
    have high := power.mp right
    omega
  next left =>
    rw [decide_eq_true_eq]
    have other := mt power.mpr left
    omega

theorem takesFrom_eq_false_iff {next operator : BinaryOperator} :
    next.takesFrom operator = false ↔
      next.precedence.rank ≤ operator.precedence.rank ∧
        (operator.precedence.rank = 3 → next.precedence.rank ≠ 3) := by
  rw [← Bool.not_eq_true, takesFrom_iff]
  omega

/-- An operator that binds at least as tightly as one which takes an operand takes it as well. -/
theorem takesFrom_of_le {tighter next operator : BinaryOperator}
    (takes : next.takesFrom operator = true)
    (le : next.precedence.rank ≤ tighter.precedence.rank) : tighter.takesFrom operator = true := by
  rw [takesFrom_iff] at takes ⊢
  omega

/-- A looser operator takes nothing. -/
theorem takesFrom_of_lt {next operator : BinaryOperator}
    (looser : next.precedence.rank < operator.precedence.rank) :
    next.takesFrom operator = false := by
  rw [takesFrom_eq_false_iff]
  omega

end BinaryOperator

namespace Precedence

/-- Behind each level stand all looser ones. -/
def Falling : List Precedence → Prop
  | [] => True
  | level :: levels =>
    (∀ looser : Precedence, looser.rank < level.rank → looser ∈ levels) ∧ Falling levels

theorem falling_descending : Falling descending := by
  refine ⟨?_, ?_, ?_, ?_, ?_, ?_, trivial⟩ <;>
  · intro looser
    cases looser <;> decide

theorem rank_lt_six (level : Precedence) : level.rank < 6 := by
  cases level <;> decide

theorem mem_descending (level : Precedence) : level ∈ descending := by
  cases level <;> decide

end Precedence

namespace Expr

/-- An expression is left to the operator before it if one stands after it. -/
def StandsLeftOf (operator : BinaryOperator) (left : Expr) : Prop :=
  ∀ inner, left.operator? = some inner → operator.takesFrom inner = false

/-- An expression is all taken by the operator before it. -/
def StandsRightOf (operator : BinaryOperator) (right : Expr) : Prop :=
  ∀ inner, right.operator? = some inner → inner.takesFrom operator = true

theorem grouped_binary {span : Span} {operator : BinaryOperator} {left right : Expr} :
    (binary span operator left right).Grouped ↔
      left.StandsLeftOf operator ∧ right.StandsRightOf operator ∧ left.Grouped ∧
        right.Grouped := by
  have leftFits (inner : BinaryOperator) :
      (if operator = .power then operator.precedence.rank < inner.precedence.rank
        else operator.precedence.rank ≤ inner.precedence.rank) ↔
      operator.takesFrom inner = false := by
    rw [BinaryOperator.takesFrom_eq_false_iff]
    split
    next power =>
      rw [BinaryOperator.eq_power_iff] at power
      omega
    next other =>
      rw [BinaryOperator.eq_power_iff] at other
      omega
  have rightFits (inner : BinaryOperator) :
      (if operator = .power then operator.precedence.rank ≤ inner.precedence.rank
        else operator.precedence.rank < inner.precedence.rank) ↔
      inner.takesFrom operator = true := by
    rw [BinaryOperator.takesFrom_iff]
    split
    next power =>
      rw [BinaryOperator.eq_power_iff] at power
      omega
    next other =>
      rw [BinaryOperator.eq_power_iff] at other
      omega
  unfold StandsLeftOf StandsRightOf
  rw [Grouped]
  simp only [leftFits, rightFits]

theorem standsLeftOf_of_none {operator : BinaryOperator} {left : Expr}
    (none : left.operator? = none) : left.StandsLeftOf operator := by
  intro inner found
  rw [none] at found
  cases found

theorem standsRightOf_of_none {operator : BinaryOperator} {right : Expr}
    (none : right.operator? = none) : right.StandsRightOf operator := by
  intro inner found
  rw [none] at found
  cases found

/-! ### Expressions from left to right -/

/-- An expression is extended by operators of some rank at least, one after another, each with its
right operand. -/
inductive Extended (least : Nat) : Expr → List Word → Expr → Prop
  | done (left : Expr) : Extended least left [] left
  | next {left right whole : Expr} {rightWords rest : List Word} (span : Span)
    (operator : BinaryOperator) : least ≤ operator.precedence.rank →
      left.StandsLeftOf operator → right.StandsRightOf operator → right.Grouped →
        right.Spelled rightWords → Extended least (.binary span operator left right) rest whole →
          Extended least left (operator.word :: rightWords ++ rest) whole

/-- One operator more at the end. -/
theorem Extended.add {least : Nat} {first left right : Expr} {words rightWords : List Word}
    (extended : first.Extended least words left) {span : Span} {operator : BinaryOperator}
    (atLeast : least ≤ operator.precedence.rank)
    (grouped : (binary span operator left right).Grouped) (spelled : right.Spelled rightWords) :
    first.Extended least (words ++ operator.word :: rightWords)
      (.binary span operator left right) := by
  induction extended with
  | done left =>
    obtain ⟨standsLeft, standsRight, -, groupedRight⟩ := grouped_binary.mp grouped
    have last := Extended.next span operator atLeast standsLeft standsRight groupedRight spelled
      (.done _)
    rw [List.append_nil] at last
    exact last
  | next span inner high standsLeft standsRight groupedRight spelledRight _ hypothesis =>
    have rest := Extended.next span inner high standsLeft standsRight groupedRight spelledRight
      (hypothesis grouped)
    rw [List.append_assoc]
    exact rest

/-- Every expression is an operand without an operator, extended by operators that bind at least
as tightly as its own. -/
theorem exists_extended {whole : Expr} {words : List Word} (spelled : whole.Spelled words)
    (grouped : whole.Grouped) : ∃ (first : Expr) (firstWords restWords : List Word),
      first.operator? = none ∧ first.Grouped ∧ first.Spelled firstWords ∧
      words = firstWords ++ restWords ∧
      ∀ least, (∀ operator, whole.operator? = some operator → least ≤ operator.precedence.rank) →
        first.Extended least restWords whole := by
  have itself := spelled
  cases spelled with
  | @binary left right leftWords rightWords span operator spelledLeft spelledRight =>
    obtain ⟨standsLeft, -, groupedLeft, -⟩ := grouped_binary.mp grouped
    obtain ⟨first, firstWords, restWords, alone, groupedFirst, spelledFirst, rfl, extended⟩ :=
      exists_extended spelledLeft groupedLeft
    refine ⟨first, firstWords, restWords ++ operator.word :: rightWords, alone, groupedFirst,
      spelledFirst, List.append_assoc .., fun least atLeast => ?_⟩
    have high := atLeast operator rfl
    refine (extended least fun inner found => ?_).add high grouped spelledRight
    have looser := (BinaryOperator.takesFrom_eq_false_iff.mp (standsLeft inner found)).1
    exact Nat.le_trans high looser
  | _ =>
    -- Nothing extends an operand that is no operation itself.
    exact ⟨_, _, [], rfl, grouped, itself, (List.append_nil _).symm, fun _ _ => .done _⟩

/-- The operators that extend an expression are those of a rank at least, up to one that is below
it, and the rest. -/
theorem Extended.split {least : Nat} {first whole : Expr} {words : List Word} (level : Nat)
    (extended : first.Extended least words whole) :
    ∃ middle tight rest, words = tight ++ rest ∧ first.Extended level tight middle ∧
      middle.Extended least rest whole ∧
      ∀ operator, (Word.first rest).binary? = some operator →
        operator.precedence.rank < level := by
  induction extended with
  | done left => exact ⟨left, [], [], rfl, .done left, .done left, fun _ found => nomatch found⟩
  | next span operator high standsLeft standsRight grouped spelled extended hypothesis =>
    by_cases tight : level ≤ operator.precedence.rank
    · obtain ⟨middle, words, rest, rfl, before, after, loose⟩ := hypothesis
      exact ⟨middle, _, rest, (List.append_assoc ..).symm,
        .next span operator tight standsLeft standsRight grouped spelled before, after, loose⟩
    · refine ⟨_, [], _, rfl, .done _,
        .next span operator high standsLeft standsRight grouped spelled extended, ?_⟩
      intro other found
      have same : operator = other :=
        Option.some.inj ((Word.binary?_word operator).symm.trans found)
      rw [← same]
      exact Nat.not_le.mp tight

end Expr

end Scriptling
