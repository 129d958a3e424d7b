/-
This file gives the syntax of the language as trees. Expressions and statements
carry the span of the source that they were read from. An `if` is a chain of
branches: arms that are tried in order and perhaps a body for when none holds.
-/

import Scriptling.Span
import Scriptling.Text

namespace Scriptling

/-! ### Operators -/

inductive BinaryOperator where
  | add
  | subtract
  | multiply
  | divide
  | floorDivide
  | remainder
  | power
  | equal
  | notEqual
  | less
  | lessEqual
  | greater
  | greaterEqual
  | bitAnd
  | bitOr
  | bitXor
  | and
  | or
  deriving DecidableEq, Repr

/-- How tightly an operator binds, the loosest first. -/
inductive Precedence where
  | comparison
  | additive
  | multiplicative
  | power
  | bitwise
  | logical
  deriving DecidableEq, Repr

namespace Precedence

def rank : Precedence → Nat
  | .comparison => 0
  | .additive => 1
  | .multiplicative => 2
  | .power => 3
  | .bitwise => 4
  | .logical => 5

/-- The levels from the tightest to the loosest. -/
def descending : List Precedence :=
  [.logical, .bitwise, .power, .multiplicative, .additive, .comparison]

end Precedence

namespace BinaryOperator

def precedence : BinaryOperator → Precedence
  | .equal | .notEqual | .less | .lessEqual | .greater | .greaterEqual => .comparison
  | .add | .subtract => .additive
  | .multiply | .divide | .floorDivide | .remainder => .multiplicative
  | .power => .power
  | .bitAnd | .bitOr | .bitXor => .bitwise
  | .and | .or => .logical

/-- Only the power operator groups to the right. -/
def groupsRight : BinaryOperator → Bool
  | .power => true
  | _ => false

/-- Whether `next`, standing after the right operand of `operator`, takes that operand. -/
def takesFrom (next operator : BinaryOperator) : Bool :=
  if next.groupsRight then operator.precedence.rank ≤ next.precedence.rank
  else operator.precedence.rank < next.precedence.rank

end BinaryOperator

inductive UnaryOperator where
  | not
  | complement
  | negate
  deriving DecidableEq, Repr

/-! ### Expressions -/

inductive Expr where
  | number (span : Span) (value : Int64)
  | string (span : Span) (text : Text)
  | name (span : Span) (name : Name)
  | binary (span : Span) (operator : BinaryOperator) (left right : Expr)
  | unary (span : Span) (operator : UnaryOperator) (operand : Expr)
  | call (span : Span) (callee : Name) (arguments : List Expr)
  | paren (span : Span) (inner : Expr)
  | list (span : Span) (items : List Expr)
  | subscript (span : Span) (target index : Expr)

def Expr.span : Expr → Span
  | .number span _ | .string span _ | .name span _ | .binary span .. | .unary span ..
  | .call span .. | .paren span _ | .list span _ | .subscript span .. => span

/-! ### Statements -/

mutual

inductive Stmt where
  | expr (value : Expr)
  | returns (span : Span) (value : Option Expr)
  | define (span : Span) (name : Name) (parameters : List Name) (body : Stmt)
  | assign (span : Span) (name : Name) (value : Expr)
  | forLoop (span : Span) (loopName : Name) (iterable : Expr) (body : Stmt)
  | branch (span : Span) (condition : Expr) (body : Stmt) (others : Branches)
  | whileLoop (span : Span) (condition : Expr) (body : Stmt)
  | pass (span : Span)
  | breaks (span : Span)
  | continues (span : Span)
  | imports (span : Span) (name : Name)

/-- What follows the first arm of an `if`. -/
inductive Branches where
  | arm (condition : Expr) (body : Stmt) (others : Branches)
  | otherwise (body : Stmt)
  | done

end

def Stmt.span : Stmt → Span
  | .expr value => value.span
  | .returns span _ | .define span .. | .assign span .. | .forLoop span .. | .branch span ..
  | .whileLoop span .. | .pass span | .breaks span | .continues span | .imports span _ => span

namespace Branches

/-- The span of the last body of a chain, where `body` stands before it. -/
def lastSpan (body : Span) : Branches → Span
  | .arm _ body others => others.lastSpan body.span
  | .otherwise body => body.span
  | .done => body

/-- How many arms a chain has. -/
def arms : Branches → Nat
  | .arm _ _ others => others.arms + 1
  | .otherwise _ | .done => 0

end Branches

/-- A function of the program: what a call needs to know of its definition. -/
structure Function where
  name : Name
  parameters : List Name
  body : Stmt
  span : Span

def Function.arity (function : Function) : Nat :=
  function.parameters.length

/-- The function that a statement defines, if it is a definition. -/
def Stmt.function? : Stmt → Option Function
  | .define span name parameters body => some ⟨name, parameters, body, span⟩
  | _ => none

/-- A whole source: its statements in order. -/
structure Program where
  items : List Stmt

/-- The functions that a program defines at its top level, in order. -/
def Program.functions (program : Program) : List Function :=
  program.items.filterMap Stmt.function?

end Scriptling
