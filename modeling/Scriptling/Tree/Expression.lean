/-
This file reads expressions. Operands are read by looking at one token, and
operators are put between them by precedence climbing: an operator takes as its
right operand everything that binds tighter than itself, the power operator also
another power.

How deeply an expression may nest is bounded. A reader is given the number of
levels that are left as `room`, and what it reads inside gets one less, so the
readers are defined by recursion on the room. A parenthesis, an operand of a
unary operator and a run of operators cost a level each, and within a run every
operator costs one more, because it deepens the tree by one.
-/

import Scriptling.Tree
import Scriptling.Tree.Cursor

namespace Scriptling

/-- The most that may stand in one list of arguments, items or parameters, or in one chain of
arms. -/
def itemLimit : Nat := 16

/-- How many levels a source may nest. -/
def nestingLimit : Nat := 200

def BinaryOperator.ofToken? : TokenKind → Option BinaryOperator
  | .equal => some .equal
  | .notEqual => some .notEqual
  | .less => some .less
  | .lessEqual => some .lessEqual
  | .greater => some .greater
  | .greaterEqual => some .greaterEqual
  | .plus => some .add
  | .minus => some .subtract
  | .star => some .multiply
  | .slash => some .divide
  | .doubleSlash => some .floorDivide
  | .percent => some .remainder
  | .doubleStar => some .power
  | .ampersand => some .bitAnd
  | .bar => some .bitOr
  | .caret => some .bitXor
  | .doubleAmpersand | .keyword .andWord => some .and
  | .doubleBar | .keyword .orWord => some .or
  | _ => none

def UnaryOperator.ofToken? : TokenKind → Option UnaryOperator
  | .bang | .keyword .notWord => some .not
  | .tilde => some .complement
  | .minus => some .negate
  | _ => none

namespace Reader

/-- Refuses to go a level deeper. -/
def tooDeep {Result : Type} : Reader Result :=
  refuse (.atMost nestingLimit .nesting)

/-! ### Operands -/

/-- Expressions between commas up to the token `close`, of which there may be `room`. A comma
may stand after the last one. -/
def items (expression : Reader Expr) (close : TokenKind) (what : Counted) :
    Nat → Reader (List Expr)
  | 0 => do
    if ← sees close then return [] else refuse (.atMost itemLimit what)
  | room + 1 => do
    if ← sees close then
      return []
    else
      let item ← expression
      if ← accept .comma then
        return item :: (← items expression close what room)
      else
        return [item]

/-- At most one subscript after what has been read. -/
def subscripted (expression : Reader Expr) (target : Expr) : Reader Expr := do
  if ← accept .leftBracket then
    let index ← expression
    let close ← expectToken .rightBracket
    return .subscript (target.span.through close.span) target index
  else
    return target

/-- A name, called at most once and then subscripted at most once. -/
def named (expression : Reader Expr) : Reader Expr := do
  let token ← take
  if ← accept .leftParen then
    let arguments ← items expression .rightParen .arguments itemLimit
    let close ← expectToken .rightParen
    subscripted expression (.call (token.span.through close.span) token.text arguments)
  else
    subscripted expression (.name token.span token.text)

/-- An operand without an operator in front. -/
def primary (expression : Reader Expr) : Reader Expr := do
  match (← current).kind with
  | .number =>
    let token ← take
    return .number token.span token.value
  | .string =>
    let token ← take
    return .string token.span (Text.ofBytes token.text)
  | .identifier => named expression
  | .leftParen =>
    let first ← take
    let inner ← expression
    let close ← expectToken .rightParen
    subscripted expression (.paren (first.span.through close.span) inner)
  | .leftBracket =>
    let first ← take
    let content ← items expression .rightBracket .listItems itemLimit
    let close ← expectToken .rightBracket
    return .list (first.span.through close.span) content
  | _ => refuse .expression

/-- An operand. `inner` reads the operand of a unary operator, and `expression` whatever stands
between brackets. -/
def operand (inner expression : Reader Expr) : Reader Expr := do
  match UnaryOperator.ofToken? (← current).kind with
  | some operator =>
    let first ← take
    let value ← inner
    return .unary (first.span.through value.span) operator value
  | none => primary expression

/-! ### Operators -/

/-- The operator that comes next, if it binds at least as tightly as `least`. -/
def operatorFrom (least : Precedence) : Reader (Option BinaryOperator) := do
  return (BinaryOperator.ofToken? (← current).kind).filter fun operator =>
    least.rank ≤ operator.precedence.rank

/-- Extends the right operand of `operator` by the operators that take it. Each of them is
followed by looser ones only, so the levels are tried from the tightest to the loosest. -/
def climb (tail : Precedence → Expr → Reader Expr) (operator : BinaryOperator) :
    List Precedence → Expr → Reader Expr
  | [], right => return right
  | level :: levels, right => do
    match BinaryOperator.ofToken? (← current).kind with
    | none => return right
    | some next =>
      if next.takesFrom operator then
        if next.precedence = level then
          climb tail operator levels (← tail level right)
        else
          climb tail operator levels right
      else
        return right

mutual

/-- An operand with `room` levels left. -/
def unary : Nat → Reader Expr
  | 0 => operand tooDeep tooDeep
  | room + 1 => operand (unary room) do
    let left ← unary room
    tail room .comparison left

/-- A run of operators after its first operand, one level down. -/
def tail : Nat → Precedence → Expr → Reader Expr
  | 0, _, _ => tooDeep
  | room + 1, least, left => run room least left

/-- The operators that bind at least as tightly as `least`, with their right operands. -/
def run : Nat → Precedence → Expr → Reader Expr
  | 0, least, left => do
    match ← operatorFrom least with
    | none => return left
    | some _ => tooDeep
  | room + 1, least, left => do
    match ← operatorFrom least with
    | none => return left
    | some operator =>
      discard take
      let first ← unary room
      let right ← climb (tail room) operator Precedence.descending first
      run room least (.binary (left.span.through right.span) operator left right)

end

/-- An expression with `room` levels left. -/
def expression : Nat → Reader Expr
  | 0 => tooDeep
  | room + 1 => do
    let left ← unary room
    tail room .comparison left

end Reader

end Scriptling
