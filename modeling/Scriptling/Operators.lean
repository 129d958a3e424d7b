/-
This file says what the operators of the language compute. They never fail: a
pair of operands that an operator has no meaning for gives `None`, and so does
an index that points outside its list. Arithmetic is modulo 2^64, division goes
toward zero, and a division by zero gives zero.
-/

import Scriptling.Heap
import Scriptling.Integer.Decimal
import Scriptling.Integer.Power
import Scriptling.Tree

namespace Scriptling

/-- The longest string that repetition builds: 64 binary megabytes. -/
def repetitionLimit : Nat := 64 * 1024 * 1024

/-- Copies of a string, one at least and only as many as fit into the limit. -/
def Text.repetition (text : Text) (count : Int64) : Value :=
  if 0 < count ∧ text.length * count.toInt.toNat ≤ repetitionLimit then
    .str (text.repeated count.toInt.toNat)
  else
    .none

/-- A truth value as a number. -/
def truth (holds : Bool) : Int64 :=
  if holds then 1 else 0

/-- The binary operators on integers. -/
def BinaryOperator.onIntegers (operator : BinaryOperator) (left right : Int64) : Int64 :=
  match operator with
  | .add => left + right
  | .subtract => left - right
  | .multiply => left * right
  | .divide | .floorDivide => if right = 0 then 0 else left / right
  | .remainder => if right = 0 then 0 else left % right
  | .power => Power.power left right
  | .equal => truth (left == right)
  | .notEqual => truth (left != right)
  | .less => truth (left < right)
  | .lessEqual => truth (left ≤ right)
  | .greater => truth (right < left)
  | .greaterEqual => truth (right ≤ left)
  | .bitAnd => left &&& right
  | .bitOr => left ||| right
  | .bitXor => left ^^^ right
  | .and => truth (left != 0 && right != 0)
  | .or => truth (left != 0 || right != 0)

/-- The binary operators. Both operands of `and` and `or` are values already: what these two
decide is only which truth value they give. -/
def BinaryOperator.apply (operator : BinaryOperator) (heap : Heap) (left right : Value) : Value :=
  match operator, left, right with
  | .and, left, right => .ofBool (heap.isTruthy left && heap.isTruthy right)
  | .or, left, right => .ofBool (heap.isTruthy left || heap.isTruthy right)
  | operator, .int left, .int right => .int (operator.onIntegers left right)
  | .add, .str left, .str right => .str (left ++ right)
  | .add, .int number, .str text => .str (Text.ofBytes (Decimal.write number) ++ text)
  | .add, .str text, .int number => .str (text ++ Text.ofBytes (Decimal.write number))
  | .multiply, .str text, .int count => text.repetition count
  | .multiply, .int count, .str text => text.repetition count
  | .equal, .str left, .str right => .ofBool (left == right)
  | .notEqual, .str left, .str right => .ofBool (left != right)
  | _, _, _ => .none

/-- The unary operators, which act on integers only. -/
def UnaryOperator.apply : UnaryOperator → Value → Value
  | .not, .int number => .ofBool (number == 0)
  | .complement, .int number => .int (~~~number)
  | .negate, .int number => .int (-number)
  | _, _ => .none

/-- The element of a list at an index that counts from zero. -/
def Heap.subscript (heap : Heap) : Value → Value → Value
  | .list handle, .int index =>
    if 0 ≤ index then (heap.items handle)[index.toInt.toNat]?.getD .none else .none
  | _, _ => .none

end Scriptling
