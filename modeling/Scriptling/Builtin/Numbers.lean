/-
This file computes the builtins on numbers and the conversions between types.
-/

import Scriptling.Builtin.Answer
import Scriptling.Integer.Power
import Scriptling.Integer.Progression

namespace Scriptling.Builtin

def absOf : List Value → Answer
  | [.int number] => .int (if number < 0 then -number else number)
  | _ => .nothing

/-- The first number, or the one among the others that is preferred to it. Arguments of another
type are passed over, unless it is the first. -/
def extremeOf (prefers : Int64 → Int64 → Bool) : List Value → Answer
  | .int first :: rest =>
    .int ((rest.filterMap Value.int?).foldl (fun best number =>
      if prefers number best then number else best) first)
  | _ => .nothing

def maxOf : List Value → Answer :=
  extremeOf fun number best => best < number

def minOf : List Value → Answer :=
  extremeOf fun number best => number < best

def powOf : List Value → Answer
  | [.int base, .int exponent] => .int (Power.power base exponent)
  | _ => .nothing

/-- The sum of the numbers among some values. -/
def total (values : List Value) : Int64 :=
  (values.filterMap Value.int?).foldl (· + ·) 0

/-- The sum of the elements of a single list, or else of the arguments. -/
def sumOf (heap : Heap) : List Value → Answer
  | [.list handle] => .int (total (heap.items handle))
  | arguments => .int (total arguments)

/-- The text of a progression from zero or a start to a bound, with step one or a given one. -/
def rangeOf : List Value → Answer
  | [.int stop] => .bytes (Progression.write 0 stop 1)
  | [.int start, .int stop] => .bytes (Progression.write start stop 1)
  | [.int start, .int stop, .int step] => .bytes (Progression.write start stop step)
  | _ => .nothing

def strOf : List Value → Answer
  | [.int number] => .bytes (Decimal.write number)
  | [.str text] => .value (.str text)
  | [_] => .value (.word "None")
  | _ => .nothing

def intOf : List Value → Answer
  | [.int number] => .int number
  | [.str text] => .int (Decimal.read text.bytes)
  | [_] => .int 0
  | _ => .nothing

def typeOf : List Value → Answer
  | [value] => .value (.word value.typeName)
  | _ => .value (.word Value.none.typeName)

end Scriptling.Builtin
