/-
This file writes values as text, in two ways. What a program prints is short: a
list shows its elements, and a list among them shows only that it is one. What
is shown to somebody who looks into a program is complete: lists in full, and
strings between quotes.
-/

import Scriptling.Heap
import Scriptling.Integer.Decimal
import Scriptling.Text.Quoted
import Scriptling.Text.Utf8

namespace Scriptling.Heap

/-- How an element of a printed list is written. -/
def renderNested : Value → Bytes
  | .none => ascii "None"
  | .int number => Decimal.write number
  | .str text => text.bytes
  | .list _ => ascii "[...]"

/-- How a value is printed. -/
def render (heap : Heap) : Value → Bytes
  | .list handle =>
    ascii "[" ++ (ascii ", ").intercalate ((heap.items handle).map renderNested) ++ ascii "]"
  | value => renderNested value

/-- How a value is printed, as a text. -/
def display (heap : Heap) (value : Value) : String :=
  Utf8.decodeLossy (heap.render value)

/-- The complete form of a value, unless its lists nest more than `depth` deep. -/
def inspectWithin? (heap : Heap) : Nat → Value → Option String
  | 0, _ => none
  | _ + 1, .none => some "None"
  | _ + 1, .int number => some (Utf8.decodeLossy (Decimal.write number))
  | _ + 1, .str text => some (Quoted.quote (Utf8.decodeLossy text.bytes))
  | depth + 1, .list handle => do
    let elements ← (heap.items handle).mapM (inspectWithin? heap depth)
    return "[" ++ ", ".intercalate elements ++ "]"

/-- The complete form of a value, unless it contains itself. -/
def inspect? (heap : Heap) (value : Value) : Option String :=
  heap.inspectWithin? (heap.size + 1) value

end Scriptling.Heap
