/-
This file gives the values of the language. A list is not its elements but a
handle to a cell of the heap, so two values with one handle are the same list.
-/

import Scriptling.Text

namespace Scriptling

inductive Value where
  | none
  | int (number : Int64)
  | str (text : Text)
  | list (handle : Nat)
  deriving DecidableEq

namespace Value

/-- The word by which programs call a value's type. -/
def typeName : Value → String
  | .none => "none"
  | .int _ => "int"
  | .str _ => "str"
  | .list _ => "list"

/-- Truth as a value: one for true and zero for false. -/
def ofBool (flag : Bool) : Value :=
  .int (if flag then 1 else 0)

/-- The string of an ASCII word. -/
def word (letters : String) : Value :=
  .str (Text.ofWord letters)

def int? : Value → Option Int64
  | .int number => some number
  | _ => .none

def text? : Value → Option Text
  | .str text => some text
  | _ => .none

def handle? : Value → Option Nat
  | .list handle => some handle
  | _ => .none

/-- Whether two values are one list, and not merely lists with equal elements. -/
def sameList : Value → Value → Bool
  | .list left, .list right => left == right
  | _, _ => false

end Value

/-- Plain data: what a value denotes once every handle is followed. -/
inductive Datum where
  | none
  | int (number : Int64)
  | str (text : Text)
  | list (items : List Datum)

end Scriptling
