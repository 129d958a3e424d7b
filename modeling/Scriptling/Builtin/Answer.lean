/-
This file gives the form in which a builtin answers: with a value that exists,
or with the elements of a list that has to be made. Every list that a builtin
makes comes into being here, from elements that exist already.
-/

import Scriptling.Heap

namespace Scriptling

inductive Answer where
  | value (value : Value)
  | list (elements : List Value)

namespace Answer

/-- The answer to a call with the wrong number or kind of arguments. -/
def nothing : Answer := .value .none

def int (number : Int64) : Answer := .value (.int number)

def count (number : Nat) : Answer := int (Int64.ofNat number)

def bytes (content : Bytes) : Answer := .value (.str (Text.ofBytes content))

def bool (flag : Bool) : Answer := .value (.ofBool flag)

/-- The value of an answer, in a heap that holds the list if one is made. -/
def settle (answer : Answer) (heap : Heap) : Value × Heap :=
  match answer with
  | .value known => (known, heap)
  | .list elements => heap.allocate elements

end Answer

end Scriptling
