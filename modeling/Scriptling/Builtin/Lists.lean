/-
This file computes the builtins on lists. Each gives a new list and leaves those
it was given as they are.
-/

import Scriptling.Builtin.Answer
import Scriptling.Integer.Extent

namespace Scriptling.Builtin

/-- The length of a string or a list. -/
def lenOf (heap : Heap) : List Value → Answer
  | [.str text] => .count text.length
  | [.list handle] => .count (heap.items handle).length
  | _ => .nothing

/-- The elements from one index up to another. -/
def cut (elements : List Value) (start stop : Int64) : List Value :=
  (Extent.ofIndices (.ofNat elements.length) start stop).part elements

def sliceOf (heap : Heap) : List Value → Answer
  | [.list handle, .int start, .int stop] => .list (cut (heap.items handle) start stop)
  | _ => .nothing

def pushOf (heap : Heap) : List Value → Answer
  | [.list handle, element] => .list (heap.items handle ++ [element])
  | _ => .nothing

def concatOf (heap : Heap) : List Value → Answer
  | [.list first, .list second] => .list (heap.items first ++ heap.items second)
  | _ => .nothing

end Scriptling.Builtin
