/-
This file keeps the elements of lists. A cell of the heap holds the elements of
one list, and a handle is the number of its cell. A new list takes the next
cell, so a cell that is filled once can only hold handles to older ones; only
the host can change a cell later, through a handle it has come by, and only that
can make a list contain itself.
-/

import Scriptling.Value

namespace Scriptling

structure Heap where
  cells : Array (List Value)

namespace Heap

def empty : Heap := ⟨#[]⟩

/-- How many lists there are. -/
def size (heap : Heap) : Nat :=
  heap.cells.size

/-- The elements of a list. -/
def items (heap : Heap) (handle : Nat) : List Value :=
  heap.cells.getD handle []

/-- A new list with the given elements. -/
def allocate (heap : Heap) (elements : List Value) : Value × Heap :=
  (.list heap.size, ⟨heap.cells.push elements⟩)

/-- Changes the elements of a list in place. Whoever holds its handle sees the change. -/
def change (heap : Heap) (handle : Nat) (edit : List Value → List Value) : Heap :=
  ⟨heap.cells.modify handle edit⟩

/-- Appends to a list in place. -/
def append (heap : Heap) (handle : Nat) (element : Value) : Heap :=
  heap.change handle fun elements => elements ++ [element]

@[simp]
theorem size_allocate (heap : Heap) (elements : List Value) :
    (heap.allocate elements).2.size = heap.size + 1 :=
  Array.size_push ..

theorem items_allocate_old (heap : Heap) (elements : List Value) {handle : Nat}
    (old : handle < heap.size) :
    (heap.allocate elements).2.items handle = heap.items handle := by
  have inside : handle < heap.cells.size := old
  simp [items, allocate, Array.getElem?_push_lt inside, Array.getElem?_eq_getElem inside]

theorem items_allocate_new (heap : Heap) (elements : List Value) :
    (heap.allocate elements).2.items heap.size = elements := by
  simp [items, allocate, size]

/-- Whether a value counts as true: a number that is not zero, and a string or a list that is
not empty. -/
def isTruthy (heap : Heap) : Value → Bool
  | .none => false
  | .int number => number != 0
  | .str text => text.length != 0
  | .list handle => !(heap.items handle).isEmpty

/-! ### Equality -/

/-- Whether two values denote the same, followed through at most `depth` nested lists; there is
no answer if they nest deeper. Elements are compared from the left, up to the first pair that
differs. -/
def equalWithin? (heap : Heap) : Nat → Value → Value → Option Bool
  | 0, _, _ => none
  | _ + 1, .none, .none => some true
  | _ + 1, .int left, .int right => some (left == right)
  | _ + 1, .str left, .str right => some (left == right)
  | depth + 1, .list left, .list right =>
    if (heap.items left).length = (heap.items right).length then
      ((heap.items left).zip (heap.items right)).allM fun pair =>
        equalWithin? heap depth pair.1 pair.2
    else
      some false
  | _ + 1, _, _ => some false

/-- Whether two values denote the same; there is no answer if the comparison goes round in
circles. One that does not meets no pair of lists twice on its way down, so it is no deeper than
there are pairs. -/
def equal? (heap : Heap) (left right : Value) : Option Bool :=
  heap.equalWithin? (heap.size * heap.size + 1) left right

/-! ### Plain data -/

mutual

/-- Gives plain data a place in the heap, with fresh lists throughout. -/
def store (heap : Heap) : Datum → Value × Heap
  | .none => (.none, heap)
  | .int number => (.int number, heap)
  | .str text => (.str text, heap)
  | .list content =>
    let (elements, heap) := storeAll heap content
    heap.allocate elements

def storeAll (heap : Heap) : List Datum → List Value × Heap
  | [] => ([], heap)
  | datum :: rest =>
    let (element, heap) := store heap datum
    let (elements, heap) := storeAll heap rest
    (element :: elements, heap)

end

/-- What a value denotes, unless its lists nest more than `depth` deep. -/
def datumWithin? (heap : Heap) : Nat → Value → Option Datum
  | 0, _ => none
  | _ + 1, .none => some .none
  | _ + 1, .int number => some (.int number)
  | _ + 1, .str text => some (.str text)
  | depth + 1, .list handle => do
    return .list (← (heap.items handle).mapM (datumWithin? heap depth))

/-- What a value denotes, unless it contains itself. -/
def datum? (heap : Heap) (value : Value) : Option Datum :=
  heap.datumWithin? (heap.size + 1) value

end Heap

end Scriptling
