/-
This file says what operators and builtins make of the values they are given. No
operator gives a list, but for the subscript, which gives an element. A builtin
may make a list, and then it is made of values that exist. Whatever is given was
made before.
-/

import Scriptling.Builtin.Call
import Scriptling.Operators
import Scriptling.Proofs.Heap.Order

namespace Scriptling

/-! ### Operators -/

theorem Text.below_repetition (text : Text) (count : Int64) (bound : Nat) :
    (text.repetition count).Below bound := by
  unfold Text.repetition
  split
  next => trivial
  next => trivial

/-- No operator gives a list. -/
theorem BinaryOperator.below_apply (operator : BinaryOperator) (heap : Heap) (left right : Value)
    (bound : Nat) : (operator.apply heap left right).Below bound := by
  unfold BinaryOperator.apply
  split <;> first | exact Text.below_repetition _ _ _ | trivial

theorem UnaryOperator.below_apply (operator : UnaryOperator) (operand : Value) (bound : Nat) :
    (operator.apply operand).Below bound := by
  unfold UnaryOperator.apply
  split <;> trivial

theorem Heap.below_subscript {heap : Heap} (closed : heap.Closed) (target index : Value) :
    (heap.subscript target index).Below heap.size := by
  unfold Heap.subscript
  split
  next handle index =>
    split
    next =>
      cases found : (heap.items handle)[index.toInt.toNat]? with
      | none => trivial
      | some element => exact closed handle element (List.mem_of_getElem? found)
    next => trivial
  next => trivial

/-! ### Builtins -/

namespace Answer

/-- All that an answer consists of is among the first so many lists. -/
def Below (bound : Nat) : Answer → Prop
  | .value known => known.Below bound
  | .list elements => ∀ element ∈ elements, element.Below bound

end Answer

namespace Builtin

variable {heap : Heap} {arguments : List Value}

/-- What a builtin on lists takes from its arguments exists. -/
theorem below_cut {elements : List Value} {bound : Nat}
    (below : ∀ element ∈ elements, element.Below bound) (start stop : Int64) :
    ∀ element ∈ cut elements start stop, element.Below bound :=
  fun element member => below element (List.mem_of_mem_drop (List.mem_of_mem_take member))

theorem below_sliceOf (closed : heap.Closed) : (sliceOf heap arguments).Below heap.size := by
  unfold sliceOf
  split
  next handle start stop => exact below_cut (closed handle) start stop
  next => trivial

theorem below_pushOf (closed : heap.Closed)
    (below : ∀ argument ∈ arguments, argument.Below heap.size) :
    (pushOf heap arguments).Below heap.size := by
  unfold pushOf
  split
  next handle element =>
    intro other member
    rcases List.mem_append.mp member with old | new
    · exact closed handle other old
    · exact below other (List.mem_cons_of_mem _ new)
  next => trivial

theorem below_concatOf (closed : heap.Closed) : (concatOf heap arguments).Below heap.size := by
  unfold concatOf
  split
  next first second =>
    intro element member
    rcases List.mem_append.mp member with left | right
    · exact closed first element left
    · exact closed second element right
  next => trivial

theorem below_splitBy (separator : Bytes) (text : Value) (bound : Nat) :
    (splitBy separator text).Below bound := by
  unfold splitBy
  split
  next =>
    intro piece member
    obtain ⟨bytes, -, rfl⟩ := List.mem_map.mp member
    trivial
  next => trivial

/-- A builtin makes a list of values that exist, or it answers with no list at all. -/
theorem below_answer (closed : heap.Closed) (builtin : Builtin)
    (below : ∀ argument ∈ arguments, argument.Below heap.size) :
    (Builtin.answer heap builtin arguments).Below heap.size := by
  cases builtin
  case slice => exact below_sliceOf closed
  case push => exact below_pushOf closed below
  case concat => exact below_concatOf closed
  case split =>
    unfold Builtin.answer splitOf
    dsimp only
    split
    next => exact below_splitBy ..
    next => exact below_splitBy ..
    next => trivial
  -- No other builtin answers with a list.
  all_goals
    simp only [answer, lenOf, strOf, intOf, absOf, maxOf, minOf, extremeOf, rangeOf, typeOf, powOf,
      sumOf, joinOf, substrOf, findOf, startswithOf, endswithOf, affixOf, tolowerOf, toupperOf,
      caseOf, ordOf, chrOf]
    repeat' split
    all_goals trivial

end Builtin

end Scriptling
