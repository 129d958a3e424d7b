/-
This file says what it is for a call to make a list, so that calls can be put one
after another. A list that is made holds the elements it was made of, and every
list that was there before is still what it was.
-/

import Scriptling.Builtin.Call
import Scriptling.Proofs.Heap.Order
import Scriptling.Proofs.Steps

namespace Scriptling

/-- The string of some bytes. -/
def Value.ofBytes (bytes : Bytes) : Value :=
  .str (Text.ofBytes bytes)

/-- No stream refuses anything to some work, and what it gives and leaves is as is said. -/
def Yields (work : WorldAction Value) (world : World) (given : Value → World → Prop) : Prop :=
  Ends work world given fun _ _ => False

namespace World

/-- A value is a list of these elements. -/
def HasList (world : World) (value : Value) (elements : List Value) : Prop :=
  ∃ handle, value = .list handle ∧ handle < world.heap.size ∧ world.heap.items handle = elements

/-- The lists and the streams are still what they were. -/
structure Keeps (world after : World) : Prop where
  lists : ∀ value elements, world.HasList value elements → after.HasList value elements
  streams : after.streams = world.streams

end World

variable {world : World}

theorem yields_bind {first : WorldAction Value} {rest : Value → WorldAction Value}
    {given : Value → World → Prop} : Yields (first >>= rest) world given ↔
      Yields first world fun value after => Yields (rest value) after given :=
  ends_bind

theorem Yields.weaken {work : WorldAction Value} {given other : Value → World → Prop}
    (yields : Yields work world given)
    (weaker : ∀ value after, given value after → other value after) : Yields work world other :=
  Ends.weaken yields weaker fun _ _ never => never

/-- An answer with a list makes that list. -/
theorem World.yields_settle (elements : List Value) : Yields (World.settle (.list elements)) world
    fun value after => after.HasList value elements ∧ world.Keeps after := by
  refine ⟨⟨world.heap.size, rfl, ?_, Heap.items_allocate_new ..⟩, ?_, rfl⟩
  · show world.heap.size < (world.heap.allocate elements).2.size
    rw [Heap.size_allocate]
    exact Nat.lt_succ_self _
  · rintro value others ⟨handle, rfl, inside, items⟩
    refine ⟨handle, rfl, ?_, (Heap.items_allocate_old _ _ inside).trans items⟩
    show handle < (world.heap.allocate elements).2.size
    rw [Heap.size_allocate]
    exact Nat.lt_succ_of_lt inside

/-- A builtin that answers with a list makes that list. -/
theorem Builtin.yields_list {builtin : Builtin} {arguments elements : List Value}
    (answers : builtin.answer world.heap arguments = .list elements) :
    Yields (builtin.call arguments) world
      fun value after => after.HasList value elements ∧ world.Keeps after := by
  have settles : builtin.call arguments world = World.settle (.list elements) world := by
    rw [← answers]
    cases builtin with
    | print => cases answers
    | input => cases answers
    | _ => rfl
  exact (ends_congr settles).mpr (World.yields_settle elements)

end Scriptling
