/-
This file computes from where to where a part of a list or a string goes. Lengths
and places are numbers of 64 bits and all of it is arithmetic on these: a number
that asks for a place outside is moved to the nearest end.
-/

namespace Scriptling

/-- The places from which and up to which something goes. -/
structure Extent where
  start : Int64
  stop : Int64

namespace Extent

/-- The place nearest to a number. -/
def clamp (length number : Int64) : Int64 :=
  if number < 0 then 0 else if length < number then length else number

/-- The number that an index means. A negative one counts from the end, once. -/
def wrap (length index : Int64) : Int64 :=
  if index < 0 then index + length else index

/-- From one index up to another, and nothing if the other comes first. -/
def ofIndices (length start stop : Int64) : Extent :=
  let first := clamp length (wrap length start)
  ⟨first, max (clamp length (wrap length stop)) first⟩

/-- At most so many from a place on. Here a negative number counts as zero. -/
def ofCount (length start count : Int64) : Extent :=
  let first := clamp length start
  ⟨first, first + clamp (length - first) count⟩

/-- What stands in an extent. -/
def part {Item : Type} (extent : Extent) (items : List Item) : List Item :=
  items.extract extent.start.toInt.toNat extent.stop.toInt.toNat

end Extent

end Scriptling
