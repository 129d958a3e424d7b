/-
This file looks for one text inside another. The leftmost place counts, and an
empty text is found at the start of any other. A text is cut at every separator
that a reading from left to right meets; what follows the last separator is a
piece only if it is not empty.
-/

import Scriptling.Bytes

namespace Scriptling

/-- The leftmost place of `needle`, counted on from `offset`. -/
def indexFrom? (needle : Bytes) : Nat → Bytes → Option Nat
  | offset, [] => if needle.isEmpty then some offset else none
  | offset, byte :: rest =>
    if needle.isPrefixOf (byte :: rest) then some offset else indexFrom? needle (offset + 1) rest

/-- The leftmost place where `needle` stands in a text. -/
def indexOf? (needle text : Bytes) : Option Nat :=
  indexFrom? needle 0 text

/-- The pieces of a text between separators, after those in `done`, which are kept in reverse. A
separator is given by its first byte and the others, so it is never empty. -/
def piecesAfter (first : UInt8) (others : Bytes) (done : List Bytes) (text : Bytes) :
    List Bytes :=
  if text.isEmpty then done.reverse
  else
    match indexOf? (first :: others) text with
    | none => (text :: done).reverse
    | some place =>
      piecesAfter first others (text.take place :: done)
        (text.drop (place + (others.length + 1)))
termination_by text.length
decreasing_by
  have someBytes : text ≠ [] := by simp_all
  have := List.length_pos_iff.2 someBytes
  simp only [List.length_drop]
  omega

/-- The pieces of a text between separators. An empty separator stands for a space. -/
def pieces (separator text : Bytes) : List Bytes :=
  match separator with
  | [] => piecesAfter Byte.space [] [] text
  | first :: others => piecesAfter first others [] text

end Scriptling
