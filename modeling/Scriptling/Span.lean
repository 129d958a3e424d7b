/-
This file places tokens and syntax in the source. A position is reached by
reading bytes one after another from the start, and a span runs from one
position to an offset at or after it. Lines and columns count from one, and a
column counts bytes.
-/

import Scriptling.Bytes

namespace Scriptling

/-- A place between two bytes of the source. -/
structure Position where
  offset : Nat
  line : Nat
  column : Nat
  deriving DecidableEq, Repr

namespace Position

/-- The place before the first byte. -/
def start : Position := ⟨0, 1, 1⟩

/-- The place after one more byte. A newline ends its line. -/
def step (position : Position) (byte : UInt8) : Position :=
  if byte = Byte.newline then ⟨position.offset + 1, position.line + 1, 1⟩
  else ⟨position.offset + 1, position.line, position.column + 1⟩

/-- The place after some more bytes. -/
def advance (position : Position) (bytes : Bytes) : Position :=
  bytes.foldl step position

@[simp]
theorem advance_nil (position : Position) : position.advance [] = position := rfl

theorem advance_append (position : Position) (first second : Bytes) :
    position.advance (first ++ second) = (position.advance first).advance second :=
  List.foldl_append

@[simp]
theorem offset_step (position : Position) (byte : UInt8) :
    (position.step byte).offset = position.offset + 1 := by
  unfold step; split <;> rfl

@[simp]
theorem offset_advance (position : Position) (bytes : Bytes) :
    (position.advance bytes).offset = position.offset + bytes.length := by
  induction bytes generalizing position with
  | nil => rfl
  | cons byte rest hypothesis =>
    show ((position.step byte).advance rest).offset = _
    rw [hypothesis, offset_step, List.length_cons, Nat.add_assoc, Nat.add_comm 1]

end Position

/-- A stretch of the source: the offsets of its first byte and of the byte after its last, and
the line and column of its start. -/
structure Span where
  start : Nat
  stop : Nat
  line : Nat
  column : Nat
  deriving DecidableEq, Repr

namespace Span

/-- The stretch between two positions. -/
def between (first last : Position) : Span :=
  ⟨first.offset, last.offset, first.line, first.column⟩

/-- The stretch from the start of one span through the end of another. -/
def through (first last : Span) : Span :=
  { first with stop := max first.stop last.stop }

end Span

end Scriptling
