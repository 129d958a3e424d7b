/-
This file numbers frames, so that a host can build chains that share frames. A
frame is made after the one that encloses it and looks names up through it.
-/

import Scriptling.Frame

namespace Scriptling

/-- Frames by their number, each with the number of the frame that encloses it. -/
structure Forest where
  frames : Array (Frame × Option Nat)

namespace Forest

/-- One frame that nothing encloses, with number zero. -/
def start : Forest := ⟨#[(Frame.empty, none)]⟩

def size (forest : Forest) : Nat :=
  forest.frames.size

/-- A new frame, and its number. -/
def grow (forest : Forest) (enclosing : Option Nat) : Nat × Forest :=
  (forest.size, ⟨forest.frames.push (Frame.empty, enclosing)⟩)

/-- A frame by its number; there is nothing in a frame that was not made. -/
def frame (forest : Forest) (number : Nat) : Frame :=
  (forest.frames.getD number (Frame.empty, none)).1

/-- The frame that encloses another. It is always an older one. -/
def enclosing? (forest : Forest) (number : Nat) : Option Nat :=
  (forest.frames.getD number (Frame.empty, none)).2

/-- A frame and those around it, the innermost first. -/
def chain (forest : Forest) (number : Nat) : List Frame :=
  forest.frame number ::
    match forest.enclosing? number with
    | some outer => if outer < number then forest.chain outer else []
    | none => []
termination_by number

/-- Puts a frame in the place of another. -/
def replace (forest : Forest) (number : Nat) (frame : Frame) : Forest :=
  ⟨forest.frames.modify number fun entry => (frame, entry.2)⟩

/-- Binds a name in one frame. -/
def define (forest : Forest) (number : Nat) (name : Name) (value : Value) :
    Except Cause Forest := do
  return forest.replace number (← (forest.frame number).define name value)

/-- The value of a name, looked up from a frame outwards. -/
def lookup (forest : Forest) (number : Nat) (name : Name) : Option Value :=
  Frame.lookup (forest.chain number) name

/-- Forgets the names of one frame. -/
def clear (forest : Forest) (number : Nat) : Forest :=
  forest.replace number Frame.empty

end Forest

end Scriptling
