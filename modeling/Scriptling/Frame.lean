/-
This file keeps the variables of a program. A frame binds names to values, in
the order in which they were first bound, and holds only so many of them. Names
are looked up through a chain of frames, the innermost first, while a name is
only ever bound in one frame.
-/

import Scriptling.Diagnostic.Cause
import Scriptling.Entries
import Scriptling.Value

namespace Scriptling

structure Frame where
  bindings : List (Name × Value)

namespace Frame

def empty : Frame := ⟨[]⟩

/-- The bound names, in the order in which they were first bound. -/
def names (frame : Frame) : List Name :=
  Entries.names Prod.fst frame.bindings

def size (frame : Frame) : Nat :=
  frame.bindings.length

def find? (frame : Frame) (name : Name) : Option Value :=
  (Entries.find? Prod.fst frame.bindings name).map Prod.snd

def binds (frame : Frame) (name : Name) : Bool :=
  Entries.contains Prod.fst frame.bindings name

/-- Binds a name, whether it is bound or not. A new name is refused by a full frame. -/
def define (frame : Frame) (name : Name) (value : Value) : Except Cause Frame :=
  if frame.binds name ∨ frame.size < frameCapacity then
    .ok ⟨Entries.insert Prod.fst frame.bindings (name, value)⟩
  else
    .error (.frameFull name)

/-- A frame that takes a name has the binding put among the others. -/
theorem define_eq_ok {frame after : Frame} {name : Name} {value : Value} :
    frame.define name value = .ok after ↔ (frame.binds name ∨ frame.size < frameCapacity) ∧
      after.bindings = Entries.insert Prod.fst frame.bindings (name, value) := by
  unfold define
  split
  next room =>
    constructor
    · rintro ⟨⟩
      exact ⟨room, rfl⟩
    · rintro ⟨-, same⟩
      rw [← same]
  next full =>
    constructor
    · rintro ⟨⟩
    · rintro ⟨room, -⟩
      exact absurd room full

/-- Whatever map keeps the laws, it lists and finds the bindings that are put into it as a frame
does which has room for them. -/
theorem alike_orderedMap {Store : Type}
    (map : OrderedMap Store (Name × Value) Prod.fst) {bindings : List (Name × Value)}
    {frame : Frame}
    (taken : bindings.foldlM (fun frame binding => frame.define binding.1 binding.2) empty =
      .ok frame) :
    frame.names = map.names (bindings.foldl map.insert map.empty) ∧
    ∀ name, frame.find? name =
      (map.find? (bindings.foldl map.insert map.empty) name).map Prod.snd := by
  have inside (bindings : List (Name × Value)) (start : Frame)
      (taken : bindings.foldlM (fun frame binding => frame.define binding.1 binding.2) start =
        .ok frame) :
      frame.bindings = bindings.foldl (Entries.insert Prod.fst) start.bindings := by
    induction bindings generalizing start with
    | nil => exact congrArg Frame.bindings (Except.ok.inj taken).symm
    | cons binding rest hypothesis =>
      rw [List.foldlM_cons] at taken
      cases first : start.define binding.1 binding.2 with
      | error cause =>
        rw [first] at taken
        cases taken
      | ok next =>
        rw [first] at taken
        rw [hypothesis next taken, (define_eq_ok.mp first).2]
        rfl
  obtain ⟨names, finds⟩ := (Entries.orderedMap Prod.fst).alike_foldl map bindings
  unfold Frame.names find?
  rw [inside bindings empty taken]
  exact ⟨names, fun name => congrArg _ (finds name)⟩

/-- The value of a name in the innermost frame of a chain that binds it. -/
def lookup (chain : List Frame) (name : Name) : Option Value :=
  chain.findSome? fun frame => frame.find? name

end Frame

end Scriptling
