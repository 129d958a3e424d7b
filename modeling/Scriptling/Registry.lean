/-
This file keeps the functions of a session under their names. A later definition
of a name takes the place of the earlier one, and the names stay in the order in
which they were first registered.
-/

import Scriptling.Entries
import Scriptling.Tree

namespace Scriptling

structure Registry where
  functions : List Function

namespace Registry

def empty : Registry := ⟨[]⟩

/-- The registered names, in the order of their first registration. -/
def names (registry : Registry) : List Name :=
  Entries.names Function.name registry.functions

def size (registry : Registry) : Nat :=
  registry.functions.length

def lookup (registry : Registry) (name : Name) : Option Function :=
  Entries.find? Function.name registry.functions name

def contains (registry : Registry) (name : Name) : Bool :=
  Entries.contains Function.name registry.functions name

/-- Registers a function under its name. -/
def register (registry : Registry) (function : Function) : Registry :=
  ⟨Entries.insert Function.name registry.functions function⟩

theorem names_register (registry : Registry) (function : Function) :
    (registry.register function).names =
      if function.name ∈ registry.names then registry.names
      else registry.names ++ [function.name] :=
  Entries.names_insert

/-- Whatever map keeps the laws, it lists and finds the functions that are put into it as a registry
does. -/
theorem alike_orderedMap {Store : Type} (map : OrderedMap Store Function Function.name)
    (functions : List Function) :
    (functions.foldl register empty).names = map.names (functions.foldl map.insert map.empty) ∧
    ∀ name, (functions.foldl register empty).lookup name =
      map.find? (functions.foldl map.insert map.empty) name := by
  have inside : functions.foldl (Entries.insert Function.name) [] =
      (functions.foldl register empty).functions :=
    List.foldl_hom Registry.functions fun _ _ => rfl
  unfold names lookup
  rw [← inside]
  exact (Entries.orderedMap Function.name).alike_foldl map functions

theorem mem_register {registry : Registry} {function other : Function}
    (member : other ∈ (registry.register function).functions) :
    other = function ∨ other ∈ registry.functions :=
  Entries.mem_insert member

end Registry

end Scriptling
