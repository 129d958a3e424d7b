/-
This file follows two heaps in which lists are made side by side. Of the lists
that were there at first, some of the one heap stand for some of the other; a
list that is made stands for the one that is made at the same time. Since all
that will ever be paired is settled at the start, what is said of two values
stays true while the heaps grow.
-/

import Scriptling.Proofs.Heap.Likeness

namespace Scriptling

/-- Which lists of two heaps stand for each other, now and later: some of those that were there at
first, and all that are made from then on, in the order in which they are made. -/
structure Pairing where
  /-- How many lists of the first heap were there at first. -/
  first : Nat
  /-- How many lists of the second heap were there at first. -/
  second : Nat
  /-- Which of those stand for each other. -/
  old : Nat → Nat → Prop

namespace Pairing

def Pairs (pairing : Pairing) (one two : Nat) : Prop :=
  (one < pairing.first ∧ two < pairing.second ∧ pairing.old one two) ∨
    ∃ made, one = pairing.first + made ∧ two = pairing.second + made

/-- The first heap had some lists that the second one did not have. -/
def shifted (lists : Nat) : Pairing :=
  ⟨lists, 0, fun _ _ => False⟩

/-- Of the lists that are there now, those stand for each other that denote the same. -/
def denoting (first second : Heap) : Pairing :=
  ⟨first.size, second.size, fun one two => first.Same second (.list one) (.list two)⟩

theorem pairs_shifted {lists one two : Nat} :
    (shifted lists).Pairs one two ↔ one = lists + two := by
  simp [Pairs, shifted]

end Pairing

namespace Heap

variable {first second : Heap} {pairing : Pairing}

/-- As many lists have been made in the one heap as in the other, and those that stand for each
other have elements that are alike. -/
structure Twins (pairing : Pairing) (first second : Heap) : Prop where
  made : ∃ made, first.size = pairing.first + made ∧ second.size = pairing.second + made
  matched : Matched pairing.Pairs first second

/-- Where nothing has been made yet, only the old lists matter. -/
theorem twins_of_old (firstSize : first.size = pairing.first)
    (secondSize : second.size = pairing.second)
    (old : ∀ one two, one < first.size → two < second.size → pairing.old one two →
      List.Forall₂ (Value.Alike pairing.Pairs) (first.items one) (second.items two)) :
    Twins pairing first second where
  made := ⟨0, firstSize, secondSize⟩
  matched one two paired := by
    rcases paired with ⟨inside, within, paired⟩ | ⟨made, rfl, rfl⟩
    · exact old one two (firstSize ▸ inside) (secondSize ▸ within) paired
    · rw [items_of_size_le (firstSize ▸ Nat.le_add_right _ _),
        items_of_size_le (secondSize ▸ Nat.le_add_right _ _)]
      exact .nil

/-- Values that denote the same and were made before are alike from now on. -/
theorem Same.alike {value twin : Value} (same : first.Same second value twin)
    (below : value.Below first.size) (within : twin.Below second.size) :
    value.Alike (Pairing.denoting first second).Pairs twin := by
  have whole := same
  obtain ⟨pairs, -, alike⟩ := same
  cases alike with
  | none => exact .none
  | int number => exact .int number
  | str text => exact .str text
  | list _ => exact .list (.inl ⟨below, within, whole⟩)

theorem twins_denoting (firstClosed : first.Closed) (secondClosed : second.Closed) :
    Twins (.denoting first second) first second := by
  refine twins_of_old rfl rfl fun one two _ _ same => ?_
  obtain ⟨lengths, elements⟩ := List.forall₂_iff_zip.mp (Same.items same)
  refine List.forall₂_iff_zip.mpr ⟨lengths, fun member => ?_⟩
  obtain ⟨inside, within⟩ := List.of_mem_zip member
  exact (elements member).alike (firstClosed one _ inside) (secondClosed two _ within)

theorem Twins.lt_iff (twins : Twins pairing first second) {one two : Nat}
    (paired : pairing.Pairs one two) : one < first.size ↔ two < second.size := by
  obtain ⟨made, firstSize, secondSize⟩ := twins.made
  rcases paired with ⟨inside, within, -⟩ | ⟨later, rfl, rfl⟩
  · omega
  · omega

/-- Lists that are made of values that are alike stand for each other. -/
theorem Twins.allocate (twins : Twins pairing first second) {elements others : List Value}
    (alike : List.Forall₂ (Value.Alike pairing.Pairs) elements others) :
    (first.allocate elements).1.Alike pairing.Pairs (second.allocate others).1 ∧
      Twins pairing (first.allocate elements).2 (second.allocate others).2 := by
  obtain ⟨made, firstSize, secondSize⟩ := twins.made
  have now : pairing.Pairs first.size second.size := .inr ⟨made, firstSize, secondSize⟩
  refine ⟨.list now, ⟨made + 1, ?_, ?_⟩, fun one two paired => ?_⟩
  · rw [size_allocate, firstSize, Nat.add_assoc]
  · rw [size_allocate, secondSize, Nat.add_assoc]
  · have inside := twins.lt_iff paired
    by_cases old : one < first.size
    · rw [items_allocate_old first elements old,
        items_allocate_old second others (inside.mp old)]
      exact twins.matched one two paired
    · rcases paired with ⟨before, -⟩ | ⟨later, rfl, rfl⟩
      · omega
      · rcases Nat.lt_or_eq_of_le (show made ≤ later by omega) with beyond | rfl
        · rw [items_of_size_le (by rw [size_allocate]; omega),
            items_of_size_le (by rw [size_allocate]; omega)]
          exact .nil
        · rw [← firstSize, ← secondSize, items_allocate_new, items_allocate_new]
          exact alike

theorem Twins.settle (twins : Twins pairing first second) {answer other : Answer}
    (alike : answer.Alike pairing.Pairs other) :
    (answer.settle first).1.Alike pairing.Pairs (other.settle second).1 ∧
      Twins pairing (answer.settle first).2 (other.settle second).2 := by
  cases alike with
  | value alike => exact ⟨alike, twins⟩
  | list alike => exact twins.allocate alike

mutual

/-- The host's data gets a place in both heaps. -/
theorem Twins.store : ∀ {first second : Heap} (datum : Datum), Twins pairing first second →
    (first.store datum).1.Alike pairing.Pairs (second.store datum).1 ∧
      Twins pairing (first.store datum).2 (second.store datum).2
  | _, _, .none, twins => ⟨.none, twins⟩
  | _, _, .int number, twins => ⟨.int number, twins⟩
  | _, _, .str text, twins => ⟨.str text, twins⟩
  | _, _, .list content, twins => by
    rw [Heap.store, Heap.store]
    obtain ⟨alike, stored⟩ := twins.storeAll content
    exact stored.allocate alike

theorem Twins.storeAll : ∀ {first second : Heap} (content : List Datum),
    Twins pairing first second →
      List.Forall₂ (Value.Alike pairing.Pairs) (first.storeAll content).1
        (second.storeAll content).1 ∧
      Twins pairing (first.storeAll content).2 (second.storeAll content).2
  | _, _, [], twins => by
    rw [Heap.storeAll, Heap.storeAll]
    exact ⟨.nil, twins⟩
  | _, _, datum :: rest, twins => by
    rw [Heap.storeAll, Heap.storeAll]
    obtain ⟨head, stored⟩ := twins.store datum
    obtain ⟨tail, all⟩ := stored.storeAll rest
    exact ⟨.cons head tail, all⟩

end

/-- Appending in place to two lists that stand for each other and for no other list. -/
theorem Twins.append (twins : Twins pairing first second) {handle twin : Nat}
    (apart : ∀ one two, pairing.Pairs one two → (one = handle ↔ two = twin))
    {element other : Value} (alike : element.Alike pairing.Pairs other) :
    Twins pairing (first.append handle element) (second.append twin other) where
  made := by
    unfold Heap.append
    rw [size_change, size_change]
    exact twins.made
  matched one two together := by
    have elements := twins.matched one two together
    have same : one = handle ∧ one < first.size ↔ two = twin ∧ two < second.size :=
      and_congr (apart one two together) (twins.lt_iff together)
    simp only [Heap.append, items_change, same]
    split
    next => exact List.rel_append elements (.cons alike .nil)
    next => exact elements

end Heap

end Scriptling
