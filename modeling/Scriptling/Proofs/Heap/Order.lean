/-
This file orders the lists of a heap by their age. A list that is made takes the
next cell, and it can only hold lists that were there before. So a heap that
nobody else has touched is ordered: every list holds older ones only. Then none
contains itself, and whatever follows lists down to their elements comes to an
end: comparing two values, and writing one out.

A host may change a list in place and spoil the order. What programs do is the
same in such a heap: the lists that were there stay as they are, and those that
are new hold older ones.
-/

import Scriptling.Heap.Show

namespace Scriptling

/-- A value that is a list is one of the first so many. -/
def Value.Below (bound : Nat) : Value → Prop
  | .list handle => handle < bound
  | .none | .int _ | .str _ => True

theorem Value.Below.mono {value : Value} {bound more : Nat} (below : value.Below bound)
    (le : bound ≤ more) : value.Below more := by
  cases value with
  | list handle => exact Nat.lt_of_lt_of_le below le
  | none => trivial
  | int number => trivial
  | str text => trivial

namespace Heap

/-- There is nothing in a list that was not made. -/
theorem items_of_size_le {heap : Heap} {handle : Nat} (le : heap.size ≤ handle) :
    heap.items handle = [] := by
  have outside : heap.cells.size ≤ handle := le
  simp [items, Array.getElem?_eq_none outside]

/-- Every list holds lists that were made. -/
def Closed (heap : Heap) : Prop :=
  ∀ handle, ∀ value ∈ heap.items handle, value.Below heap.size

/-- Every list holds older lists. -/
def Ordered (heap : Heap) : Prop :=
  ∀ handle, ∀ value ∈ heap.items handle, value.Below handle

/-- The lists of the earlier heap are as they were, and all others hold older lists. -/
structure Extends (earlier later : Heap) : Prop where
  size : earlier.size ≤ later.size
  old : ∀ handle < earlier.size, later.items handle = earlier.items handle
  new : ∀ handle, earlier.size ≤ handle → ∀ value ∈ later.items handle, value.Below handle

theorem extends_refl (heap : Heap) : heap.Extends heap where
  size := Nat.le_refl _
  old _ _ := rfl
  new handle outside value member := by
    rw [items_of_size_le outside] at member
    cases member

theorem Extends.trans {first second third : Heap} (head : first.Extends second)
    (tail : second.Extends third) : first.Extends third where
  size := Nat.le_trans head.size tail.size
  old handle inside := by
    rw [tail.old handle (Nat.lt_of_lt_of_le inside head.size), head.old handle inside]
  new handle outside value member := by
    rcases Nat.lt_or_ge handle second.size with inside | beyond
    · rw [tail.old handle inside] at member
      exact head.new handle outside value member
    · exact tail.new handle beyond value member

theorem closed_empty : Heap.empty.Closed := by
  intro handle value member
  rw [items_of_size_le (Nat.zero_le handle)] at member
  cases member

theorem Extends.ordered {earlier later : Heap} (extended : earlier.Extends later)
    (ordered : earlier.Ordered) : later.Ordered := by
  intro handle value member
  rcases Nat.lt_or_ge handle earlier.size with inside | outside
  · rw [extended.old handle inside] at member
    exact ordered handle value member
  · exact extended.new handle outside value member

theorem Extends.ordered_iff {earlier later : Heap} (extended : earlier.Extends later) :
    earlier.Ordered ↔ later.Ordered := by
  refine ⟨extended.ordered, fun ordered handle value member => ?_⟩
  rcases Nat.lt_or_ge handle earlier.size with inside | outside
  · exact ordered handle value (extended.old handle inside ▸ member)
  · rw [items_of_size_le outside] at member
    cases member

theorem Extends.closed {earlier later : Heap} (extended : earlier.Extends later)
    (closed : earlier.Closed) : later.Closed := by
  intro handle value member
  rcases Nat.lt_or_ge handle earlier.size with inside | outside
  · rw [extended.old handle inside] at member
    exact (closed handle value member).mono extended.size
  · rcases Nat.lt_or_ge handle later.size with known | unknown
    · exact (extended.new handle outside value member).mono (Nat.le_of_lt known)
    · rw [items_of_size_le unknown] at member
      cases member

/-! ### Changes to a heap -/

/-- A list that is made of values that exist is younger than all of them. -/
theorem extends_allocate {heap : Heap} {elements : List Value}
    (below : ∀ element ∈ elements, element.Below heap.size) :
    heap.Extends (heap.allocate elements).2 where
  size := by
    rw [size_allocate]
    exact Nat.le_succ _
  old handle inside := items_allocate_old heap elements inside
  new handle outside value member := by
    rcases Nat.eq_or_lt_of_le outside with same | beyond
    · rw [← same, items_allocate_new] at member
      rw [← same]
      exact below value member
    · rw [items_of_size_le (by rw [size_allocate]; exact beyond)] at member
      cases member

theorem below_allocate (heap : Heap) (elements : List Value) :
    (heap.allocate elements).1.Below (heap.allocate elements).2.size := by
  rw [size_allocate]
  exact Nat.lt_succ_self _

mutual

/-- Data of the host is stored in lists of its own. -/
theorem extends_store : ∀ (heap : Heap) (datum : Datum),
    heap.Extends (heap.store datum).2 ∧ (heap.store datum).1.Below (heap.store datum).2.size
  | heap, .none | heap, .int _ | heap, .str _ => by
    rw [store]
    exact ⟨heap.extends_refl, trivial⟩
  | heap, .list content => by
    obtain ⟨extended, below⟩ := extends_storeAll heap content
    rw [store]
    exact ⟨extended.trans (extends_allocate below), below_allocate _ _⟩

theorem extends_storeAll : ∀ (heap : Heap) (content : List Datum),
    heap.Extends (heap.storeAll content).2 ∧
      ∀ element ∈ (heap.storeAll content).1, element.Below (heap.storeAll content).2.size
  | heap, [] => by
    rw [storeAll]
    exact ⟨heap.extends_refl, fun _ member => nomatch member⟩
  | heap, datum :: rest => by
    obtain ⟨first, stored⟩ := extends_store heap datum
    obtain ⟨others, below⟩ := extends_storeAll (heap.store datum).2 rest
    rw [storeAll]
    refine ⟨first.trans others, fun element member => ?_⟩
    rcases List.mem_cons.mp member with rfl | inside
    · exact stored.mono others.size
    · exact below element inside

end

theorem size_change (heap : Heap) (handle : Nat) (edit : List Value → List Value) :
    (heap.change handle edit).size = heap.size :=
  Array.size_modify ..

theorem items_change (heap : Heap) (handle other : Nat) (edit : List Value → List Value) :
    (heap.change handle edit).items other =
      if other = handle ∧ other < heap.size then edit (heap.items other) else heap.items other := by
  simp only [items, change, size, Array.getD_eq_getD_getElem?, Array.getElem?_modify]
  by_cases same : handle = other
  · subst same
    by_cases inside : handle < heap.cells.size <;> simp [inside]
  · simp [same, Ne.symm same]

/-- A list that is changed in place to hold lists that were made leaves a heap closed. It may hold
itself then. -/
theorem closed_change {heap : Heap} (closed : heap.Closed) {handle : Nat}
    {edit : List Value → List Value}
    (below : ∀ value ∈ edit (heap.items handle), value.Below heap.size) :
    (heap.change handle edit).Closed := by
  intro other value member
  rw [size_change]
  rw [items_change] at member
  split at member
  next changed => exact below value (changed.1 ▸ member)
  next => exact closed other value member

/-- So does a value that is appended in place, if its lists were made. -/
theorem closed_append {heap : Heap} (closed : heap.Closed) (handle : Nat) {element : Value}
    (below : element.Below heap.size) : (heap.append handle element).Closed := by
  refine closed_change closed fun value member => ?_
  rcases List.mem_append.mp member with old | new
  · exact closed handle value old
  · rw [List.mem_singleton.mp new]
    exact below

/-! ### No list contains itself -/

/-- A list is an element of another. -/
def Holds (heap : Heap) (outer inner : Nat) : Prop :=
  .list inner ∈ heap.items outer

/-- What a list reaches through its elements is older than the list. -/
theorem Ordered.lt_of_reaches {heap : Heap} (ordered : heap.Ordered) {outer inner : Nat}
    (reaches : Relation.TransGen heap.Holds outer inner) : inner < outer := by
  induction reaches with
  | single holds => exact ordered _ _ holds
  | tail _ holds older => exact Nat.lt_trans (ordered _ _ holds) older

theorem Ordered.acyclic {heap : Heap} (ordered : heap.Ordered) (handle : Nat) :
    ¬Relation.TransGen heap.Holds handle handle :=
  fun reaches => Nat.lt_irrefl handle (ordered.lt_of_reaches reaches)

/-! ### Following lists to their elements -/

section

variable {Item Result : Type}

/-- Answers that are sought for each of some things are all found if each of them is. -/
theorem isSome_mapM {answer? : Item → Option Result} {items : List Item}
    (each : ∀ item ∈ items, (answer? item).isSome) : (items.mapM answer?).isSome := by
  induction items with
  | nil => rfl
  | cons item rest hypothesis =>
    obtain ⟨first, found⟩ := Option.isSome_iff_exists.mp (each item List.mem_cons_self)
    obtain ⟨others, all⟩ := Option.isSome_iff_exists.mp
      (hypothesis fun other member => each other (List.mem_cons_of_mem _ member))
    rw [List.mapM_cons, found, all]
    rfl

theorem isSome_allM {answer? : Item → Option Bool} {items : List Item}
    (each : ∀ item ∈ items, (answer? item).isSome) : (items.allM answer?).isSome := by
  induction items with
  | nil => rfl
  | cons item rest hypothesis =>
    obtain ⟨first, found⟩ := Option.isSome_iff_exists.mp (each item List.mem_cons_self)
    have others := hypothesis fun other member => each other (List.mem_cons_of_mem _ member)
    rw [List.allM, found]
    cases first with
    | true => exact others
    | false => rfl

/-- Where each answer that is found is found in another way as well, so are all of them. -/
theorem mapM_eq_some_of_forall {answer? other? : Item → Option Result}
    (same : ∀ item result, answer? item = some result → other? item = some result)
    {items : List Item} {results : List Result} (found : items.mapM answer? = some results) :
    items.mapM other? = some results := by
  induction items generalizing results with
  | nil => exact found
  | cons item rest hypothesis =>
    rw [List.mapM_cons] at found ⊢
    obtain ⟨first, one, found⟩ := Option.bind_eq_some_iff.mp found
    obtain ⟨others, all, found⟩ := Option.bind_eq_some_iff.mp found
    rw [same item first one, hypothesis all]
    exact found

theorem allM_eq_some_of_forall {answer? other? : Item → Option Bool}
    (same : ∀ item result, answer? item = some result → other? item = some result)
    {items : List Item} {result : Bool} (found : items.allM answer? = some result) :
    items.allM other? = some result := by
  induction items with
  | nil => exact found
  | cons item rest hypothesis =>
    rw [List.allM] at found ⊢
    obtain ⟨first, one, found⟩ := Option.bind_eq_some_iff.mp found
    rw [same item first one]
    cases first with
    | true => exact hypothesis found
    | false => exact found

end

/-- An answer that is found within some depth is found within any greater one. -/
theorem equalWithin_of_le {heap : Heap} {depth more : Nat} (le : depth ≤ more)
    {left right : Value} {answer : Bool}
    (found : heap.equalWithin? depth left right = some answer) :
    heap.equalWithin? more left right = some answer := by
  induction depth generalizing more left right answer with
  | zero =>
    rw [equalWithin?] at found
    cases found
  | succ depth hypothesis =>
    obtain ⟨more, rfl⟩ := Nat.exists_eq_add_of_le le
    rw [Nat.add_right_comm]
    cases left with
    | list handle =>
      cases right with
      | list other =>
        rw [equalWithin?] at found ⊢
        split at found
        next same =>
          rw [if_pos same]
          exact allM_eq_some_of_forall (fun pair result one => hypothesis (by omega) one) found
        next different =>
          rw [if_neg different]
          exact found
      | none => exact found
      | int number => exact found
      | str text => exact found
    | none => cases right <;> exact found
    | int number => cases right <;> exact found
    | str text => cases right <;> exact found

theorem inspectWithin_of_le {heap : Heap} {depth more : Nat} (le : depth ≤ more) {value : Value}
    {answer : String} (found : heap.inspectWithin? depth value = some answer) :
    heap.inspectWithin? more value = some answer := by
  induction depth generalizing more value answer with
  | zero =>
    rw [inspectWithin?] at found
    cases found
  | succ depth hypothesis =>
    obtain ⟨more, rfl⟩ := Nat.exists_eq_add_of_le le
    rw [Nat.add_right_comm]
    cases value with
    | list handle =>
      rw [inspectWithin?] at found ⊢
      obtain ⟨elements, all, found⟩ := Option.bind_eq_some_iff.mp found
      rw [mapM_eq_some_of_forall (fun item result one => hypothesis (by omega) one) all]
      exact found
    | none => exact found
    | int number => exact found
    | str text => exact found

/-- The way down from a value to its elements is no longer than its age, nor longer than there are
lists. -/
theorem Ordered.below_of_mem {heap : Heap} (ordered : heap.Ordered) {depth handle : Nat}
    {element : Value} (enough : handle < depth ∨ heap.size ≤ depth)
    (member : element ∈ heap.items handle) : ∃ less, depth = less + 1 ∧ element.Below less := by
  have inside : handle < heap.size := by
    rcases Nat.lt_or_ge handle heap.size with inside | outside
    · exact inside
    · rw [items_of_size_le outside] at member
      cases member
  obtain ⟨less, rfl⟩ : ∃ less, depth = less + 1 := ⟨depth - 1, by omega⟩
  exact ⟨less, rfl, (ordered handle element member).mono (by omega)⟩

/-- A comparison goes no deeper than its first value is old. -/
theorem Ordered.isSome_equalWithin {heap : Heap} (ordered : heap.Ordered) {depth : Nat}
    {left right : Value} (enough : left.Below depth ∨ heap.size ≤ depth) :
    (heap.equalWithin? (depth + 1) left right).isSome := by
  induction depth using Nat.strongRecOn generalizing left right with
  | ind depth hypothesis =>
    cases left with
    | list handle =>
      cases right with
      | list other =>
        rw [equalWithin?]
        split
        next =>
          refine isSome_allM fun pair member => ?_
          obtain ⟨less, rfl, below⟩ := ordered.below_of_mem enough (List.of_mem_zip member).1
          exact hypothesis less (Nat.lt_succ_self less) (.inl below)
        next => rfl
      | none => rfl
      | int number => rfl
      | str text => rfl
    | none => cases right <;> rfl
    | int number => cases right <;> rfl
    | str text => cases right <;> rfl

theorem Ordered.isSome_inspectWithin {heap : Heap} (ordered : heap.Ordered) {depth : Nat}
    {value : Value} (enough : value.Below depth ∨ heap.size ≤ depth) :
    (heap.inspectWithin? (depth + 1) value).isSome := by
  induction depth using Nat.strongRecOn generalizing value with
  | ind depth hypothesis =>
    cases value with
    | list handle =>
      have elements : ((heap.items handle).mapM (heap.inspectWithin? depth)).isSome := by
        refine isSome_mapM fun element member => ?_
        obtain ⟨less, rfl, below⟩ := ordered.below_of_mem enough member
        exact hypothesis less (Nat.lt_succ_self less) (.inl below)
      obtain ⟨texts, all⟩ := Option.isSome_iff_exists.mp elements
      rw [inspectWithin?, all]
      rfl
    | none => rfl
    | int number => rfl
    | str text => rfl

/-- In an ordered heap a comparison has an answer, however deep it is let go. -/
theorem Ordered.equal {heap : Heap} (ordered : heap.Ordered) (left right : Value) :
    ∃ answer, heap.equal? left right = some answer ∧
      ∀ depth > heap.size, heap.equalWithin? depth left right = some answer := by
  have enough : left.Below heap.size ∨ heap.size ≤ heap.size := .inr (Nat.le_refl _)
  obtain ⟨answer, found⟩ := Option.isSome_iff_exists.mp (ordered.isSome_equalWithin enough)
  exact ⟨answer, equalWithin_of_le (Nat.succ_le_succ (Nat.le_mul_self heap.size)) found,
    fun depth deep => equalWithin_of_le deep found⟩

/-- In an ordered heap every value can be written out, however deep its lists may be followed. -/
theorem Ordered.inspect {heap : Heap} (ordered : heap.Ordered) (value : Value) :
    ∃ text, heap.inspect? value = some text ∧
      ∀ depth > heap.size, heap.inspectWithin? depth value = some text := by
  have enough : value.Below heap.size ∨ heap.size ≤ heap.size := .inr (Nat.le_refl _)
  obtain ⟨text, found⟩ := Option.isSome_iff_exists.mp (ordered.isSome_inspectWithin enough)
  exact ⟨text, found, fun depth deep => inspectWithin_of_le deep found⟩

end Heap

end Scriptling
