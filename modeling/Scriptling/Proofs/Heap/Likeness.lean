/-
This file compares the lists of two heaps. Lists of the one stand for lists of
the other if their elements do, all the way down. What cannot be told apart by
following lists in that way denotes the same, whatever the numbers of the lists
are and however they are shared.

All that is ever read off a value is its kind, the number or the string it is,
or the elements of the list it is. So no operator and no builtin can tell two
heaps apart in which values stand for each other. Lists that are made on both
sides at the same time are made of values that stand for each other, and from
then on they stand for each other themselves.
-/

import Mathlib.Data.List.Forall2
import Scriptling.Proofs.Heap.Answers

namespace Scriptling

/-! ### Values of two heaps -/

/-- Two values are equal, or they are lists that stand for each other. -/
inductive Value.Alike (pairs : Nat → Nat → Prop) : Value → Value → Prop
  | none : Alike pairs .none .none
  | int (number : Int64) : Alike pairs (.int number) (.int number)
  | str (text : Text) : Alike pairs (.str text) (.str text)
  | list {one two : Nat} : pairs one two → Alike pairs (.list one) (.list two)

namespace Value

variable {pairs : Nat → Nat → Prop} {first second : Value}

theorem Alike.mono (alike : first.Alike pairs second) {more : Nat → Nat → Prop}
    (le : ∀ one two, first = .list one → second = .list two → pairs one two → more one two) :
    first.Alike more second := by
  cases alike with
  | none => exact .none
  | int number => exact .int number
  | str text => exact .str text
  | list paired => exact .list (le _ _ rfl rfl paired)

/-- What is no list is alike in any two heaps. -/
theorem alike_of_below {value : Value} (below : value.Below 0) : value.Alike pairs value := by
  cases value with
  | none => exact .none
  | int number => exact .int number
  | str text => exact .str text
  | list handle => exact absurd below (Nat.not_lt_zero handle)

theorem Alike.int? (alike : first.Alike pairs second) : first.int? = second.int? := by
  cases alike <;> rfl

theorem Alike.bytes (alike : first.Alike pairs second) :
    Builtin.bytesOrNone first = Builtin.bytesOrNone second := by
  cases alike <;> rfl

/-- Inside a list, another list shows only that it is one. -/
theorem Alike.renderNested (alike : first.Alike pairs second) :
    Heap.renderNested first = Heap.renderNested second := by
  cases alike <;> rfl

theorem alike_getD {found other : Option Value} (alike : Option.Rel (Alike pairs) found other) :
    (found.getD .none).Alike pairs (other.getD .none) := by
  cases alike with
  | none => exact .none
  | some alike => exact alike

end Value

section

variable {First Second Result : Type} {related : First → Second → Prop} {items : List First}
  {twins : List Second}

theorem map_congr_forall₂ {read : First → Result} {other : Second → Result}
    (alike : List.Forall₂ related items twins)
    (same : ∀ item twin, related item twin → read item = other twin) :
    items.map read = twins.map other := by
  rw [← List.forall₂_eq_eq_eq]
  exact List.rel_map (fun item twin => same item twin) alike

theorem forall₂_getElem? (alike : List.Forall₂ related items twins) (index : Nat) :
    Option.Rel related items[index]? twins[index]? := by
  induction alike generalizing index with
  | nil => exact .none
  | cons head _ hypothesis =>
    cases index with
    | zero => exact .some head
    | succ index => exact hypothesis index

end

namespace Heap

/-! ### Heaps whose lists stand for each other -/

/-- Lists that stand for each other have as many elements, and these are alike. -/
def Matched (pairs : Nat → Nat → Prop) (first second : Heap) : Prop :=
  ∀ one two, pairs one two →
    List.Forall₂ (Value.Alike pairs) (first.items one) (second.items two)

/-- Two values denote the same, each in its own heap: they are alike for some lists that stand for
each other. -/
def Same (first second : Heap) (value twin : Value) : Prop :=
  ∃ pairs, Matched pairs first second ∧ value.Alike pairs twin

theorem same_refl (heap : Heap) (value : Value) : heap.Same heap value value := by
  have self (value : Value) : value.Alike Eq value := by
    cases value with
    | list handle => exact .list rfl
    | _ => constructor
  refine ⟨Eq, ?_, self value⟩
  rintro one _ rfl
  exact List.forall₂_same.mpr fun element _ => self element

variable {first second : Heap}

/-- Lists that denote the same have elements that denote the same. -/
theorem Same.items {one two : Nat} (same : first.Same second (.list one) (.list two)) :
    List.Forall₂ (first.Same second) (first.items one) (second.items two) := by
  obtain ⟨pairs, matched, alike⟩ := same
  cases alike with
  | list paired => exact (matched one two paired).imp fun _ _ alike => ⟨pairs, matched, alike⟩

/-- Where two values denote the same, following them to some depth gives the same data, or they
nest more deeply on both sides. -/
theorem Same.datumWithin {value twin : Value} (same : first.Same second value twin) (depth : Nat) :
    first.datumWithin? depth value = second.datumWithin? depth twin := by
  obtain ⟨pairs, matched, alike⟩ := same
  induction depth generalizing value twin with
  | zero => rfl
  | succ depth hypothesis =>
    cases alike with
    | none => rfl
    | int number => rfl
    | str text => rfl
    | @list one two paired =>
      have elements := map_congr_forall₂ (matched one two paired) fun _ _ => hypothesis
      have all := congrArg (List.mapM id) elements
      rw [List.mapM_map, List.mapM_map] at all
      rw [datumWithin?, datumWithin?]
      exact congrArg (fun found => found.bind fun elements => some (Datum.list elements)) all

/-! ### What is read off values -/

section

variable {pairs : Nat → Nat → Prop} (matched : Matched pairs first second)

include matched

theorem Matched.isTruthy {value twin : Value} (alike : value.Alike pairs twin) :
    first.isTruthy value = second.isTruthy twin := by
  cases alike with
  | none => rfl
  | int number => rfl
  | str text => rfl
  | @list one two paired =>
    have lengths := (matched one two paired).length_eq
    rw [Heap.isTruthy, Heap.isTruthy, Bool.eq_iff_iff]
    simp only [Bool.not_eq_true', ← Bool.not_eq_true, List.isEmpty_iff_length_eq_zero, lengths]

theorem Matched.render {value twin : Value} (alike : value.Alike pairs twin) :
    first.render value = second.render twin := by
  cases alike with
  | none => rfl
  | int number => rfl
  | str text => rfl
  | @list one two paired =>
    rw [Heap.render, Heap.render,
      map_congr_forall₂ (matched one two paired) fun _ _ alike => alike.renderNested]

theorem Matched.subscript {target index other twin : Value} (targets : target.Alike pairs other)
    (indices : index.Alike pairs twin) :
    (first.subscript target index).Alike pairs (second.subscript other twin) := by
  cases targets with
  | @list one two paired =>
    cases indices with
    | int number =>
      rw [Heap.subscript, Heap.subscript]
      split
      next => exact Value.alike_getD (forall₂_getElem? (matched one two paired) _)
      next => exact .none
    | none => exact .none
    | str text => exact .none
    | list _ => exact .none
  | none => exact .none
  | int number => exact .none
  | str text => exact .none

end

end Heap

theorem BinaryOperator.alike_apply {first second : Heap} {pairs : Nat → Nat → Prop}
    (matched : Heap.Matched pairs first second) (operator : BinaryOperator)
    {left right other twin : Value} (lefts : left.Alike pairs other)
    (rights : right.Alike pairs twin) :
    (operator.apply first left right).Alike pairs (operator.apply second other twin) := by
  have same : operator.apply first left right = operator.apply second other twin := by
    by_cases logical : operator = .and ∨ operator = .or
    · rcases logical with rfl | rfl
      · simp only [BinaryOperator.apply, matched.isTruthy lefts, matched.isTruthy rights]
      · simp only [BinaryOperator.apply, matched.isTruthy lefts, matched.isTruthy rights]
    · cases lefts <;> cases rights <;> cases operator <;> first | rfl | simp at logical
  rw [← same]
  exact Value.alike_of_below (operator.below_apply _ _ _ _)

theorem UnaryOperator.alike_apply {pairs : Nat → Nat → Prop} (operator : UnaryOperator)
    {operand twin : Value} (alike : operand.Alike pairs twin) :
    (operator.apply operand).Alike pairs (operator.apply twin) := by
  have same : operator.apply operand = operator.apply twin := by
    cases alike with
    | list _ => cases operator <;> rfl
    | _ => rfl
  rw [← same]
  exact Value.alike_of_below (operator.below_apply _ _)

/-! ### Builtins -/

/-- Two answers are made of values that are alike. -/
inductive Answer.Alike (pairs : Nat → Nat → Prop) : Answer → Answer → Prop
  | value {known twin : Value} : known.Alike pairs twin →
    Alike pairs (.value known) (.value twin)
  | list {elements twins : List Value} : List.Forall₂ (Value.Alike pairs) elements twins →
    Alike pairs (.list elements) (.list twins)

namespace Builtin

variable {pairs : Nat → Nat → Prop} {first second : Heap} {arguments twins : List Value}

/-- The numbers among some values. -/
theorem numbers_eq (alike : List.Forall₂ (Value.Alike pairs) arguments twins) :
    arguments.filterMap Value.int? = twins.filterMap Value.int? := by
  have numbers := congrArg (List.filterMap id)
    (map_congr_forall₂ alike fun _ _ => Value.Alike.int?)
  rw [List.filterMap_map, List.filterMap_map] at numbers
  exact numbers

theorem alike_extremeOf (prefers : Int64 → Int64 → Bool)
    (alike : List.Forall₂ (Value.Alike pairs) arguments twins) :
    (extremeOf prefers arguments).Alike pairs (extremeOf prefers twins) := by
  cases alike with
  | nil => exact .value .none
  | cons head tail =>
    cases head with
    | int number =>
      rw [extremeOf, extremeOf, numbers_eq tail]
      exact .value (.int _)
    | none => exact .value .none
    | str text => exact .value .none
    | list _ => exact .value .none

theorem alike_findOf (alike : List.Forall₂ (Value.Alike pairs) arguments twins) :
    (findOf arguments).Alike pairs (findOf twins) := by
  rcases alike with _ | ⟨text, _ | ⟨needle, _ | ⟨_, _⟩⟩⟩
  · exact .value .none
  · cases text <;> exact .value .none
  · cases text with
    | str text =>
      cases needle with
      | str needle =>
        unfold findOf
        dsimp only
        split
        next => exact .value (.int _)
        next => exact .value (.int _)
      | _ => exact .value (.int _)
    | _ => cases needle <;> exact .value (.int _)
  · cases text <;> cases needle <;> exact .value .none

theorem alike_splitBy (separator : Bytes) {text twin : Value} (alike : text.Alike pairs twin) :
    (splitBy separator text).Alike pairs (splitBy separator twin) := by
  cases alike with
  | str text =>
    refine .list (List.forall₂_same.mpr fun piece member => ?_)
    obtain ⟨bytes, -, rfl⟩ := List.mem_map.mp member
    exact .str _
  | none => exact .value .none
  | int number => exact .value .none
  | list _ => exact .value .none

section

variable (matched : Heap.Matched pairs first second)

include matched

theorem alike_lenOf (alike : List.Forall₂ (Value.Alike pairs) arguments twins) :
    (lenOf first arguments).Alike pairs (lenOf second twins) := by
  cases alike with
  | nil => exact .value .none
  | cons head tail =>
    cases tail with
    | cons _ _ => cases head <;> exact .value .none
    | nil =>
      cases head with
      | none => exact .value .none
      | int number => exact .value .none
      | str text => exact .value (.int _)
      | list paired =>
        rw [lenOf, lenOf, (matched _ _ paired).length_eq]
        exact .value (.int _)

theorem alike_sumOf (alike : List.Forall₂ (Value.Alike pairs) arguments twins) :
    (sumOf first arguments).Alike pairs (sumOf second twins) := by
  have totals {values others : List Value}
      (alike : List.Forall₂ (Value.Alike pairs) values others) : total values = total others :=
    congrArg (List.foldl (· + ·) 0) (numbers_eq alike)
  have whole {values others : List Value}
      (alike : List.Forall₂ (Value.Alike pairs) values others) :
      Answer.Alike pairs (.int (total values)) (.int (total others)) := by
    rw [totals alike]
    exact .value (.int _)
  cases alike with
  | nil => exact .value (.int _)
  | cons head tail =>
    cases tail with
    | nil =>
      cases head with
      | list paired => exact whole (matched _ _ paired)
      | none => exact .value (.int _)
      | int number => exact .value (.int _)
      | str text => exact .value (.int _)
    | cons second rest =>
      have numbers := whole (.cons head (.cons second rest))
      cases head <;> exact numbers

theorem alike_joinOf (alike : List.Forall₂ (Value.Alike pairs) arguments twins) :
    (joinOf first arguments).Alike pairs (joinOf second twins) := by
  rcases alike with _ | ⟨separator, _ | ⟨content, _ | ⟨_, _⟩⟩⟩
  · exact .value .none
  · exact .value .none
  · cases content with
    | list paired =>
      rw [joinOf, joinOf, separator.bytes,
        map_congr_forall₂ (matched _ _ paired) fun _ _ => Value.Alike.bytes]
      exact .value (.str _)
    | none => exact .value .none
    | int number => exact .value .none
    | str text => exact .value .none
  · cases content <;> exact .value .none

theorem alike_sliceOf (alike : List.Forall₂ (Value.Alike pairs) arguments twins) :
    (sliceOf first arguments).Alike pairs (sliceOf second twins) := by
  rcases alike with _ | ⟨content, _ | ⟨start, _ | ⟨stop, _ | ⟨_, _⟩⟩⟩⟩
  · exact .value .none
  · cases content <;> exact .value .none
  · cases content <;> cases start <;> exact .value .none
  · cases content with
    | list paired =>
      cases start with
      | int start =>
        cases stop with
        | int stop =>
          have elements := matched _ _ paired
          rw [sliceOf, sliceOf, cut, cut, elements.length_eq]
          exact .list (List.forall₂_take _ (List.forall₂_drop _ elements))
        | _ => exact .value .none
      | _ => exact .value .none
    | _ => exact .value .none
  · cases content <;> cases start <;> cases stop <;> exact .value .none

theorem alike_pushOf (alike : List.Forall₂ (Value.Alike pairs) arguments twins) :
    (pushOf first arguments).Alike pairs (pushOf second twins) := by
  rcases alike with _ | ⟨content, _ | ⟨element, _ | ⟨_, _⟩⟩⟩
  · exact .value .none
  · cases content <;> exact .value .none
  · cases content with
    | list paired => exact .list (List.rel_append (matched _ _ paired) (.cons element .nil))
    | _ => exact .value .none
  · cases content <;> exact .value .none

theorem alike_concatOf (alike : List.Forall₂ (Value.Alike pairs) arguments twins) :
    (concatOf first arguments).Alike pairs (concatOf second twins) := by
  rcases alike with _ | ⟨content, _ | ⟨other, _ | ⟨_, _⟩⟩⟩
  · exact .value .none
  · cases content <;> exact .value .none
  · cases content with
    | list paired =>
      cases other with
      | list twin => exact .list (List.rel_append (matched _ _ paired) (matched _ _ twin))
      | _ => exact .value .none
    | _ => exact .value .none
  · cases content <;> cases other <;> exact .value .none

/-- A builtin answers alike in two heaps. -/
theorem alike_answer (builtin : Builtin)
    (alike : List.Forall₂ (Value.Alike pairs) arguments twins) :
    (builtin.answer first arguments).Alike pairs (builtin.answer second twins) := by
  cases builtin
  case print | input => exact .value .none
  case len => exact alike_lenOf matched alike
  case sum => exact alike_sumOf matched alike
  case join => exact alike_joinOf matched alike
  case slice => exact alike_sliceOf matched alike
  case push => exact alike_pushOf matched alike
  case concat => exact alike_concatOf matched alike
  case split =>
    rcases alike with _ | ⟨text, _ | ⟨separator, _ | ⟨_, _⟩⟩⟩
    · exact .value .none
    · exact alike_splitBy [] text
    · unfold Builtin.answer splitOf
      dsimp only
      rw [separator.bytes]
      exact alike_splitBy _ text
    · exact .value .none
  -- None of the others looks into a list.
  case max | min => exact alike_extremeOf _ alike
  case find => exact alike_findOf alike
  case str | int | abs | type | tolower | toupper | ord | chr =>
    rcases alike with _ | ⟨argument, _ | ⟨_, _⟩⟩
    · exact .value (by constructor)
    · cases argument <;> exact .value (by constructor)
    · cases argument <;> exact .value (by constructor)
  case pow | startswith | endswith =>
    rcases alike with _ | ⟨left, _ | ⟨right, _ | ⟨_, _⟩⟩⟩
    · exact .value .none
    · cases left <;> exact .value .none
    · cases left <;> cases right <;> exact .value (by constructor)
    · cases left <;> cases right <;> exact .value .none
  case range | substr =>
    rcases alike with _ | ⟨one, _ | ⟨two, _ | ⟨three, _ | ⟨_, _⟩⟩⟩⟩
    · exact .value .none
    · cases one <;> exact .value (by constructor)
    · cases one <;> cases two <;> exact .value (by constructor)
    · cases one <;> cases two <;> cases three <;> exact .value (by constructor)
    · cases one <;> cases two <;> cases three <;> exact .value .none

end

end Builtin

end Scriptling
