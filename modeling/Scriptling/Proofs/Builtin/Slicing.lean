/-
This file takes lists and strings apart and puts them together again. Slicing a
list and taking a part of a string give what stands in an extent, for any numbers
at all, and two parts that meet at a place are put together to what reaches over
both.
-/

import Scriptling.Operators
import Scriptling.Proofs.Builtin.Lists
import Scriptling.Proofs.Integer.Extent

namespace Scriptling

open Extent

variable {world : World} {list : Value} {elements : List Value}

namespace Builtin

/-- The length of a list. -/
theorem call_len_list (holds : world.HasList list elements) :
    Builtin.call .len [list] world = .ok (.int (.ofNat elements.length)) world := by
  obtain ⟨handle, rfl, -, items⟩ := holds
  rw [← items]
  rfl

/-- Slicing a list makes a list of what stands between the places. -/
theorem yields_slice (holds : world.HasList list elements) (fits : Fits elements.length)
    (start stop : Int64) :
    Yields (Builtin.call .slice [list, .int start, .int stop]) world fun part after =>
      after.HasList part
        (between (place elements.length start) (place elements.length stop) elements) ∧
      world.Keeps after := by
  obtain ⟨handle, rfl, -, items⟩ := holds
  refine Builtin.yields_list ?_
  show Answer.list (cut (world.heap.items handle) start stop) = _
  rw [items, cut, part_ofIndices fits]

/-- Putting two lists together makes a list of the elements of both. -/
theorem yields_concat {other : Value} {others : List Value} (holds : world.HasList list elements)
    (otherHolds : world.HasList other others) :
    Yields (Builtin.call .concat [list, other]) world fun whole after =>
      after.HasList whole (elements ++ others) ∧ world.Keeps after := by
  obtain ⟨handle, rfl, -, items⟩ := holds
  obtain ⟨otherHandle, rfl, -, otherItems⟩ := otherHolds
  refine Builtin.yields_list ?_
  show Answer.list (world.heap.items handle ++ world.heap.items otherHandle) = _
  rw [items, otherItems]

/-- Two slices that meet are put together to the elements between the outer places. -/
theorem yields_concat_slices (holds : world.HasList list elements)
    (fits : Fits elements.length) {start middle stop : Int64}
    (ordered : place elements.length start ≤ place elements.length middle)
    (orderedToo : place elements.length middle ≤ place elements.length stop) :
    Yields (do
      let front ← Builtin.call .slice [list, .int start, .int middle]
      let back ← Builtin.call .slice [list, .int middle, .int stop]
      Builtin.call .concat [front, back]) world fun whole after =>
        after.HasList whole
          (between (place elements.length start) (place elements.length stop) elements) := by
  refine yields_bind.mpr ((yields_slice holds fits start middle).weaken fun front after made => ?_)
  have stays := made.2.lists _ _ holds
  refine yields_bind.mpr ((yields_slice stays fits middle stop).weaken fun back later found => ?_)
  have joins := yields_concat (found.2.lists _ _ made.1) found.1
  rw [between_append_between ordered orderedToo] at joins
  exact joins.weaken fun whole last joined => joined.1

/-- Slices up to an index and from it on are put together to the whole list. -/
theorem yields_concat_halves (holds : world.HasList list elements)
    (fits : Fits elements.length) (index : Int64) :
    Yields (do
      let length ← Builtin.call .len [list]
      let front ← Builtin.call .slice [list, .int 0, .int index]
      let back ← Builtin.call .slice [list, .int index, length]
      Builtin.call .concat [front, back]) world fun whole after =>
        after.HasList whole elements := by
  have natural := Int.natCast_nonneg elements.length
  have first : place elements.length 0 = 0 := place_zero natural
  have last : place elements.length (.ofNat elements.length) = elements.length := place_length fits
  have above : place elements.length 0 ≤ place elements.length index := by
    rw [first]
    exact nearest_nonneg _ _
  have below : place elements.length index ≤ place elements.length (.ofNat elements.length) := by
    rw [last]
    exact nearest_le natural _
  have joins := yields_concat_slices holds fits above below
  rw [first, last, between_whole] at joins
  exact (ends_bind_of_ok (call_len_list holds)).mpr joins

/-- A part of a string is what stands in the extent. -/
theorem call_substr (text : Text) (start count : Int64) :
    Builtin.call .substr [.str text, .int start, .int count] world =
      .ok (.ofBytes ((ofCount (.ofNat text.length) start count).part text.bytes)) world := by
  rw [Text.length_eq]
  rfl

/-- Parts of a string up to a number and from it on are added up to the string. -/
theorem yields_add_halves {text : Text} (fits : Fits text.length) (number : Int64) :
    Yields (do
      let length ← Builtin.call .len [.str text]
      let front ← Builtin.call .substr [.str text, .int 0, .int number]
      let back ← Builtin.call .substr [.str text, .int number, length]
      return BinaryOperator.add.apply (← get).heap front back) world
        fun whole _ => whole = .str text := by
  have length : Builtin.call .len [.str text] world = .ok (.int (.ofNat text.length)) world := rfl
  refine (ends_bind_of_ok length).mpr ((ends_bind_of_ok (call_substr _ _ _)).mpr
    ((ends_bind_of_ok (call_substr _ _ _)).mpr (congrArg Value.str (Text.bytes_injective ?_))))
  rw [Text.length_eq] at fits ⊢
  rw [Text.bytes_append, Text.bytes_ofBytes, Text.bytes_ofBytes, part_append_part fits]

end Builtin

/-- Slices and parts of strings lose nothing. However large or small the numbers are, no sum leaves
the numbers of 64 bits and what is taken lies inside. A slice holds the elements at the places from
the one that the first index asks for up to the one that the other asks for. So slices that meet are
put together to what the outer indices give, and those up to an index and from it on to the list
itself. A part of a string is what stands from the place nearest to the number on, cut to so many
bytes, and those up to a number and from it on are added up to the string. -/
theorem slices_and_substrings_lose_nothing (world : World) :
    (∀ (list : Value) (elements : List Value), world.HasList list elements →
      Fits elements.length →
        (∀ index : Int64, (wrap (.ofNat elements.length) index).toInt =
          if index.toInt < 0 then index.toInt + elements.length else index.toInt) ∧
        (∀ start stop : Int64,
          (ofIndices (.ofNat elements.length) start stop).Inside elements.length ∧
          Yields (Builtin.call .slice [list, .int start, .int stop]) world fun part after =>
            after.HasList part
              (between (place elements.length start) (place elements.length stop) elements)) ∧
        (∀ start middle stop : Int64,
          place elements.length start ≤ place elements.length middle →
          place elements.length middle ≤ place elements.length stop →
            Yields (do
              let front ← Builtin.call .slice [list, .int start, .int middle]
              let back ← Builtin.call .slice [list, .int middle, .int stop]
              Builtin.call .concat [front, back]) world fun whole after =>
                after.HasList whole
                  (between (place elements.length start) (place elements.length stop) elements)) ∧
        ∀ index : Int64, Yields (do
          let length ← Builtin.call .len [list]
          let front ← Builtin.call .slice [list, .int 0, .int index]
          let back ← Builtin.call .slice [list, .int index, length]
          Builtin.call .concat [front, back]) world fun whole after =>
            after.HasList whole elements) ∧
    ∀ text : Text, Fits text.length →
      (∀ start count : Int64,
        (ofCount (.ofNat text.length) start count).Inside text.length ∧
        Builtin.call .substr [.str text, .int start, .int count] world =
          .ok (.ofBytes ((text.bytes.drop (nearest text.length start.toInt).toNat).take
            count.toInt.toNat)) world) ∧
      ∀ index : Int64, Yields (do
        let length ← Builtin.call .len [.str text]
        let front ← Builtin.call .substr [.str text, .int 0, .int index]
        let back ← Builtin.call .substr [.str text, .int index, length]
        return BinaryOperator.add.apply (← get).heap front back) world
          fun whole _ => whole = .str text := by
  refine ⟨fun list elements holds fits => ?_, fun text fits =>
    ⟨fun start count => ?_, Builtin.yields_add_halves fits⟩⟩
  · have size := toInt_ofNat_of_fits fits
    have natural := toInt_ofNat_nonneg fits
    exact ⟨fun index => size ▸ toInt_wrap natural index, fun start stop =>
      ⟨size ▸ inside_ofIndices natural start stop,
        (Builtin.yields_slice holds fits start stop).weaken fun part after made => made.1⟩,
      fun start middle stop => Builtin.yields_concat_slices holds fits,
      Builtin.yields_concat_halves holds fits⟩
  · have size := toInt_ofNat_of_fits fits
    have natural := toInt_ofNat_nonneg fits
    refine ⟨size ▸ inside_ofCount natural start count, ?_⟩
    rw [Builtin.call_substr, Text.length_eq, part_ofCount (Text.length_eq text ▸ fits)]

/-- An index may wrap or lie beyond all places, and a string may be shorter than what is asked for. -/
theorem three_elements_and_letters_are_cut :
    let elements : List Value := [.int 10, .int 20, .int 30]
    let world : World := ⟨⟨#[elements]⟩, Streams.reliable []⟩
    let text := Text.ofBytes (ascii "abc")
    Yields (Builtin.call .slice [.list 0, .int (-2), .int Int64.maxValue]) world
      (fun part after => after.HasList part [.int 20, .int 30]) ∧
    Yields (do
      let front ← Builtin.call .slice [.list 0, .int Int64.minValue, .int (-1)]
      let back ← Builtin.call .slice [.list 0, .int (-1), .int 3]
      Builtin.call .concat [front, back]) world
      (fun whole after => after.HasList whole elements) ∧
    Builtin.call .substr [.str text, .int 1, .int Int64.maxValue] world =
      .ok (.ofBytes (ascii "bc")) world := by
  intro elements world text
  obtain ⟨lists, texts⟩ := slices_and_substrings_lose_nothing world
  obtain ⟨-, slices, joins, -⟩ := lists (.list 0) elements ⟨0, rfl, by decide, rfl⟩ (by decide)
  exact ⟨(slices (-2) Int64.maxValue).2, joins Int64.minValue (-1) 3 (by decide) (by decide),
    ((texts text (by decide)).1 1 Int64.maxValue).2⟩

end Scriptling
