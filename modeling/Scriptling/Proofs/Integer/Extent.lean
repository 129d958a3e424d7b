/-
This file compares the extents of lists and strings with exact integers. A length
is added to negative indices only, and what is taken from a length lies inside of
it, so nothing leaves the numbers of 64 bits, and every extent lies in what it is
taken from. What stands in an extent is told by its places alone, and extents that
meet at a place lose nothing between them.
-/

import Mathlib.Data.List.Basic
import Scriptling.Integer.Extent
import Scriptling.Proofs.Integer.Fitting

namespace Scriptling.Extent

/-- The integer nearest to another that is a place in something of a length. -/
def nearest (length number : Int) : Int :=
  max 0 (min number length)

/-- The place that an index asks for. -/
def place (length : Int) (index : Int64) : Int :=
  nearest length (if index.toInt < 0 then index.toInt + length else index.toInt)

/-- An extent that lies in something of a length. -/
structure Inside (extent : Extent) (length : Int) : Prop where
  natural : 0 ≤ extent.start.toInt
  ordered : extent.start.toInt ≤ extent.stop.toInt
  ended : extent.stop.toInt ≤ length

/-! ### Places -/

theorem nearest_nonneg (length number : Int) : 0 ≤ nearest length number :=
  Int.le_max_left _ _

theorem nearest_le {length : Int} (natural : 0 ≤ length) (number : Int) :
    nearest length number ≤ length :=
  Int.max_le.mpr ⟨natural, Int.min_le_right _ _⟩

theorem place_zero {length : Int} (natural : 0 ≤ length) : place length 0 = 0 := by
  rw [place, Int64.toInt_zero, if_neg (Int.lt_irrefl 0), nearest, Int.min_eq_left natural]
  exact Int.max_self 0

theorem place_length {length : Nat} (fits : Fits length) : place length (.ofNat length) = length := by
  have natural : ¬(length : Int) < 0 := Int.not_lt.mpr (Int.natCast_nonneg length)
  rw [place, toInt_ofNat_of_fits fits, if_neg natural, nearest, Int.min_self]
  exact Int.max_eq_right (Int.natCast_nonneg length)

/-! ### Arithmetic -/

section

variable {length : Int64} (natural : 0 ≤ length.toInt)
include natural

theorem toInt_clamp (number : Int64) :
    (clamp length number).toInt = nearest length.toInt number.toInt := by
  simp only [clamp, nearest, Int64.lt_iff_toInt_lt, Int64.toInt_zero]
  split
  next below =>
    rw [Int64.toInt_zero]
    omega
  next =>
    split <;> omega

/-- Only a negative index is added to, so the sum is exact. -/
theorem toInt_wrap (index : Int64) : (wrap length index).toInt =
    if index.toInt < 0 then index.toInt + length.toInt else index.toInt := by
  have least := index.le_toInt
  have most := length.toInt_lt
  simp only [wrap, Int64.lt_iff_toInt_lt, Int64.toInt_zero]
  split
  next below => exact toInt_add_of_fits (fits_iff.mpr (by omega))
  next => rfl

theorem toInt_place (index : Int64) :
    (clamp length (wrap length index)).toInt = place length.toInt index := by
  rw [toInt_clamp natural, toInt_wrap natural]
  rfl

theorem toInt_start_ofIndices (start stop : Int64) :
    (ofIndices length start stop).start.toInt = place length.toInt start :=
  toInt_place natural start

theorem toInt_stop_ofIndices (start stop : Int64) : (ofIndices length start stop).stop.toInt =
    max (place length.toInt stop) (place length.toInt start) := by
  rw [← toInt_place natural, ← toInt_place natural]
  exact toInt_max _ _

theorem inside_ofIndices (start stop : Int64) :
    (ofIndices length start stop).Inside length.toInt where
  natural := by
    rw [toInt_start_ofIndices natural]
    exact nearest_nonneg _ _
  ordered := by
    rw [toInt_start_ofIndices natural, toInt_stop_ofIndices natural]
    exact Int.le_max_right _ _
  ended := by
    rw [toInt_stop_ofIndices natural]
    exact Int.max_le.mpr ⟨nearest_le natural _, nearest_le natural _⟩

theorem toInt_start_ofCount (start count : Int64) :
    (ofCount length start count).start.toInt = nearest length.toInt start.toInt :=
  toInt_clamp natural start

/-- How much is left after a place. -/
theorem toInt_sub_clamp (start : Int64) : (length - clamp length start).toInt =
    length.toInt - nearest length.toInt start.toInt := by
  have least := nearest_nonneg length.toInt start.toInt
  have most := nearest_le natural start.toInt
  have bound := length.toInt_lt
  rw [← toInt_clamp natural] at least most ⊢
  exact toInt_sub_of_fits (fits_iff.mpr (by omega))

/-- The number of items that are taken is added to the first place without leaving what they are
taken from. -/
theorem toInt_stop_ofCount (start count : Int64) :
    let first := nearest length.toInt start.toInt
    let many := nearest (length.toInt - first) count.toInt
    (ofCount length start count).stop.toInt = first + many ∧ 0 ≤ many ∧
      first + many ≤ length.toInt := by
  intro first many
  have left : 0 ≤ length.toInt - first := Int.sub_nonneg_of_le (nearest_le natural _)
  have atFirst : (clamp length start).toInt = first := toInt_clamp natural start
  have further : (clamp (length - clamp length start) count).toInt = many := by
    have leftOver := toInt_sub_clamp natural start
    rw [toInt_clamp (leftOver ▸ left), leftOver]
  have least : 0 ≤ first := nearest_nonneg _ _
  have more : 0 ≤ many := nearest_nonneg _ _
  have most : many ≤ length.toInt - first := nearest_le left _
  have bound := length.toInt_lt
  refine ⟨?_, more, by omega⟩
  rw [← atFirst, ← further]
  exact toInt_add_of_fits (fits_iff.mpr (by omega))

theorem inside_ofCount (start count : Int64) :
    (ofCount length start count).Inside length.toInt := by
  obtain ⟨stops, more, most⟩ := toInt_stop_ofCount natural start count
  have starts := toInt_start_ofCount natural start count
  refine ⟨?_, ?_, stops ▸ most⟩
  · rw [starts]
    exact nearest_nonneg _ _
  · rw [starts, stops]
    exact Int.le_add_of_nonneg_right more

end

/-! ### Items -/

variable {Item : Type}

/-- The items at the places from one up to another, in order. -/
def between (first last : Int) (items : List Item) : List Item :=
  (items.zipIdx.filter fun item => first ≤ item.2 ∧ item.2 < last).map Prod.fst

/-- Counting from a place on, these are the items left when those before are dropped and those after
are not taken. -/
theorem filter_zipIdx (first last : Int) (items : List Item) (offset : Nat) :
    ((items.zipIdx offset).filter fun item => first ≤ item.2 ∧ item.2 < last).map Prod.fst =
      (items.take (last - offset).toNat).drop (first - offset).toNat := by
  induction items generalizing offset with
  | nil => rw [List.take_nil, List.drop_nil]; rfl
  | cons item items hypothesis =>
    have rest := hypothesis (offset + 1)
    rw [List.zipIdx_cons, List.filter_cons]
    by_cases before : (offset : Int) < last
    · have room : (last - offset).toNat = (last - (offset + 1 : Nat)).toNat + 1 := by omega
      rw [room, List.take_succ_cons]
      by_cases reached : first ≤ (offset : Int)
      · have none : (first - offset).toNat = 0 := by omega
        have noneLeft : (first - (offset + 1 : Nat)).toNat = 0 := by omega
        rw [noneLeft] at rest
        rw [if_pos (decide_eq_true ⟨reached, before⟩), List.map_cons, rest, none]
        rfl
      · have more : (first - offset).toNat = (first - (offset + 1 : Nat)).toNat + 1 := by omega
        rw [if_neg (by simp [reached]), rest, more, List.drop_succ_cons]
    · have none : (last - offset).toNat = 0 := by omega
      have noneLeft : (last - (offset + 1 : Nat)).toNat = 0 := by omega
      rw [noneLeft] at rest
      rw [if_neg (by simp [before]), rest, none, List.take_zero, List.take_zero, List.drop_nil,
        List.drop_nil]

theorem between_eq (first last : Int) (items : List Item) :
    between first last items = (items.drop first.toNat).take (last.toNat - first.toNat) := by
  have all := filter_zipIdx first last items 0
  rw [Int.natCast_zero, Int.sub_zero, Int.sub_zero, List.drop_take] at all
  exact all

/-- What meets at a place is put together without loss. -/
theorem between_append_between {first middle last : Int} (ordered : first ≤ middle)
    (orderedToo : middle ≤ last) (items : List Item) :
    between first middle items ++ between middle last items = between first last items := by
  have sum : last.toNat - first.toNat =
      (middle.toNat - first.toNat) + (last.toNat - middle.toNat) := by omega
  have reached : first.toNat + (middle.toNat - first.toNat) = middle.toNat := by omega
  rw [between_eq, between_eq, between_eq, sum, List.take_add, List.drop_drop, reached]

theorem between_whole (items : List Item) : between 0 items.length items = items := by
  rw [between_eq]
  exact List.take_length

/-- From one index up to another stand the items at the places that the indices ask for. -/
theorem part_ofIndices {items : List Item} (fits : Fits items.length) (start stop : Int64) :
    (ofIndices (.ofNat items.length) start stop).part items =
      between (place items.length start) (place items.length stop) items := by
  have size := toInt_ofNat_of_fits fits
  have natural := toInt_ofNat_nonneg fits
  rw [part, toInt_start_ofIndices natural, toInt_stop_ofIndices natural, size, between_eq,
    List.extract_eq_take_drop]
  congr 1
  omega

/-- So many items from a place on are those that stand there, and no more than are asked for. -/
theorem part_ofCount {items : List Item} (fits : Fits items.length) (start count : Int64) :
    (ofCount (.ofNat items.length) start count).part items =
      (items.drop (nearest items.length start.toInt).toNat).take count.toInt.toNat := by
  have size := toInt_ofNat_of_fits fits
  have natural := toInt_ofNat_nonneg fits
  obtain ⟨stops, -, -⟩ := toInt_stop_ofCount natural start count
  rw [part, toInt_start_ofCount natural, stops, size, List.extract_eq_take_drop,
    List.take_eq_take_iff, List.length_drop]
  unfold nearest
  omega

/-- Up to a number and from it on there are all items together. -/
theorem part_append_part {items : List Item} (fits : Fits items.length) (number : Int64) :
    (ofCount (.ofNat items.length) 0 number).part items ++
      (ofCount (.ofNat items.length) number (.ofNat items.length)).part items = items := by
  have front : items.take number.toInt.toNat =
      items.take (nearest items.length number.toInt).toNat := by
    rw [List.take_eq_take_iff]
    unfold nearest
    omega
  have back : ((items.drop (nearest items.length number.toInt).toNat).take items.length) =
      items.drop (nearest items.length number.toInt).toNat :=
    List.take_of_length_le (List.length_drop ▸ Nat.sub_le _ _)
  rw [part_ofCount fits, part_ofCount fits, Int64.toInt_zero, toInt_ofNat_of_fits fits,
    Int.toNat_natCast, back]
  have start : (nearest items.length 0).toNat = 0 := by
    unfold nearest
    omega
  rw [start, List.drop_zero, front]
  exact List.take_append_drop _ _

end Scriptling.Extent
