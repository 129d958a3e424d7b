/-
This file reads back what `range` writes. Its text is that of the first terms of a
progression, each of them a number of 64 bits, and since no number is written with
a comma, splitting the text at the separators gives the terms again.
-/

import Scriptling.Proofs.Builtin.Splitting
import Scriptling.Proofs.Integer.Progression

namespace Scriptling

namespace Progression

variable {start stop step : Int64} {bound full : Nat}

/-- The terms that are written are numbers of 64 bits. -/
theorem StopsAt.exists_numbers (stops : StopsAt start stop step bound full) :
    ∃ numbers : List Int64,
      numbers.map Int64.toInt = (List.range (min bound full)).map (term start step) := by
  refine ⟨(List.range (min bound full)).map fun index => Int64.ofInt (term start step index), ?_⟩
  rw [List.map_map]
  refine List.map_congr_left fun index member => ?_
  have fits := fits_term (stops.before_of_lt (Nat.lt_of_lt_of_le (List.mem_range.mp member)
    (Nat.min_le_left _ _)))
  obtain ⟨above, below⟩ := fits_iff.mp fits
  exact Int64.toInt_ofInt_of_le above below

/-- Numbers that are the first terms are written as these. -/
theorem joined_eq_of_numbers {numbers : List Int64} {count : Nat}
    (same : numbers.map Int64.toInt = (List.range count).map (term start step)) :
    joined start step count = (ascii ", ").intercalate (numbers.map Decimal.write) := by
  have written : numbers.map Decimal.write =
      (List.range count).map fun index => Decimal.writeInt (term start step index) := by
    have whole := congrArg (List.map Decimal.writeInt) same
    rw [List.map_map, List.map_map] at whole
    exact whole
  rw [written]
  rfl

end Progression

/-- What is written of numbers and joined by a comma and a space comes apart again. -/
theorem Decimal.pieces_written (numbers : List Int64) :
    pieces (ascii ", ") ((ascii ", ").intercalate (numbers.map write)) = numbers.map write := by
  have apart : Separable (ascii ", ") (numbers.map write) := by
    refine separable_of_notMem fun string member => ?_
    obtain ⟨number, -, rfl⟩ := List.mem_map.mp member
    exact ⟨writeInt_ne_nil _, comma_notMem_writeInt _⟩
  exact apart.pieces_intercalate (List.cons_ne_nil _ _)

/-- What `range` gives is the text of the first terms of the progression, in exact integers and in
decimal, joined by a comma and a space. There are as many as lie before the bound in the direction
of the step, but no more than it takes to fill the text up to its limit. All of them are numbers of
64 bits, the text has 513 bytes at most, and splitting it and converting each piece gives the terms
again. -/
theorem range_writes_first_terms (start stop step : Int64) :
    ∃ (bound full : Nat) (numbers : List Int64),
      IsLeast {index | ¬Progression.Before stop step (Progression.term start step index)} bound ∧
      IsLeast {count | 492 ≤ (Progression.joined start step count).length} full ∧
      numbers.map Int64.toInt =
        (List.range (min bound full)).map (Progression.term start step) ∧
      (Progression.joined start step (min bound full)).length ≤ 513 ∧
      ∀ world : World,
        Builtin.call .range [.int start, .int stop, .int step] world =
          .ok (.ofBytes (Progression.joined start step (min bound full))) world ∧
        Yields (do
          let text ← Builtin.call .range [.int start, .int stop, .int step]
          Builtin.call .split [text, .ofBytes (ascii ", ")]) world fun list after =>
            ∃ elements, after.HasList list elements ∧
              elements.map (fun element => Builtin.call .int [element] after) =
                numbers.map fun number => .ok (.int number) after := by
  obtain ⟨bound, full, stops⟩ := Progression.exists_stopsAt start stop step
  obtain ⟨numbers, same⟩ := stops.exists_numbers
  refine ⟨bound, full, numbers, stops.bound, stops.full, same, stops.length_joined_le,
    fun world => ?_⟩
  have ranges : Builtin.call .range [.int start, .int stop, .int step] world =
      .ok (.ofBytes (Progression.joined start step (min bound full))) world := by
    rw [← stops.write_eq]
    rfl
  refine ⟨ranges, (ends_bind_of_ok ranges).mpr ?_⟩
  have splits := @Builtin.yields_split world (ascii ", ")
    (Progression.joined start step (min bound full))
  rw [Progression.joined_eq_of_numbers same, Decimal.pieces_written] at splits
  rw [Progression.joined_eq_of_numbers same]
  refine splits.weaken fun list after holds => ⟨_, holds, ?_⟩
  rw [List.map_map, List.map_map]
  refine List.map_congr_left fun number _ => ?_
  show EStateM.Result.ok (Value.int (Decimal.read (Text.ofBytes (Decimal.write number)).bytes))
    after = _
  rw [Text.bytes_ofBytes, Decimal.read_write]

end Scriptling
