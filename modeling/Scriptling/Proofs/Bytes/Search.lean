/-
This file says where one text stands inside another. A place is told by what is
before it, so places in a text are places in whatever goes on before or after it,
and only a text that reaches past the end of another may stand in the longer one
alone. The search finds the first place, and it finds none only where there is
none.
-/

import Scriptling.Bytes.Search

namespace Scriptling

/-- A text stands at a place in another. -/
def StandsAt (needle text : Bytes) (place : Nat) : Prop :=
  ∃ before after, text = before ++ (needle ++ after) ∧ before.length = place

/-- From a start on, a place is the first at which a text stands in another. -/
structure FirstFrom (needle text : Bytes) (start place : Nat) : Prop where
  inside : start ≤ place
  stands : StandsAt needle text place
  first : ∀ earlier, start ≤ earlier → earlier < place → ¬StandsAt needle text earlier

/-! ### Places -/

theorem standsAt_zero {needle text : Bytes} : StandsAt needle text 0 ↔ needle <+: text := by
  constructor
  · rintro ⟨before, after, rfl, none⟩
    rw [List.eq_nil_of_length_eq_zero none]
    exact List.prefix_append needle after
  · rintro ⟨after, rfl⟩
    exact ⟨[], after, rfl, rfl⟩

/-- What stands in a text stands as far on in whatever ends with the text. -/
theorem standsAt_append {needle lead text : Bytes} {place : Nat} :
    StandsAt needle (lead ++ text) (lead.length + place) ↔ StandsAt needle text place := by
  constructor
  · rintro ⟨before, after, whole, length⟩
    obtain ⟨more, rfl⟩ : lead <+: before :=
      List.prefix_of_prefix_length_le (List.prefix_append lead text)
        (whole ▸ List.prefix_append before _) (by omega)
    rw [List.append_assoc, List.append_right_inj] at whole
    rw [List.length_append, Nat.add_right_inj] at length
    exact ⟨more, after, whole, length⟩
  · rintro ⟨before, after, rfl, rfl⟩
    exact ⟨lead ++ before, after, (List.append_assoc ..).symm, List.length_append⟩

theorem standsAt_cons {needle rest : Bytes} {byte : UInt8} {place : Nat} :
    StandsAt needle (byte :: rest) (place + 1) ↔ StandsAt needle rest place := by
  have shift := @standsAt_append needle [byte] rest place
  rw [List.length_singleton, Nat.add_comm] at shift
  exact shift

/-- What stands in a text stands in whatever goes on after the text. -/
theorem StandsAt.append {needle text : Bytes} {place : Nat} (stands : StandsAt needle text place)
    (more : Bytes) : StandsAt needle (text ++ more) place := by
  obtain ⟨before, after, rfl, length⟩ := stands
  exact ⟨before, after ++ more, by simp only [List.append_assoc], length⟩

/-- What ends inside a text stands there without what goes on after the text. -/
theorem StandsAt.of_append {needle text more : Bytes} {place : Nat}
    (stands : StandsAt needle (text ++ more) place) (ends : place + needle.length ≤ text.length) :
    StandsAt needle text place := by
  obtain ⟨before, after, whole, rfl⟩ := stands
  rw [← List.append_assoc] at whole
  obtain ⟨left, rfl⟩ : before ++ needle <+: text :=
    List.prefix_of_prefix_length_le (whole ▸ List.prefix_append _ after)
      (List.prefix_append text more) (by rw [List.length_append]; exact ends)
  exact ⟨before, left, List.append_assoc .., rfl⟩

/-- What stands in a text does not reach past its end. -/
theorem StandsAt.ends_le {needle text : Bytes} {place : Nat} (stands : StandsAt needle text place) :
    place + needle.length ≤ text.length := by
  obtain ⟨before, after, rfl, rfl⟩ := stands
  rw [List.length_append, List.length_append]
  omega

theorem infix_iff_standsAt {needle text : Bytes} :
    needle <:+: text ↔ ∃ place, StandsAt needle text place := by
  constructor
  · rintro ⟨before, after, rfl⟩
    exact ⟨before.length, before, after, List.append_assoc .., rfl⟩
  · rintro ⟨_, before, after, rfl, -⟩
    exact ⟨before, after, List.append_assoc ..⟩

/-- At a place in a text stands what the part from there on is, cut to its length. -/
theorem standsAt_iff_take_drop {needle text : Bytes} {place : Nat} (inside : place ≤ text.length) :
    StandsAt needle text place ↔ (text.drop place).take needle.length = needle := by
  constructor
  · rintro ⟨before, after, rfl, rfl⟩
    rw [List.drop_left, List.take_left]
  · intro same
    have rest := List.take_append_drop needle.length (text.drop place)
    rw [same] at rest
    refine ⟨text.take place, (text.drop place).drop needle.length, ?_,
      List.length_take_of_le inside⟩
    rw [rest, List.take_append_drop]

/-- A text ends with what stands so far before its end as it is long. -/
theorem suffix_iff_standsAt {needle text : Bytes} : needle <:+ text ↔
    needle.length ≤ text.length ∧ StandsAt needle text (text.length - needle.length) := by
  constructor
  · rintro ⟨before, rfl⟩
    rw [List.length_append, Nat.add_sub_cancel]
    exact ⟨Nat.le_add_left .., before, [], by rw [List.append_nil], rfl⟩
  · rintro ⟨-, before, after, rfl, length⟩
    have none : after = [] := by
      refine List.eq_nil_of_length_eq_zero ?_
      simp only [List.length_append] at length
      omega
    rw [none, List.append_nil]
    exact List.suffix_append before needle

/-! ### First places -/

namespace FirstFrom

variable {needle text : Bytes} {start place : Nat}

theorem unique {other : Nat} (first : FirstFrom needle text start place)
    (second : FirstFrom needle text start other) : place = other := by
  rcases Nat.lt_trichotomy place other with less | same | less
  · exact absurd first.stands (second.first place first.inside less)
  · exact same
  · exact absurd second.stands (first.first other second.inside less)

/-- The first place in a text is as far on in whatever ends with the text. -/
theorem of_append {lead : Bytes}
    (first : FirstFrom needle (lead ++ text) (lead.length + start) (lead.length + place)) :
    FirstFrom needle text start place where
  inside := Nat.le_of_add_le_add_left first.inside
  stands := standsAt_append.mp first.stands
  first earlier inside less stands :=
    first.first (lead.length + earlier) (Nat.add_le_add_left inside _) (Nat.add_lt_add_left less _)
      (standsAt_append.mpr stands)

theorem append (first : FirstFrom needle text start place) (lead : Bytes) :
    FirstFrom needle (lead ++ text) (lead.length + start) (lead.length + place) where
  inside := Nat.add_le_add_left first.inside _
  stands := standsAt_append.mpr first.stands
  first earlier inside less stands := by
    obtain ⟨more, rfl⟩ := Nat.exists_eq_add_of_le (Nat.le_of_add_right_le inside)
    exact first.first more (Nat.le_of_add_le_add_left inside) (Nat.lt_of_add_lt_add_left less)
      (standsAt_append.mp stands)

/-- Whether a text ends with the first place where another stands is not changed by what goes on
after it. -/
theorem at_end_iff {before after : Bytes} :
    FirstFrom needle (before ++ (needle ++ after)) start before.length ↔
      FirstFrom needle (before ++ needle) start before.length := by
  have whole : before ++ (needle ++ after) = before ++ needle ++ after :=
    (List.append_assoc ..).symm
  have stands : StandsAt needle (before ++ needle) before.length :=
    ⟨before, [], by rw [List.append_nil], rfl⟩
  rw [whole]
  constructor
  · intro first
    exact ⟨first.inside, stands, fun earlier inside less other =>
      first.first earlier inside less (other.append after)⟩
  · intro first
    refine ⟨first.inside, stands.append after, fun earlier inside less other =>
      first.first earlier inside less (other.of_append ?_)⟩
    rw [List.length_append]
    exact Nat.add_le_add_right (Nat.le_of_lt less) _

end FirstFrom

/-! ### The search -/

/-- The search gives the first place, or there is none. -/
theorem indexFrom?_cases (needle : Bytes) (offset : Nat) (text : Bytes) :
    (∃ place, indexFrom? needle offset text = some (offset + place) ∧
      FirstFrom needle text 0 place) ∨
    indexFrom? needle offset text = none ∧ ¬needle <:+: text := by
  induction text generalizing offset with
  | nil =>
    cases needle with
    | nil =>
      exact .inl ⟨0, rfl, Nat.le_refl 0, standsAt_zero.mpr List.nil_prefix, nofun⟩
    | cons byte rest =>
      exact .inr ⟨rfl, fun inside => nomatch List.infix_nil.mp inside⟩
  | cons byte rest hypothesis =>
    rw [indexFrom?]
    split
    next opens =>
      exact .inl ⟨0, rfl, Nat.le_refl 0,
        standsAt_zero.mpr (List.isPrefixOf_iff_prefix.mp opens), nofun⟩
    next other =>
      rw [List.isPrefixOf_iff_prefix, ← standsAt_zero] at other
      rcases hypothesis (offset + 1) with ⟨place, found, first⟩ | ⟨none, outside⟩
      · refine .inl ⟨place + 1, ?_, Nat.zero_le _, standsAt_cons.mpr first.stands, ?_⟩
        · rw [found, Nat.add_assoc, Nat.add_comm 1]
        · intro earlier _ less stands
          cases earlier with
          | zero => exact other stands
          | succ earlier =>
            exact first.first earlier (Nat.zero_le _) (Nat.lt_of_succ_lt_succ less)
              (standsAt_cons.mp stands)
      · refine .inr ⟨none, fun inside => ?_⟩
        obtain ⟨place, stands⟩ := infix_iff_standsAt.mp inside
        cases place with
        | zero => exact other stands
        | succ place => exact outside (infix_iff_standsAt.mpr ⟨place, standsAt_cons.mp stands⟩)

theorem indexOf?_cases (needle text : Bytes) :
    (∃ place, indexOf? needle text = some place ∧ FirstFrom needle text 0 place) ∨
      indexOf? needle text = none ∧ ¬needle <:+: text := by
  have cases := indexFrom?_cases needle 0 text
  simp only [Nat.zero_add] at cases
  exact cases

theorem indexOf?_eq_some_iff {needle text : Bytes} {place : Nat} :
    indexOf? needle text = some place ↔ FirstFrom needle text 0 place := by
  rcases indexOf?_cases needle text with ⟨other, found, first⟩ | ⟨none, outside⟩
  · rw [found, Option.some_inj]
    exact ⟨fun same => same ▸ first, first.unique⟩
  · rw [none]
    exact ⟨nofun, fun first => absurd (infix_iff_standsAt.mpr ⟨place, first.stands⟩) outside⟩

theorem indexOf?_eq_none_iff {needle text : Bytes} :
    indexOf? needle text = none ↔ ¬needle <:+: text := by
  rcases indexOf?_cases needle text with ⟨place, found, first⟩ | ⟨none, outside⟩
  · rw [found]
    exact ⟨nofun, fun outside => absurd (infix_iff_standsAt.mpr ⟨place, first.stands⟩) outside⟩
  · exact ⟨fun _ => outside, fun _ => none⟩

end Scriptling
