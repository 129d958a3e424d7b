/-
This file compares the builtins that look into strings. All of them can be told
by the parts of a string that are as long as another: the search gives the first
place where such a part is the other string, and the tests of the beginning and
of the end look at the first place and at the last. Wherever a part is asked for,
it is that of the nearest place, so no number is too large or too small.
-/

import Scriptling.Proofs.Builtin.Slicing
import Scriptling.Proofs.Bytes.Search

namespace Scriptling

open Extent

variable {world : World} {text needle : Bytes}

theorem Text.length_ofBytes (bytes : Bytes) : (ofBytes bytes).length = bytes.length := by
  rw [length_eq, bytes_ofBytes]

theorem Value.ofBytes_injective {bytes other : Bytes} (same : ofBytes bytes = ofBytes other) :
    bytes = other := by
  have texts := congrArg Text.bytes (Value.str.inj same)
  rwa [Text.bytes_ofBytes, Text.bytes_ofBytes] at texts

/-- Strings are added up byte by byte. -/
theorem BinaryOperator.add_ofBytes (heap : Heap) (left right : Bytes) :
    BinaryOperator.add.apply heap (.ofBytes left) (.ofBytes right) = .ofBytes (left ++ right) := by
  refine congrArg Value.str (Text.bytes_injective ?_)
  rw [Text.bytes_append, Text.bytes_ofBytes, Text.bytes_ofBytes, Text.bytes_ofBytes]

namespace Builtin

/-- The part of a string from a place on that is as long as another string. -/
def partAt (text needle : Bytes) (place : Int64) : WorldAction Value := do
  let length ← Builtin.call .len [.ofBytes needle]
  Builtin.call .substr [.ofBytes text, .int place, length]

/-- The last part of a string that is as long as another string. -/
def lastPart (text needle : Bytes) : WorldAction Value := do
  let whole ← Builtin.call .len [.ofBytes text]
  let length ← Builtin.call .len [.ofBytes needle]
  let place := BinaryOperator.subtract.apply (← get).heap whole length
  Builtin.call .substr [.ofBytes text, place, length]

/-! ### Parts -/

/-- The length of a string. -/
theorem call_len_string (bytes : Bytes) :
    Builtin.call .len [.ofBytes bytes] world = .ok (.int (.ofNat bytes.length)) world := by
  rw [← Text.length_ofBytes]
  rfl

section

variable (fits : Fits text.length) (needleFits : Fits needle.length)
include fits needleFits

/-- The part is that at the nearest place. -/
theorem partAt_eq (place : Int64) : partAt text needle place world =
    .ok (.ofBytes ((text.drop (nearest text.length place.toInt).toNat).take needle.length))
      world := by
  refine (bind_of_ok (call_len_string needle)).trans ((call_substr _ _ _).trans ?_)
  rw [Text.length_ofBytes, Text.bytes_ofBytes, part_ofCount fits, toInt_ofNat_of_fits needleFits,
    Int.toNat_natCast]

/-- The part is the other string if that stands at the nearest place. -/
theorem partAt_iff (place : Int64) :
    partAt text needle place world = .ok (.ofBytes needle) world ↔
      StandsAt needle text (nearest text.length place.toInt).toNat := by
  have inside : (nearest text.length place.toInt).toNat ≤ text.length := by
    have most := nearest_le (Int.natCast_nonneg text.length) place.toInt
    omega
  rw [partAt_eq fits needleFits, standsAt_iff_take_drop inside]
  exact ⟨fun same => Value.ofBytes_injective (EStateM.Result.ok.inj same).1,
    fun same => by rw [same]⟩

/-- Where the other string does not stand, the part is not that string. -/
theorem exists_other_part {place : Int64}
    (outside : ¬StandsAt needle text (nearest text.length place.toInt).toNat) :
    ∃ part, part ≠ needle ∧ partAt text needle place world = .ok (.ofBytes part) world := by
  refine ⟨_, fun same => outside ?_, partAt_eq fits needleFits place⟩
  rw [← @partAt_iff world _ _ fits needleFits, partAt_eq fits needleFits, same]

/-- The last part is the other string if that ends the string. -/
theorem lastPart_iff :
    needle <:+ text ↔ needle.length ≤ text.length ∧
      lastPart text needle world = .ok (.ofBytes needle) world := by
  rw [suffix_iff_standsAt]
  -- Only if the other string is no longer is the difference of the lengths a place in the string.
  refine and_congr_right fun shorter => ?_
  have length := toInt_ofNat_of_fits fits
  have needleLength := toInt_ofNat_of_fits needleFits
  have difference : (Int64.ofNat text.length - Int64.ofNat needle.length).toInt =
      text.length - needle.length := by
    rw [← length, ← needleLength]
    refine toInt_sub_of_fits (fits_iff.mpr ?_)
    have most := (fits_iff.mp fits).2
    omega
  have place : (nearest text.length
      (Int64.ofNat text.length - Int64.ofNat needle.length).toInt).toNat =
        text.length - needle.length := by
    rw [difference]
    unfold nearest
    omega
  have same : lastPart text needle world =
      partAt text needle (.ofNat text.length - .ofNat needle.length) world :=
    ((bind_of_ok (call_len_string text)).trans (bind_of_ok (call_len_string needle))).trans
      (bind_of_ok (call_len_string needle)).symm
  rw [same, partAt_iff fits needleFits, place]

end

/-! ### Searching -/

/-- A builtin that answers with a value other than `None` gives that value. -/
theorem call_of_value {builtin : Builtin} {arguments : List Value} {value : Value}
    (answers : builtin.answer world.heap arguments = .value value) (some : value ≠ .none) :
    builtin.call arguments world = .ok value world := by
  have settles : builtin.call arguments world = World.settle (.value value) world := by
    rw [← answers]
    cases builtin with
    | print => exact absurd (Answer.value.inj answers).symm some
    | input => exact absurd (Answer.value.inj answers).symm some
    | _ => rfl
  exact settles

/-- The search gives the first place. -/
theorem call_find_of_first {place : Nat} (first : FirstFrom needle text 0 place) :
    Builtin.call .find [.ofBytes text, .ofBytes needle] world =
      .ok (.int (.ofNat place)) world := by
  refine call_of_value ?_ nofun
  show findOf [.str (Text.ofBytes text), .str (Text.ofBytes needle)] = .count place
  unfold findOf
  simp only [Text.bytes_ofBytes, indexOf?_eq_some_iff.mpr first]

/-- Where there is no place the search gives minus one. -/
theorem call_find_of_outside (outside : ¬needle <:+: text) :
    Builtin.call .find [.ofBytes text, .ofBytes needle] world = .ok (.int (-1)) world := by
  refine call_of_value ?_ nofun
  show findOf [.str (Text.ofBytes text), .str (Text.ofBytes needle)] = .int (-1)
  unfold findOf
  simp only [Text.bytes_ofBytes, indexOf?_eq_none_iff.mpr outside]

/-- A test of one string against another gives a truth value. -/
theorem affixOf_ofBytes (test : Bytes → Bytes → Bool) (text needle : Bytes) :
    affixOf test [.ofBytes text, .ofBytes needle] = .bool (test needle text) := by
  show Answer.bool (test (Text.ofBytes needle).bytes (Text.ofBytes text).bytes) = _
  rw [Text.bytes_ofBytes, Text.bytes_ofBytes]

theorem call_startswith (text needle : Bytes) :
    Builtin.call .startswith [.ofBytes text, .ofBytes needle] world =
      .ok (.ofBool (needle.isPrefixOf text)) world :=
  call_of_value (affixOf_ofBytes List.isPrefixOf text needle) nofun

theorem call_endswith (text needle : Bytes) :
    Builtin.call .endswith [.ofBytes text, .ofBytes needle] world =
      .ok (.ofBool (needle.isSuffixOf text)) world :=
  call_of_value (affixOf_ofBytes List.isSuffixOf text needle) nofun

/-- A place in a string is a number of 64 bits if the length of the string is one. -/
theorem ofNat_of_first {place : Nat} (fits : Fits text.length)
    (first : FirstFrom needle text 0 place) :
    (Int64.ofNat place).toInt = place ∧ 0 ≤ Int64.ofNat place := by
  have placeFits := fits.of_le (Nat.le_of_add_right_le first.stands.ends_le)
  rw [Int64.le_iff_toInt_le, Int64.toInt_zero]
  exact ⟨toInt_ofNat_of_fits placeFits, toInt_ofNat_nonneg placeFits⟩

/-- What the builtins say of a place that the search gives. -/
structure FoundAt (world : World) (text needle : Bytes) (place : Int64) : Prop where
  found : Builtin.call .find [.ofBytes text, .ofBytes needle] world = .ok (.int place) world
  ranged : place = -1 ∨ 0 ≤ place
  stands : 0 ≤ place → partAt text needle place world = .ok (.ofBytes needle) world
  first : ∀ earlier, 0 ≤ earlier → earlier < place →
    ∃ part, part ≠ needle ∧ partAt text needle earlier world = .ok (.ofBytes part) world
  outside : place = -1 → needle ≠ [] ∧
    ∀ other, ∃ part, part ≠ needle ∧ partAt text needle other world = .ok (.ofBytes part) world
  begins : Builtin.call .startswith [.ofBytes text, .ofBytes needle] world =
    .ok (.ofBool (place == 0)) world

section

variable (fits : Fits text.length) (needleFits : Fits needle.length)
include fits needleFits

/-- The first place where a string stands is found. -/
theorem foundAt_of_first {place : Nat} (first : FirstFrom needle text 0 place) :
    FoundAt world text needle (.ofNat place) := by
  have inside : place ≤ text.length := Nat.le_of_add_right_le first.stands.ends_le
  obtain ⟨exact, natural⟩ := ofNat_of_first fits first
  refine ⟨call_find_of_first first, .inr natural, fun _ => ?_, fun earlier above below => ?_,
    fun never => ?_, ?_⟩
  · rw [partAt_iff fits needleFits, exact]
    have nearestIs : (nearest text.length place).toNat = place := by
      unfold nearest
      omega
    rw [nearestIs]
    exact first.stands
  · refine exists_other_part fits needleFits (first.first _ (Nat.zero_le _) ?_)
    rw [Int64.le_iff_toInt_le, Int64.toInt_zero] at above
    rw [Int64.lt_iff_toInt_lt, exact] at below
    unfold nearest
    omega
  · rw [never] at natural
    exact absurd natural (by decide)
  · have begins : needle.isPrefixOf text = (Int64.ofNat place == 0) := by
      rw [Bool.eq_iff_iff, List.isPrefixOf_iff_prefix, ← standsAt_zero, beq_iff_eq,
        ← Int64.toInt_inj, exact, Int64.toInt_zero, Int.natCast_eq_zero]
      constructor
      · intro opens
        exact Nat.eq_zero_of_not_pos fun later => first.first 0 (Nat.le_refl 0) later opens
      · rintro rfl
        exact first.stands
    rw [call_startswith, begins]

/-- A string that stands nowhere is found nowhere. -/
theorem foundAt_of_outside (outside : ¬needle <:+: text) : FoundAt world text needle (-1) := by
  refine ⟨call_find_of_outside outside, .inl rfl, fun above => ?_, fun earlier above below => ?_,
    fun _ => ⟨fun none => ?_, fun other => ?_⟩, ?_⟩
  · exact absurd above (by decide)
  · exact exists_other_part fits needleFits fun stands =>
      outside (infix_iff_standsAt.mpr ⟨_, stands⟩)
  · exact outside (none ▸ List.nil_infix)
  · exact exists_other_part fits needleFits fun stands =>
      outside (infix_iff_standsAt.mpr ⟨_, stands⟩)
  · have begins : needle.isPrefixOf text = false := by
      rw [Bool.eq_false_iff, Ne, List.isPrefixOf_iff_prefix]
      exact fun opens => outside opens.isInfix
    rw [call_startswith, begins]
    rfl

theorem exists_foundAt : ∃ place, FoundAt world text needle place := by
  rcases indexOf?_cases needle text with ⟨place, -, first⟩ | ⟨-, outside⟩
  · exact ⟨_, foundAt_of_first fits needleFits first⟩
  · exact ⟨_, foundAt_of_outside fits needleFits outside⟩

end

/-- What stands somewhere is found there or before. -/
theorem call_find_within {before after : Bytes} (fits : Fits (before ++ needle ++ after).length) :
    ∃ place : Int64,
      Builtin.call .find [.ofBytes (before ++ needle ++ after), .ofBytes needle] world =
        .ok (.int place) world ∧
      0 ≤ place ∧ place.toInt ≤ before.length := by
  have stands : StandsAt needle (before ++ needle ++ after) before.length :=
    ⟨before, after, List.append_assoc .., rfl⟩
  rcases indexOf?_cases needle (before ++ needle ++ after) with
    ⟨place, -, first⟩ | ⟨-, outside⟩
  · have within : place ≤ before.length :=
      Nat.le_of_not_lt fun later => first.first _ (Nat.zero_le _) later stands
    obtain ⟨exact, natural⟩ := ofNat_of_first fits first
    exact ⟨_, call_find_of_first first, natural, exact ▸ Int.ofNat_le.mpr within⟩
  · exact absurd (infix_iff_standsAt.mpr ⟨_, stands⟩) outside

end Builtin

/-- The search gives the first place, and the other builtins agree with it, for all strings whose
lengths are numbers of 64 bits. If a string is found at a place, the part of its length from there on
is that string, and no earlier one is. If it is found nowhere, it is not empty and no part of its
length is that string, whatever place is asked for. It is found at zero just when the text begins with
it, and the text ends with it just when it is no longer than the text and the last part of its length
is that string. What is put between two others is found there or before. -/
theorem find_gives_first_place (world : World) :
    (∀ text needle : Bytes, Fits text.length → Fits needle.length →
      (∃ place, Builtin.FoundAt world text needle place) ∧
      ∃ ends : Bool,
        Builtin.call .endswith [.ofBytes text, .ofBytes needle] world = .ok (.ofBool ends) world ∧
        (ends = true ↔ needle.length ≤ text.length ∧
          Builtin.lastPart text needle world = .ok (.ofBytes needle) world)) ∧
    ∀ before needle after : Bytes, Fits (before ++ needle ++ after).length →
      let add := BinaryOperator.add.apply world.heap
      ∃ place : Int64,
        Builtin.call .find
          [add (add (.ofBytes before) (.ofBytes needle)) (.ofBytes after), .ofBytes needle] world =
            .ok (.int place) world ∧
        0 ≤ place ∧ place.toInt ≤ before.length := by
  refine ⟨fun text needle fits needleFits => ⟨Builtin.exists_foundAt fits needleFits, ?_⟩,
    fun before needle after fits => ?_⟩
  · refine ⟨needle.isSuffixOf text, Builtin.call_endswith text needle, ?_⟩
    rw [List.isSuffixOf_iff_suffix]
    exact Builtin.lastPart_iff fits needleFits
  · intro add
    have whole : add (add (.ofBytes before) (.ofBytes needle)) (.ofBytes after) =
        .ofBytes (before ++ needle ++ after) := by
      show BinaryOperator.add.apply _ (BinaryOperator.add.apply _ _ _) _ = _
      rw [BinaryOperator.add_ofBytes, BinaryOperator.add_ofBytes]
    rw [whole]
    exact Builtin.call_find_within fits

/-- A string may stand where a part of it stood before, and be longer than what it is looked for
in. -/
theorem overlapping_string_is_found_first :
    let text := ascii "aaab"
    let needle := ascii "aab"
    let world : World := ⟨Heap.empty, Streams.reliable []⟩
    Builtin.call .find [.ofBytes text, .ofBytes needle] world = .ok (.int 1) world ∧
    Builtin.partAt text needle 1 world = .ok (.ofBytes needle) world ∧
    (∃ part, part ≠ needle ∧ Builtin.partAt text needle 0 world = .ok (.ofBytes part) world) ∧
    Builtin.lastPart text needle world = .ok (.ofBytes needle) world ∧
    Builtin.call .find [.ofBytes needle, .ofBytes text] world = .ok (.int (-1)) world ∧
    (∃ part, part ≠ text ∧
      Builtin.partAt needle text Int64.minValue world = .ok (.ofBytes part) world) ∧
    ∃ place : Int64,
      Builtin.call .find [.ofBytes (text ++ needle ++ text), .ofBytes needle] world =
        .ok (.int place) world ∧
      0 ≤ place ∧ place.toInt ≤ 4 := by
  intro text needle world
  obtain ⟨agree, within⟩ := find_gives_first_place world
  obtain ⟨⟨place, agrees⟩, ends, ended, lasts⟩ := agree text needle (by decide) (by decide)
  obtain ⟨⟨missing, misses⟩, -⟩ := agree needle text (by decide) (by decide)
  have found : Builtin.call .find [.ofBytes text, .ofBytes needle] world = .ok (.int 1) world := rfl
  have placeIs : place = 1 :=
    Value.int.inj (EStateM.Result.ok.inj (agrees.found.symm.trans found)).1
  have notFound : Builtin.call .find [.ofBytes needle, .ofBytes text] world =
      .ok (.int (-1)) world := rfl
  have missingIs : missing = -1 :=
    Value.int.inj (EStateM.Result.ok.inj (misses.found.symm.trans notFound)).1
  have endsIs : ends = true := by
    have told : Value.ofBool ends = Value.ofBool true :=
      (EStateM.Result.ok.inj (ended.symm.trans rfl)).1
    cases ends with
    | true => rfl
    | false => exact absurd told (by decide)
  rw [placeIs] at agrees
  exact ⟨found, agrees.stands (by decide), agrees.first 0 (by decide) (by decide),
    (lasts.mp endsIs).2, notFound, (misses.outside missingIs).2 Int64.minValue,
    within text needle text (by decide)⟩

end Scriptling
