/-
This file joins strings and splits them again. Both builtins do to the strings of
a list what joining and cutting do to their bytes, so splitting a text and joining
the pieces loses nothing but a separator at the end of the text, and joining
strings and splitting what they are joined to loses nothing at all, if the
separator can be told from them.
-/

import Scriptling.Proofs.Builtin.Lists
import Scriptling.Proofs.Bytes.Pieces

namespace Scriptling

variable {world : World}

/-- Splitting a text makes a list of its pieces. -/
theorem Builtin.yields_split (separator text : Bytes) :
    Yields (Builtin.call .split [.ofBytes text, .ofBytes separator]) world fun value after =>
      after.HasList value ((pieces separator text).map .ofBytes) := by
  have answers : Builtin.answer world.heap .split [.ofBytes text, .ofBytes separator] =
      .list ((pieces separator text).map .ofBytes) := by
    show Answer.list ((pieces (Text.ofBytes separator).bytes (Text.ofBytes text).bytes).map
      fun piece => Value.str (Text.ofBytes piece)) = _
    rw [Text.bytes_ofBytes, Text.bytes_ofBytes]
    rfl
  exact (Builtin.yields_list answers).weaken fun value after made => made.1

/-- Joining a list of strings gives the strings with the separator between them. -/
theorem Builtin.call_join {list : Value} {strings : List Bytes}
    (holds : world.HasList list (strings.map .ofBytes)) (separator : Bytes) :
    Builtin.call .join [.ofBytes separator, list] world =
      .ok (.ofBytes (separator.intercalate strings)) world := by
  obtain ⟨handle, rfl, -, items⟩ := holds
  have bytes : (world.heap.items handle).map Builtin.bytesOrNone = strings := by
    rw [items, List.map_map]
    exact (List.map_congr_left fun string _ => Text.bytes_ofBytes string).trans (List.map_id _)
  show EStateM.Result.ok (Value.ofBytes ((Text.ofBytes separator).bytes.intercalate
    ((world.heap.items handle).map Builtin.bytesOrNone))) world = _
  rw [bytes, Text.bytes_ofBytes]

/-- Splitting and joining are inverse up to one separator at the end. No piece of a text holds the
separator. Joining the pieces of a text gives the text, or all of it but a last separator, and that
one is lost just where the text is not empty and reading it from left to right for separators comes
to its end. Splitting what strings are joined to gives the strings again, if there are none, or if
the last one is not empty and holds no separator and each of the others holds none before the one
that is put behind it. -/
theorem split_and_join_are_inverse {separator : Bytes} (some : separator ≠ []) :
    (∀ (world : World) (text : Bytes), ∃ (pieces : List Bytes) (joined : Bytes),
      Yields (Builtin.call .split [.ofBytes text, .ofBytes separator]) world
        (fun list after => after.HasList list (pieces.map .ofBytes)) ∧
      (∀ piece ∈ pieces, ¬separator <:+: piece) ∧
      Yields (do
        let list ← Builtin.call .split [.ofBytes text, .ofBytes separator]
        Builtin.call .join [.ofBytes separator, list]) world
        (fun value _ => value = .ofBytes joined) ∧
      (text = joined ∨ text = joined ++ separator) ∧
      (text = joined ++ separator ↔ text ≠ [] ∧ ScanReaches separator text text.length)) ∧
    ∀ (world : World) (list : Value) (strings : List Bytes),
      world.HasList list (strings.map .ofBytes) → Separable separator strings →
        Yields (do
          let joined ← Builtin.call .join [.ofBytes separator, list]
          Builtin.call .split [joined, .ofBytes separator]) world
          fun value after => after.HasList value (strings.map .ofBytes) := by
  refine ⟨fun world text => ?_, fun world list strings holds separable => ?_⟩
  · have splits := @Builtin.yields_split world separator text
    obtain ⟨ended, rest, cut⟩ := exists_cutInto some text
    have whole := cut.join some
    refine ⟨_, separator.intercalate (pieces separator text), splits, fun piece member => ?_,
      yields_bind.mpr (splits.weaken fun list after holds => ?_), ?_, ?_⟩
    · rw [cut.pieces_eq some] at member
      rcases List.mem_append.mp member with front | last
      · exact (cut.outside some).1 piece front
      · split at last
        · cases last
        · rw [List.mem_singleton.mp last]
          exact (cut.outside some).2
    · exact (ends_congr (Builtin.call_join holds separator)).mpr rfl
    · split at whole
      next => exact .inr whole
      next => exact .inl (whole.trans (List.append_nil _))
    · rw [cut.scanReaches_iff some]
      split at whole
      next lost => exact ⟨fun _ => lost, fun _ => whole⟩
      next kept =>
        refine ⟨fun ended => ?_, fun lost => absurd lost kept⟩
        rw [List.append_nil] at whole
        exact absurd (List.append_right_eq_self.mp (ended.symm.trans whole)) some
  · refine yields_bind.mpr ((ends_congr (Builtin.call_join holds separator)).mpr ?_)
    have splits := @Builtin.yields_split world separator (separator.intercalate strings)
    rw [separable.pieces_intercalate some] at splits
    exact splits

/-- A separator may overlap itself and what stands beside it. -/
theorem doubled_letter_splits_and_joins :
    let separator := ascii "aa"
    let strings := [ascii "b", [], ascii "a"]
    let world : World := ⟨⟨#[strings.map .ofBytes]⟩, Streams.reliable []⟩
    Yields (do
      let joined ← Builtin.call .join [.ofBytes separator, .list 0]
      Builtin.call .split [joined, .ofBytes separator]) world
      (fun value after => after.HasList value (strings.map .ofBytes)) ∧
    ∃ joined, Yields (do
        let list ← Builtin.call .split [.ofBytes (ascii "baa"), .ofBytes separator]
        Builtin.call .join [.ofBytes separator, list]) world
        (fun value _ => value = .ofBytes joined) ∧
      ascii "baa" = joined ++ separator := by
  intro separator strings world
  have some : separator ≠ [] := by decide
  have first {text : Bytes} {place : Nat} (found : indexOf? separator text = .some place) :
      FirstFrom separator text 0 place := indexOf?_eq_some_iff.mp found
  obtain ⟨splits, joins⟩ := split_and_join_are_inverse some
  have separable : Separable separator strings :=
    .inr ⟨[ascii "b", []], ascii "a", rfl, by decide, by decide,
      List.forall_mem_cons.mpr ⟨first (by decide), List.forall_mem_singleton.mpr (first (by decide))⟩⟩
  obtain ⟨_, joined, -, -, joinsAgain, -, ended⟩ := splits world (ascii "baa")
  refine ⟨joins world (.list 0) strings ⟨0, rfl, by decide, rfl⟩ separable, joined, joinsAgain,
    ended.mpr ⟨by decide, ?_⟩⟩
  have second : indexOf? separator (ascii "baa") = .some 1 := by decide
  exact .next .start (first second)

end Scriptling
