/-
This file follows a text as it is cut at a separator. The first place where the
separator stands ends a piece, and the cutting goes on behind it, so that what is
left in the end holds no separator. What is left is a piece as well, unless it is
empty: then the text ends with a separator, and that one is lost when the pieces
are joined again.
-/

import Scriptling.Proofs.Bytes.Search

namespace Scriptling

/-- Reading a text from left to right for a separator comes to an offset: to the start, and behind
the first separator from any offset that it comes to. -/
inductive ScanReaches (separator text : Bytes) : Nat → Prop
  | start : ScanReaches separator text 0
  | next {offset place : Nat} : ScanReaches separator text offset →
    FirstFrom separator text offset place → ScanReaches separator text (place + separator.length)

/-- A separator cuts a text into pieces that it ends, and what is left behind the last of them. -/
inductive CutInto (separator : Bytes) : Bytes → List Bytes → Bytes → Prop
  | rest {text : Bytes} : ¬separator <:+: text → CutInto separator text [] text
  | piece {before after rest : Bytes} {ended : List Bytes} :
    FirstFrom separator (before ++ separator) 0 before.length →
      CutInto separator after ended rest →
        CutInto separator (before ++ (separator ++ after)) (before :: ended) rest

/-- Strings that come back when they are joined by a separator and cut at it: the last one is not
empty and holds no separator, and the others hold none before the one that ends them. -/
def Separable (separator : Bytes) (strings : List Bytes) : Prop :=
  strings = [] ∨ ∃ front last, strings = front ++ [last] ∧ last ≠ [] ∧ ¬separator <:+: last ∧
    ∀ string ∈ front, FirstFrom separator (string ++ separator) 0 string.length

/-! ### Pieces -/

/-- The pieces that are kept come first. -/
theorem piecesAfter_eq (first : UInt8) (others : Bytes) (done : List Bytes) (text : Bytes) :
    piecesAfter first others done text = done.reverse ++ pieces (first :: others) text := by
  induction length : text.length using Nat.strongRecOn generalizing done text with
  | ind count hypothesis =>
    subst length
    unfold pieces
    dsimp only
    rw [piecesAfter, piecesAfter]
    split
    next => exact (List.append_nil _).symm
    next some =>
      split
      next => simp
      next place found =>
        have positive := List.length_pos_iff.mpr (mt List.isEmpty_iff.mpr some)
        have shorter : (text.drop (place + (others.length + 1))).length < text.length := by
          rw [List.length_drop]
          omega
        rw [hypothesis _ shorter _ _ rfl, hypothesis _ shorter _ _ rfl, List.reverse_cons,
          List.append_assoc]
        rfl

variable {separator : Bytes}

/-- What holds no separator is one piece, or none if it is empty. -/
theorem pieces_of_outside (some : separator ≠ []) {text : Bytes} (outside : ¬separator <:+: text) :
    pieces separator text = if text = [] then [] else [text] := by
  obtain ⟨first, others, rfl⟩ := List.exists_cons_of_ne_nil some
  unfold pieces
  dsimp only
  rw [piecesAfter]
  simp only [List.isEmpty_iff]
  split
  next => rfl
  next => rw [indexOf?_eq_none_iff.mpr outside]; rfl

/-- What stands before the first separator is the first piece. -/
theorem pieces_of_first (some : separator ≠ []) {before : Bytes}
    (first : FirstFrom separator (before ++ separator) 0 before.length) (after : Bytes) :
    pieces separator (before ++ (separator ++ after)) = before :: pieces separator after := by
  have found : indexOf? separator (before ++ (separator ++ after)) = .some before.length :=
    indexOf?_eq_some_iff.mpr (FirstFrom.at_end_iff.mpr first)
  obtain ⟨head, others, rfl⟩ := List.exists_cons_of_ne_nil some
  have whole : (before ++ (head :: others ++ after)).drop (before.length + (others.length + 1)) =
      after := by
    rw [← List.append_assoc]
    exact List.drop_left' (List.length_append ..)
  rw [pieces, piecesAfter, if_neg (by simp), found]
  dsimp only
  rw [List.take_left, whole, piecesAfter_eq]
  rfl

/-! ### Cutting -/

/-- Every text is cut into pieces. -/
theorem exists_cutInto (some : separator ≠ []) (text : Bytes) :
    ∃ ended rest, CutInto separator text ended rest := by
  induction length : text.length using Nat.strongRecOn generalizing text with
  | ind count hypothesis =>
    subst length
    rcases indexOf?_cases separator text with ⟨place, -, first⟩ | ⟨-, outside⟩
    · obtain ⟨before, after, rfl, rfl⟩ := first.stands
      have positive := List.length_pos_iff.mpr some
      have shorter : after.length < (before ++ (separator ++ after)).length := by
        rw [List.length_append, List.length_append]
        omega
      obtain ⟨ended, rest, cut⟩ := hypothesis _ shorter _ rfl
      exact ⟨before :: ended, rest, .piece (FirstFrom.at_end_iff.mp first) cut⟩
    · exact ⟨[], text, .rest outside⟩

namespace CutInto

variable {text rest : Bytes} {ended : List Bytes}

/-- The pieces are those that are ended by a separator, and what is left if it is not empty. -/
theorem pieces_eq (some : separator ≠ []) (cut : CutInto separator text ended rest) :
    pieces separator text = ended ++ if rest = [] then [] else [rest] := by
  induction cut with
  | rest outside => exact pieces_of_outside some outside
  | piece first _ hypothesis => rw [pieces_of_first some first, hypothesis, List.cons_append]

/-- A text is its pieces, each with the separator that ends it, and what is left. -/
theorem whole (cut : CutInto separator text ended rest) :
    text = ended.flatMap (· ++ separator) ++ rest := by
  induction cut with
  | rest => rfl
  | piece _ _ hypothesis =>
    rw [List.flatMap_cons, List.append_assoc, List.append_assoc, ← hypothesis]

/-- Neither the pieces nor what is left hold a separator. -/
theorem outside (some : separator ≠ []) (cut : CutInto separator text ended rest) :
    (∀ piece ∈ ended, ¬separator <:+: piece) ∧ ¬separator <:+: rest := by
  induction cut with
  | rest outside => exact ⟨List.forall_mem_nil _, outside⟩
  | @piece before _ _ _ first _ hypothesis =>
    refine ⟨List.forall_mem_cons.mpr ⟨fun inside => ?_, hypothesis.1⟩, hypothesis.2⟩
    obtain ⟨place, stands⟩ := infix_iff_standsAt.mp inside
    have positive := List.length_pos_iff.mpr some
    exact first.first place (Nat.zero_le _) (by have := stands.ends_le; omega)
      (stands.append separator)

end CutInto

/-! ### Joining -/

/-- Joining strings puts the separator behind all but the last one. -/
theorem intercalate_concat (separator : Bytes) (front : List Bytes) (last : Bytes) :
    separator.intercalate (front ++ [last]) = front.flatMap (· ++ separator) ++ last := by
  induction front with
  | nil => exact List.intercalate_singleton
  | cons string front hypothesis =>
    rw [List.cons_append, List.intercalate_cons_of_ne_nil
      (List.append_ne_nil_of_right_ne_nil front (List.cons_ne_nil last [])), hypothesis,
      List.flatMap_cons, ← List.append_assoc]

/-- Joining the pieces of a text gives it back, but for a separator that it ends with. -/
theorem CutInto.join {text rest : Bytes} {ended : List Bytes}
    (cut : CutInto separator text ended rest) (some : separator ≠ []) :
    text = separator.intercalate (pieces separator text) ++
      if text ≠ [] ∧ rest = [] then separator else [] := by
  rw [cut.pieces_eq some]
  have whole := cut.whole
  by_cases left : rest = []
  · rw [if_pos left, List.append_nil]
    rw [left, List.append_nil] at whole
    rcases List.eq_nil_or_concat ended with rfl | ⟨front, last, rfl⟩
    · rw [whole, if_neg fun both => both.1 rfl]
      rfl
    · rw [List.concat_eq_append] at whole ⊢
      rw [List.flatMap_append, List.flatMap_singleton, ← List.append_assoc] at whole
      have nonempty : text ≠ [] := whole ▸ List.append_ne_nil_of_right_ne_nil _ some
      rw [intercalate_concat, if_pos ⟨nonempty, left⟩]
      exact whole
  · rw [if_neg left, if_neg fun both => left both.2, List.append_nil, intercalate_concat]
    exact whole

/-- Strings that are separable come back from what they are joined to. -/
theorem Separable.pieces_intercalate {strings : List Bytes} (separable : Separable separator strings)
    (some : separator ≠ []) : pieces separator (separator.intercalate strings) = strings := by
  rcases separable with rfl | ⟨front, last, rfl, nonempty, outside, ends⟩
  · rw [List.intercalate_nil, pieces_of_outside some fun inside =>
      some (List.infix_nil.mp inside), if_pos rfl]
  · rw [intercalate_concat]
    induction front with
    | nil =>
      rw [List.flatMap_nil, List.nil_append, pieces_of_outside some outside, if_neg nonempty]
      rfl
    | cons string front hypothesis =>
      obtain ⟨endsFirst, endsLater⟩ := List.forall_mem_cons.mp ends
      rw [List.flatMap_cons, List.append_assoc, List.append_assoc,
        pieces_of_first some endsFirst, hypothesis endsLater]
      rfl

/-- Strings that are not empty and do not hold the first byte of the separator are separable. -/
theorem separable_of_notMem {first : UInt8} {others : Bytes} {strings : List Bytes}
    (apart : ∀ string ∈ strings, string ≠ [] ∧ first ∉ string) :
    Separable (first :: others) strings := by
  rcases List.eq_nil_or_concat strings with rfl | ⟨front, last, rfl⟩
  · exact .inl rfl
  · rw [List.concat_eq_append] at apart ⊢
    obtain ⟨nonempty, free⟩ := apart last (List.mem_append_right _ List.mem_cons_self)
    refine .inr ⟨front, last, rfl, nonempty, fun inside => free (inside.subset List.mem_cons_self),
      fun string member => ?_⟩
    obtain ⟨-, freeString⟩ := apart string (List.mem_append_left _ member)
    refine ⟨Nat.zero_le _, ⟨string, [], by rw [List.append_nil], rfl⟩, fun earlier _ less => ?_⟩
    rintro ⟨before, after, whole, rfl⟩
    have there := congrArg (·[before.length]?) whole
    simp only [List.getElem?_append_left less, List.getElem?_append_right (Nat.le_refl _),
      Nat.sub_self, List.cons_append, List.getElem?_cons_zero] at there
    exact freeString (List.mem_of_getElem? there)

/-! ### Reading from left to right -/

namespace ScanReaches

/-- In a text without the separator a reading stays at the start. -/
theorem eq_zero {text : Bytes} (outside : ¬separator <:+: text) {offset : Nat}
    (reaches : ScanReaches separator text offset) : offset = 0 := by
  cases reaches with
  | start => rfl
  | next _ first => exact absurd (infix_iff_standsAt.mpr ⟨_, first.stands⟩) outside

variable {before after : Bytes} {offset : Nat}

/-- Behind the first separator a reading goes on as in what stands there. -/
theorem onward (first : FirstFrom separator (before ++ separator) 0 before.length)
    (reaches : ScanReaches separator after offset) :
    ScanReaches separator (before ++ (separator ++ after))
      ((before ++ separator).length + offset) := by
  induction reaches with
  | start =>
    rw [Nat.add_zero, List.length_append]
    exact .next .start (FirstFrom.at_end_iff.mpr first)
  | next _ found hypothesis =>
    have shifted := found.append (before ++ separator)
    rw [List.append_assoc] at shifted
    rw [← Nat.add_assoc]
    exact .next hypothesis shifted

/-- Nowhere but behind the first separator does a reading go on. -/
theorem backward (first : FirstFrom separator (before ++ separator) 0 before.length)
    (reaches : ScanReaches separator (before ++ (separator ++ after)) offset) :
    offset = 0 ∨ ∃ more, offset = (before ++ separator).length + more ∧
      ScanReaches separator after more := by
  induction reaches with
  | start => exact .inl rfl
  | next _ found hypothesis =>
    refine .inr ?_
    rcases hypothesis with rfl | ⟨more, rfl, reaches⟩
    · refine ⟨0, ?_, .start⟩
      rw [found.unique (FirstFrom.at_end_iff.mpr first), List.length_append]
      rfl
    · obtain ⟨place, rfl⟩ := Nat.exists_eq_add_of_le (Nat.le_of_add_right_le found.inside)
      rw [← List.append_assoc] at found
      exact ⟨place + separator.length, Nat.add_assoc .., .next reaches found.of_append⟩

end ScanReaches

/-- A reading comes to the end of a text just where nothing is left behind the last separator. -/
theorem CutInto.scanReaches_iff {text rest : Bytes} {ended : List Bytes}
    (cut : CutInto separator text ended rest) (some : separator ≠ []) :
    ScanReaches separator text text.length ↔ rest = [] := by
  induction cut with
  | rest outside =>
    constructor
    · exact fun reaches => List.eq_nil_of_length_eq_zero (reaches.eq_zero outside)
    · rintro rfl
      exact .start
  | @piece before after rest ended first _ hypothesis =>
    have positive := List.length_pos_iff.mpr some
    have length : (before ++ (separator ++ after)).length =
        (before ++ separator).length + after.length := by
      rw [← List.append_assoc, List.length_append]
    rw [← hypothesis, length]
    constructor
    · intro reaches
      rcases reaches.backward first with none | ⟨more, same, reaches⟩
      · rw [List.length_append] at none
        omega
      · rw [Nat.add_left_cancel same]
        exact reaches
    · exact fun reaches => reaches.onward first

end Scriptling
