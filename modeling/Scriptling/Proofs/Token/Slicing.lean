/-
This file proves that a source may be cut down to some of its tokens. What stands
from the start of one token up to the stop of another is cut into the tokens
between them, which are the same ones up to their places. Before the first of
them nothing stands that could be part of it, and whatever ends a token inside
still stands after it. Only what comes after the last one is gone, and a token is
read off its own bytes.
-/

import Scriptling.Proofs.Token.Spacing

namespace Scriptling.Tokens

/-- From a token on, the source is cut into that token and those after it. -/
theorem Cuts.onward {position : Position} {source : Bytes} {tokens : Tokens}
    (cuts : Cuts position source tokens) {before after : List Token} {token : Token}
    (split : tokens.words = before ++ token :: after) :
    ∃ passed rest, source = passed ++ rest ∧
      token.span.start = position.offset + passed.length ∧
      Cuts (position.advance passed) rest ⟨token :: after, tokens.finish⟩ := by
  obtain ⟨passed, left, rfl, cutsLeft⟩ := cuts.behind split
  obtain ⟨byte, rest, last, whole, found, stops, rfl, cutsRest⟩ := cutsLeft.of_cons
  have solid := (isGap_gap left).2
  rw [found] at solid
  have none := gap_solid (solid byte rfl) rest
  have again : Cuts ((position.advance passed).advance (gap left)) (byte :: rest) _ :=
    .token (by rw [none]; rfl) (by rw [none, stops]; rfl) cutsRest
  rw [none, Position.advance_nil] at again
  refine ⟨passed ++ gap left, byte :: rest, ?_, ?_, ?_⟩
  · rw [List.append_assoc, ← whole]
  · rw [← Position.offset_advance, Position.advance_append]
    rfl
  · rw [Position.advance_append]
    exact again

/-- Where the source stops right after a token, that token is the last one. -/
theorem Cuts.of_last {place : Position} {between rest : Bytes} {byte : UInt8} {others : Tokens}
    (gapped : IsGap between (byte :: rest)) (solid : Byte.IsSolid byte)
    (again : Cuts place (between ++ (byte :: rest).take (Lexeme.read byte rest).length) others) :
    ∃ first last, others.words = [(Lexeme.read byte rest).token first last] := by
  obtain ⟨more, succ⟩ := Nat.exists_eq_add_one_of_ne_zero
    (Nat.ne_of_gt (Lexeme.length_read_pos byte rest))
  have own : (byte :: rest).take (Lexeme.read byte rest).length =
      byte :: rest.take ((Lexeme.read byte rest).length - 1) := by
    rw [succ, List.take_succ_cons, Nat.add_sub_cancel]
  rw [own] at again
  obtain ⟨first, last, words, finish, same, cuts⟩ := again.of_token (gapped.change _) solid
  rw [Lexeme.read_take] at same cuts
  rw [List.drop_eq_nil_of_le (List.length_take_le _ _)] at cuts
  obtain ⟨_, none⟩ := cuts.of_gap ⟨[], [], rfl, List.forall_mem_nil _, .inl rfl⟩
  obtain ⟨rfl, -⟩ := Tokens.mk.inj none
  rw [same]
  exact ⟨first, last, rfl⟩

/-- Where something is left after a token that begins like what stood there, the token is read
as it was. -/
theorem Cuts.of_kept {place : Position} {between rest kept left : Bytes} {byte : UInt8}
    {others : Tokens} (gapped : IsGap between (byte :: rest)) (solid : Byte.IsSolid byte)
    (closed : (Lexeme.read byte rest).closed = true) (more : kept ≠ [])
    (split : rest.drop ((Lexeme.read byte rest).length - 1) = kept ++ left)
    (again : Cuts place
      (between ++ (byte :: rest).take (Lexeme.read byte rest).length ++ kept) others) :
    ∃ first last words finish,
      others = ⟨(Lexeme.read byte rest).token first last :: words, finish⟩ ∧
        Cuts last kept ⟨words, finish⟩ := by
  obtain ⟨length, succ⟩ := Nat.exists_eq_add_one_of_ne_zero
    (Nat.ne_of_gt (Lexeme.length_read_pos byte rest))
  have own : between ++ (byte :: rest).take (Lexeme.read byte rest).length ++ kept =
      between ++ byte :: (rest.take ((Lexeme.read byte rest).length - 1) ++ kept) := by
    rw [succ, List.take_succ_cons, Nat.add_sub_cancel, List.append_assoc, List.cons_append]
  have parts : Lexeme.Parts kept (rest.drop ((Lexeme.read byte rest).length - 1)) := by
    obtain ⟨first, others, rfl⟩ := List.exists_cons_of_ne_nil more
    exact .inl (split ▸ rfl)
  have reads := Lexeme.read_append byte (.inl closed) parts
  have taken : (rest.take ((Lexeme.read byte rest).length - 1)).length =
      (Lexeme.read byte rest).length - 1 :=
    List.length_take_of_le (Nat.sub_le_of_le_add (Lexeme.length_read_le byte rest))
  rw [own] at again
  obtain ⟨first, last, words, finish, same, cuts⟩ := again.of_token (gapped.change _) solid
  rw [reads] at same cuts
  rw [List.drop_left' taken] at cuts
  exact ⟨first, last, words, finish, same, cuts⟩

/-- Up to where a token stops, the source is cut into the tokens up to that one. -/
theorem Cuts.upTo {position : Position} {source : Bytes} {tokens : Tokens}
    (cuts : Cuts position source tokens) (closed : ∀ token ∈ tokens.words, token.closed = true)
    {before after : List Token} {last : Token} (split : tokens.words = before ++ last :: after) :
    ∃ kept left, source = kept ++ left ∧ kept ≠ [] ∧
      last.span.stop = position.offset + kept.length ∧
      ∀ (place : Position) (others : Tokens), Cuts place kept others →
        others.words.map Token.unplaced = (before ++ [last]).map Token.unplaced := by
  revert closed before
  refine Cuts.byGaps (motive := fun position source tokens =>
    (∀ token ∈ tokens.words, token.closed = true) → ∀ {before : List Token},
      tokens.words = before ++ last :: after → ∃ kept left, source = kept ++ left ∧ kept ≠ [] ∧
        last.span.stop = position.offset + kept.length ∧
        ∀ (place : Position) (others : Tokens), Cuts place kept others →
          others.words.map Token.unplaced = (before ++ [last]).map Token.unplaced) ?_ ?_ cuts
  · intro position between _ _ before split
    cases List.append_ne_nil_of_right_ne_nil _ (List.cons_ne_nil _ _) split.symm
  intro position reached between byte rest tokens gapped solid stop _ hypothesis closed before split
  obtain ⟨closed, closedLater⟩ := List.forall_mem_cons.mp closed
  have length := List.length_take_of_le (Lexeme.length_read_le byte rest)
  have positive := Lexeme.length_read_pos byte rest
  have whole := Lexeme.take_append_drop byte rest
  have nonempty : (byte :: rest).take (Lexeme.read byte rest).length ≠ [] :=
    List.ne_nil_of_length_pos (by rw [length]; exact positive)
  cases before with
  | nil =>
    obtain ⟨rfl, rfl⟩ := List.cons.inj split
    refine ⟨between ++ (byte :: rest).take (Lexeme.read byte rest).length,
      rest.drop ((Lexeme.read byte rest).length - 1), ?_,
      List.append_ne_nil_of_right_ne_nil _ nonempty, ?_, fun place others again => ?_⟩
    · rw [List.append_assoc, whole]
    · rw [List.length_append, length, ← Nat.add_assoc]
      exact stop
    · obtain ⟨first, last, words⟩ := again.of_last gapped solid
      rw [words]
      rfl
  | cons first before =>
    obtain ⟨rfl, later⟩ := List.cons.inj split
    obtain ⟨kept, left, splits, more, ends, same⟩ := hypothesis closedLater later
    refine ⟨between ++ (byte :: rest).take (Lexeme.read byte rest).length ++ kept, left, ?_,
      List.append_ne_nil_of_right_ne_nil _ more, ?_, fun place others again => ?_⟩
    · rw [List.append_assoc, List.append_assoc, ← splits, whole]
    · rw [ends, stop, List.length_append, List.length_append, length]
      omega
    · obtain ⟨_, _, words, finish, rfl, cuts⟩ := again.of_kept gapped solid closed more splits
      exact congrArg (_ :: ·) (same _ _ cuts)

/-- From the start of one token to the stop of another, the source is cut into the tokens between
them. -/
theorem words_stretch {source : Bytes}
    (closed : ∀ token ∈ (ofSource source).words, token.closed = true)
    {before inside after : List Token}
    (split : (ofSource source).words = before ++ (inside ++ after)) {first last : Token}
    (begins : inside.head? = some first) (ends : inside.getLast? = some last) :
    (ofSource (stretch source first.span.start last.span.stop)).words.map Token.unplaced =
      inside.map Token.unplaced := by
  obtain ⟨others, begun⟩ := List.head?_eq_some_iff.mp begins
  obtain ⟨front, ended⟩ := List.getLast?_eq_some_iff.mp ends
  have onward : (ofSource source).words = before ++ first :: (others ++ after) := by
    rw [split, begun, List.cons_append]
  have upTo : first :: (others ++ after) = front ++ last :: after := by
    rw [← List.cons_append, ← begun, ended, List.append_assoc]
    rfl
  obtain ⟨passed, rest, whole, start, cuts⟩ := (cuts_ofSource source).onward onward
  obtain ⟨kept, left, rfl, -, stop, same⟩ := cuts.upTo
    (fun token member => closed token (onward ▸ List.mem_append_right _ member)) upTo
  have zero : Position.start.offset = 0 := rfl
  rw [zero, Nat.zero_add] at start
  rw [Position.offset_advance, zero, Nat.zero_add] at stop
  rw [start, stop, whole, stretch_append, ended]
  exact same _ _ (cuts_ofSource kept)

end Scriptling.Tokens
