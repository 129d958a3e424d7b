/-
This file proves that a source can be cut into tokens from any of its newlines
on. A newline stands inside no gap and begins its line anew, so what stands
before it decides of the tokens after it only where they are: cutting the rest of
the source afresh gives the same tokens, as many bytes and lines further up.
-/

import Scriptling.Proofs.Token.Scanning

namespace Scriptling

/-! ### Moving along the source -/

/-- The same place after so many more bytes and lines. -/
def Position.moved (bytes lines : Nat) (position : Position) : Position :=
  ⟨position.offset + bytes, position.line + lines, position.column⟩

/-- The same stretch after so many more bytes and lines. -/
def Span.moved (bytes lines : Nat) (span : Span) : Span :=
  ⟨span.start + bytes, span.stop + bytes, span.line + lines, span.column⟩

/-- The same token after so many more bytes and lines. -/
def Token.moved (bytes lines : Nat) (token : Token) : Token :=
  { token with span := token.span.moved bytes lines }

/-- The same tokens after so many more bytes and lines. -/
def Tokens.moved (bytes lines : Nat) (tokens : Tokens) : Tokens :=
  ⟨tokens.words.map (Token.moved bytes lines), tokens.finish.moved bytes lines⟩

namespace Position

theorem step_moved (bytes lines : Nat) (position : Position) (byte : UInt8) :
    (position.moved bytes lines).step byte = (position.step byte).moved bytes lines := by
  unfold step moved
  split
  next =>
    rw [Nat.add_right_comm position.offset, Nat.add_right_comm position.line]
  next => rw [Nat.add_right_comm]

theorem advance_moved (bytes lines : Nat) (position : Position) (passed : Bytes) :
    (position.moved bytes lines).advance passed = (position.advance passed).moved bytes lines := by
  induction passed generalizing position with
  | nil => rfl
  | cons byte rest hypothesis =>
    show ((position.moved bytes lines).step byte).advance rest = _
    rw [step_moved, hypothesis]
    rfl

/-- Reading on never goes up a line. -/
theorem line_le_advance (position : Position) (passed : Bytes) :
    position.line ≤ (position.advance passed).line := by
  induction passed generalizing position with
  | nil => exact Nat.le_refl _
  | cons byte rest hypothesis =>
    refine Nat.le_trans ?_ (hypothesis (position.step byte))
    unfold step
    split
    next => exact Nat.le_succ _
    next => exact Nat.le_refl _

/-- After a newline a line begins anew, as after one that opens the source. -/
theorem step_newline {position : Position} (line : 1 ≤ position.line) :
    position.step Byte.newline =
      (start.step Byte.newline).moved position.offset (position.line - 1) := by
  have lines : position.line + 1 = 1 + 1 + (position.line - 1) := by omega
  show Position.mk (position.offset + 1) (position.line + 1) 1 =
    ⟨0 + 1 + position.offset, 1 + 1 + (position.line - 1), 1⟩
  rw [lines, Nat.zero_add, Nat.add_comm 1 position.offset]

end Position

/-! ### What is left of the source -/

/-- A gap is what a source begins with. -/
theorem gap_append_drop (source : Bytes) :
    gap source ++ source.drop (gap source).length = source := by
  refine List.prefix_iff_eq_append.mp ?_
  have split := List.takeWhile_append_dropWhile (p := Byte.isBlank) (l := source)
  unfold gap
  dsimp only
  generalize source.takeWhile Byte.isBlank = blanks at split ⊢
  generalize source.dropWhile Byte.isBlank = others at split ⊢
  subst split
  cases others with
  | nil => exact List.prefix_append _ _
  | cons byte rest =>
    dsimp only
    split
    next =>
      refine (List.prefix_append_right_inj blanks).mpr ?_
      exact List.cons_prefix_cons.mpr ⟨rfl, List.takeWhile_prefix _⟩
    next => exact List.prefix_append _ _

/-- A token is what is left of a source begins with. -/
theorem Lexeme.take_append_drop (byte : UInt8) (rest : Bytes) :
    (byte :: rest).take (read byte rest).length ++ rest.drop ((read byte rest).length - 1) =
      byte :: rest := by
  obtain ⟨length, more⟩ := Nat.exists_eq_add_one_of_ne_zero
    (Nat.ne_of_gt (length_read_pos byte rest))
  rw [more, List.take_succ_cons, Nat.add_sub_cancel, List.cons_append, List.take_append_drop]

/-! ### Cutting a source -/

namespace Tokens

/-- A source that begins at a place is cut into tokens: a gap, a token, and the rest from where
the token stops. -/
inductive Cuts : Position → Bytes → Tokens → Prop
  | ended {position : Position} {source : Bytes}
      (nothing : source.drop (gap source).length = []) :
      Cuts position source ⟨[], finishAt (position.advance (gap source))⟩
  | token {position last : Position} {source rest : Bytes} {byte : UInt8} {tokens : Tokens}
      (found : source.drop (gap source).length = byte :: rest)
      (stops : last = (position.advance (gap source)).advance
        ((byte :: rest).take (Lexeme.read byte rest).length))
      (cuts : Cuts last (rest.drop ((Lexeme.read byte rest).length - 1)) tokens) :
      Cuts position source
        ⟨(Lexeme.read byte rest).token (position.advance (gap source)) last :: tokens.words,
          tokens.finish⟩

/-- The scanner cuts the source, and keeps the tokens that it was given. -/
theorem cuts_scanAfter (done : List Token) (position : Position) (source : Bytes) :
    ∃ tokens, scanAfter done position source = ⟨done.reverse ++ tokens.words, tokens.finish⟩ ∧
      Cuts position source tokens := by
  fun_induction scanAfter done position source with
  | case1 done position source blank first nothing =>
    refine ⟨⟨[], finishAt first⟩, ?_, .ended nothing⟩
    rw [List.append_nil]
  | case2 done position source blank first byte rest found lexeme last hypothesis =>
    obtain ⟨tokens, scanned, cuts⟩ := hypothesis
    refine ⟨⟨lexeme.token first last :: tokens.words, tokens.finish⟩, ?_, .token found rfl cuts⟩
    rw [scanned, List.reverse_cons, List.append_assoc]
    rfl

theorem cuts_ofSource (source : Bytes) : Cuts Position.start source (ofSource source) := by
  obtain ⟨tokens, scanned, cuts⟩ := cuts_scanAfter [] Position.start source
  unfold ofSource
  rw [scanned]
  exact cuts

/-- A source is cut in one way only. -/
theorem Cuts.unique {position : Position} {source : Bytes} {first second : Tokens}
    (one : Cuts position source first) (other : Cuts position source second) : first = second := by
  induction one generalizing second with
  | ended nothing =>
    cases other with
    | ended => rfl
    | token found => cases nothing.symm.trans found
  | token found stops _ hypothesis =>
    cases other with
    | ended nothing => cases nothing.symm.trans found
    | token foundOther stopsOther cuts =>
      cases found.symm.trans foundOther
      cases stops.trans stopsOther.symm
      rw [hypothesis cuts]

/-- The same source further down is cut into the same tokens further down. -/
theorem Cuts.moved {position : Position} {source : Bytes} {tokens : Tokens}
    (cuts : Cuts position source tokens) (bytes lines : Nat) :
    Cuts (position.moved bytes lines) source (tokens.moved bytes lines) := by
  induction cuts with
  | @ended position source nothing =>
    have ends : Cuts (position.moved bytes lines) source _ := .ended nothing
    rw [Position.advance_moved] at ends
    exact ends
  | @token position last source rest byte tokens found stops _ hypothesis =>
    have stopsMoved : last.moved bytes lines = ((position.moved bytes lines).advance
        (gap source)).advance ((byte :: rest).take (Lexeme.read byte rest).length) := by
      rw [Position.advance_moved, Position.advance_moved, ← stops]
    have steps := Cuts.token found stopsMoved hypothesis
    rw [Position.advance_moved] at steps
    exact steps

/-- A newline that comes first is a token of its own. -/
theorem cuts_newline {position : Position} {rest : Bytes} {tokens : Tokens}
    (cuts : Cuts position (Byte.newline :: rest) tokens) :
    ∃ token words, tokens.words = token :: words ∧ token.kind = .newline ∧
      Cuts (position.step Byte.newline) rest ⟨words, tokens.finish⟩ := by
  generalize whole : Byte.newline :: rest = source at cuts
  cases cuts with
  | ended nothing =>
    subst whole
    cases nothing
  | token found stops cuts =>
    subst whole
    cases found
    subst stops
    exact ⟨_, _, rfl, rfl, cuts⟩

/-- Where there is a token, it was read after the gap, and what it left is cut into the others. -/
theorem Cuts.of_cons {position : Position} {source : Bytes} {token finish : Token}
    {after : List Token} (cuts : Cuts position source ⟨token :: after, finish⟩) :
    ∃ byte rest last, source = gap source ++ byte :: rest ∧
      source.drop (gap source).length = byte :: rest ∧
      last = (position.advance (gap source)).advance
        ((byte :: rest).take (Lexeme.read byte rest).length) ∧
      token = (Lexeme.read byte rest).token (position.advance (gap source)) last ∧
      Cuts last (rest.drop ((Lexeme.read byte rest).length - 1)) ⟨after, finish⟩ := by
  cases cuts with
  | token found stops cuts =>
    have whole := gap_append_drop source
    rw [found] at whole
    exact ⟨_, _, _, whole.symm, found, stops, rfl, cuts⟩

/-- Behind some of the tokens, the source is cut into those that come after them. -/
theorem Cuts.behind {position : Position} {source : Bytes} {tokens : Tokens}
    (cuts : Cuts position source tokens) {before after : List Token}
    (split : tokens.words = before ++ after) :
    ∃ passed rest, source = passed ++ rest ∧
      Cuts (position.advance passed) rest ⟨after, tokens.finish⟩ := by
  induction before generalizing position source tokens with
  | nil =>
    refine ⟨[], source, rfl, ?_⟩
    rw [Position.advance_nil, ← List.nil_append after, ← split]
    exact cuts
  | cons first before hypothesis =>
    cases cuts with
    | ended => cases split
    | @token _ last _ rest byte tokens found stops cuts =>
      obtain ⟨passed, left, splits, cutsLeft⟩ := hypothesis cuts (List.cons.inj split).2
      have whole := gap_append_drop source
      rw [found, ← Lexeme.take_append_drop byte rest, splits] at whole
      refine ⟨gap source ++ (byte :: rest).take (Lexeme.read byte rest).length ++ passed, left,
        ?_, ?_⟩
      · rw [List.append_assoc, List.append_assoc, whole]
      · rw [Position.advance_append, Position.advance_append, ← stops]
        exact cutsLeft

/-- At a newline among the tokens the source splits, and what comes after that token is what
comes after the newline. -/
theorem Cuts.split {position : Position} {source : Bytes} {tokens : Tokens}
    (cuts : Cuts position source tokens) {before after : List Token} {newline : Token}
    (split : tokens.words = before ++ newline :: after) (kind : newline.kind = .newline) :
    ∃ passed rest, source = passed ++ Byte.newline :: rest ∧
      newline.span.start = (position.advance passed).offset ∧
      Cuts ((position.advance passed).step Byte.newline) rest ⟨after, tokens.finish⟩ := by
  obtain ⟨passed, left, rfl, cutsLeft⟩ := cuts.behind split
  obtain ⟨byte, rest, last, whole, -, stops, rfl, cutsRest⟩ := cutsLeft.of_cons
  have isNewline : byte = Byte.newline :=
    Classical.byContradiction fun other => (Lexeme.kind_read_of_ne other rest).1 kind
  subst isNewline stops
  refine ⟨passed ++ gap left, rest, ?_, ?_, ?_⟩
  · rw [List.append_assoc, ← whole]
  · rw [Position.advance_append]
    rfl
  · rw [Position.advance_append]
    exact cutsRest

/-- The end of the input stands after the whole source. -/
theorem Cuts.finish {position : Position} {source : Bytes} {tokens : Tokens}
    (cuts : Cuts position source tokens) : tokens.finish = finishAt (position.advance source) := by
  induction cuts with
  | @ended position source nothing =>
    have whole := gap_append_drop source
    rw [nothing, List.append_nil] at whole
    exact congrArg (finishAt ∘ position.advance) whole
  | @token position last source rest byte tokens found stops cuts hypothesis =>
    have whole := gap_append_drop source
    rw [found, ← Lexeme.take_append_drop byte rest] at whole
    rw [← whole, Position.advance_append, Position.advance_append, ← stops]
    exact hypothesis

/-- At the end of the input nothing is left of the source. -/
theorem drop_finish (source : Bytes) : source.drop (ofSource source).finish.span.start = [] := by
  have start : (ofSource source).finish.span.start = source.length := by
    rw [(cuts_ofSource source).finish]
    exact (Position.offset_advance _ _).trans (Nat.zero_add _)
  rw [start, List.drop_length]

/-- From a newline among the tokens of a source on, the tokens are those of the rest of the
source, moved by the bytes and the lines before. -/
theorem ofSource_drop {source : Bytes} {before after : List Token} {newline : Token}
    (split : (ofSource source).words = before ++ newline :: after)
    (kind : newline.kind = .newline) :
    ∃ first words, (ofSource (source.drop newline.span.start)).words = first :: words ∧
      first.kind = .newline ∧
      ⟨after, (ofSource source).finish⟩ =
        (Tokens.mk words (ofSource (source.drop newline.span.start)).finish).moved
          newline.span.start
          ((Position.start.advance (source.take newline.span.start)).line - 1) := by
  obtain ⟨passed, rest, whole, start, cuts⟩ := (cuts_ofSource source).split split kind
  have offset : (Position.start.advance passed).offset = passed.length :=
    (Position.offset_advance _ _).trans (Nat.zero_add _)
  rw [Position.step_newline (Position.start.line_le_advance passed), offset] at cuts
  have left : source.drop newline.span.start = Byte.newline :: rest := by
    rw [start, offset, whole, List.drop_left]
  have taken : source.take newline.span.start = passed := by
    rw [start, offset, whole, List.take_left]
  obtain ⟨first, words, found, kindFirst, cutsAlone⟩ :=
    cuts_newline (cuts_ofSource (Byte.newline :: rest))
  rw [left, taken, start, offset]
  exact ⟨first, words, found, kindFirst, cuts.unique (cutsAlone.moved _ _)⟩

end Tokens

end Scriptling
