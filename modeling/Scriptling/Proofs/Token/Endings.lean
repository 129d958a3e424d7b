/-
This file says where tokens end lines and strings. A newline stands on the line
that it ends, so whatever comes after it stands further down, and no token stands
above an earlier one.

A string ends at the first of its quotes that no backslash stands before. If there
is none it takes all that is left of the source, so it is the last word: in no
source is there more than one string that is not terminated.
-/

import Scriptling.Proofs.Token.Slicing

namespace Scriptling

/-! ### Lines -/

/-- A token stands no further up than an earlier one, and further down than an earlier newline. -/
structure Token.LinesUp (earlier later : Token) : Prop where
  line : earlier.span.line ≤ later.span.line
  newline : earlier.kind = .newline → earlier.span.line < later.span.line

/-- After a newline the line is another. -/
theorem Lexeme.line_after_newline {position : Position} {byte : UInt8} {rest : Bytes}
    (newline : (read byte rest).kind = .newline) :
    (position.advance ((byte :: rest).take (read byte rest).length)).line = position.line + 1 := by
  have same : byte = Byte.newline :=
    Classical.byContradiction fun other => (kind_read_of_ne other rest).1 newline
  subst same
  rfl

namespace Tokens

/-- The tokens of a source stand line by line, from the line where the source begins on. -/
theorem Cuts.lines {position : Position} {source : Bytes} {tokens : Tokens}
    (cuts : Cuts position source tokens) :
    (∀ token ∈ tokens.toList, position.line ≤ token.span.line) ∧
      tokens.toList.Pairwise Token.LinesUp := by
  induction cuts with
  | @ended position source nothing =>
    exact ⟨List.forall_mem_singleton.mpr (position.line_le_advance _), List.pairwise_singleton _ _⟩
  | @token position last source rest byte tokens found stops _ hypothesis =>
    obtain ⟨below, ordered⟩ := hypothesis
    have first := position.line_le_advance (gap source)
    have stop : (position.advance (gap source)).line ≤ last.line := by
      rw [stops]
      exact Position.line_le_advance _ _
    refine ⟨List.forall_mem_cons.mpr ⟨first, fun token member => ?_⟩,
      List.pairwise_cons.mpr ⟨fun token member => ⟨?_, fun newline => ?_⟩, ordered⟩⟩
    · exact Nat.le_trans first (Nat.le_trans stop (below token member))
    · exact Nat.le_trans stop (below token member)
    · have next : last.line = (position.advance (gap source)).line + 1 := by
        rw [stops]
        exact Lexeme.line_after_newline newline
      have further := below token member
      rw [next] at further
      exact further

theorem lines_ofSource (source : Bytes) : (ofSource source).toList.Pairwise Token.LinesUp :=
  (cuts_ofSource source).lines.2

end Tokens

/-! ### Strings -/

/-- What may stand between the quotes of a string: no such quote, unless a backslash stands before
it. -/
inductive Byte.Between (quote : UInt8) : Bytes → Prop
  | nil : Between quote []
  | plain {byte : UInt8} {rest : Bytes} : byte ≠ quote → byte ≠ backslash → Between quote rest →
    Between quote (byte :: rest)
  | escaped (byte : UInt8) {rest : Bytes} : Between quote rest →
    Between quote (backslash :: byte :: rest)

/-- What spells a text may stand between quotes. -/
theorem Byte.Spells.between {quote : UInt8} {content text : Bytes}
    (spells : Spells quote content text) : Between quote content := by
  induction spells with
  | nil => exact .nil
  | cons written _ hypothesis =>
    cases written with
    | itself notQuote plain => exact .plain notQuote plain hypothesis
    | escaped => exact .escaped _ hypothesis
    | newline => exact .escaped _ hypothesis
    | tab => exact .escaped _ hypothesis
    | carriageReturn => exact .escaped _ hypothesis

/-- What may stand between quotes spells some text. -/
theorem Byte.Between.exists_spells {quote : UInt8} {content : Bytes}
    (between : Between quote content) : ∃ text, Spells quote content text := by
  induction between with
  | nil => exact ⟨[], .nil⟩
  | plain notQuote plain _ hypothesis =>
    obtain ⟨text, spells⟩ := hypothesis
    exact ⟨_ :: text, .cons (.itself notQuote plain) spells⟩
  | escaped byte _ hypothesis =>
    obtain ⟨text, spells⟩ := hypothesis
    exact ⟨_ :: text, .cons (form_unescape quote byte) spells⟩

/-- What a string takes up in the source begins with a quote, but does not end with the same quote
as its first one after that. -/
def Token.Unterminated (token : Token) (source : Bytes) : Prop :=
  token.kind = .string ∧ ∀ quote content, Byte.Between quote content →
    token.taken source ≠ quote :: (content ++ [quote])

namespace Lexeme

/-- Only a string can be open, and it is read as one. -/
theorem read_of_string {first : UInt8} {rest : Bytes}
    (isString : (read first rest).kind = .string) :
    (first = Byte.quote ∨ first = Byte.doubleQuote) ∧
      read first rest = ofString first rest [] 1 := by
  have opens := readBy_read first rest
  generalize read first rest = lexeme at opens isString ⊢
  cases opens with
  | newline => cases isString
  | name =>
    rcases kind_ofName first rest with same | ⟨keyword, same⟩ <;> cases same.symm.trans isString
  | number => cases isString
  | string quote => exact ⟨quote, rfl⟩
  | symbol member =>
    cases isString
    exact absurd member (by decide)
  | unknown => cases isString

theorem closed_read {first : UInt8} {rest : Bytes} (other : (read first rest).kind ≠ .string) :
    (read first rest).closed = true := by
  have opens := readBy_read first rest
  generalize read first rest = lexeme at opens other ⊢
  cases opens with
  | string => exact absurd (kind_ofString _ _ _ _) other
  | _ => rfl

/-- A string that is open has taken all there was. -/
theorem length_of_open (quote : UInt8) (rest contents : Bytes) (length : Nat)
    (opens : (ofString quote rest contents length).closed = false) :
    (ofString quote rest contents length).length = length + rest.length := by
  fun_induction ofString quote rest contents length with
  | case1 => rfl
  | case2 => cases opens
  | case3 => rfl
  | case4 contents length escaped rest _ hypothesis =>
    rw [hypothesis opens, List.length_cons, List.length_cons]
    omega
  | case5 byte rest contents length _ _ hypothesis =>
    rw [hypothesis opens, List.length_cons]
    omega

/-- A string that is closed has taken what stands between its quotes and the last quote. -/
theorem between_of_closed (quote : UInt8) (rest contents : Bytes) (length : Nat)
    (closed : (ofString quote rest contents length).closed = true) :
    ∃ content, Byte.Between quote content ∧
      rest.take ((ofString quote rest contents length).length - length) = content ++ [quote] := by
  obtain ⟨content, text, left, spells, rfl, scanned⟩ :=
    spells_of_closed quote rest contents length closed
  refine ⟨content, spells.between, ?_⟩
  rw [scanned]
  dsimp only
  rw [Nat.add_sub_cancel_left, List.append_cons]
  exact List.take_left' (List.length_append ..)

/-- What stands between quotes is read as a closed string. -/
theorem closed_of_between {quote : UInt8} (other : Byte.backslash ≠ quote) {content : Bytes}
    (between : Byte.Between quote content) (contents : Bytes) (length : Nat) :
    (ofString quote (content ++ [quote]) contents length).closed = true := by
  obtain ⟨text, spells⟩ := between.exists_spells
  rw [ofString_spells other spells]

end Lexeme

namespace Tokens

/-- The strings that are not closed are those that are not terminated in the source. -/
theorem open_iff {source : Bytes} {token : Token} (member : token ∈ (ofSource source).words) :
    token.closed = false ↔ token.Unterminated source := by
  obtain ⟨before, byte, rest, rfl, read⟩ := readAt_of_mem_words member
  have taken := read.taken_eq_cons
  obtain ⟨-, same⟩ := read
  have kind : token.kind = (Lexeme.read byte rest).kind := by rw [same]; rfl
  have closed : token.closed = (Lexeme.read byte rest).closed := by rw [same]; rfl
  constructor
  · intro opens
    rw [closed] at opens
    have isString : (Lexeme.read byte rest).kind = .string := by
      by_contra other
      rw [Lexeme.closed_read other] at opens
      cases opens
    refine ⟨kind.trans isString, fun quote content between terminated => ?_⟩
    obtain ⟨quoted, reads⟩ := Lexeme.read_of_string isString
    have notQuote : Byte.backslash ≠ byte := by
      rcases quoted with rfl | rfl <;> decide
    rw [taken] at terminated
    obtain ⟨rfl, left⟩ := List.cons.inj terminated
    have again := Lexeme.read_take byte rest
    rw [left] at again
    obtain ⟨-, readsAgain⟩ := Lexeme.read_of_string (again ▸ isString)
    rw [readsAgain] at again
    have ended := Lexeme.closed_of_between notQuote between [] 1
    rw [again, opens] at ended
    cases ended
  · rintro ⟨isString, unended⟩
    rw [kind] at isString
    obtain ⟨-, reads⟩ := Lexeme.read_of_string isString
    rw [closed, Bool.eq_false_iff]
    intro ends
    rw [reads] at ends taken
    obtain ⟨content, between, left⟩ := Lexeme.between_of_closed _ _ _ _ ends
    rw [left] at taken
    exact unended byte content between taken

/-- A string that is not closed is the last word. -/
theorem Cuts.last_of_open {position : Position} {source : Bytes} {tokens : Tokens}
    (cuts : Cuts position source tokens) {before after : List Token} {token : Token}
    (split : tokens.words = before ++ token :: after) (opens : token.closed = false) :
    after = [] := by
  obtain ⟨passed, left, -, cutsLeft⟩ := cuts.behind split
  obtain ⟨byte, rest, last, -, -, -, rfl, cutsRest⟩ := cutsLeft.of_cons
  have isString : (Lexeme.read byte rest).kind = .string := by
    by_contra other
    exact Bool.false_ne_true (opens.symm.trans (Lexeme.closed_read other))
  obtain ⟨-, reads⟩ := Lexeme.read_of_string isString
  have length : (Lexeme.read byte rest).length - 1 = rest.length := by
    rw [reads, Lexeme.length_of_open byte rest [] 1 (reads ▸ opens), Nat.add_sub_cancel_left]
  rw [length, List.drop_length] at cutsRest
  obtain ⟨_, none⟩ := cutsRest.of_gap ⟨[], [], rfl, List.forall_mem_nil _, .inl rfl⟩
  exact congrArg Tokens.words none

/-- At most one word of a source has a fault. -/
theorem problems_ofSource (source : Bytes) :
    (ofSource source).words.filterMap Token.problem? = [] ∨
      ∃ problem, (ofSource source).words.filterMap Token.problem? = [problem] := by
  by_cases clean : ∀ token ∈ (ofSource source).words, token.closed = true
  · exact .inl ((problems_eq_nil_iff _).mpr clean)
  · simp only [not_forall, Bool.not_eq_true] at clean
    obtain ⟨token, member, opens⟩ := clean
    obtain ⟨before, after, split⟩ := List.append_of_mem member
    obtain rfl := (cuts_ofSource source).last_of_open split opens
    have earlier : ∀ other ∈ before, other.closed = true := by
      intro other inside
      obtain ⟨front, back, rfl⟩ := List.append_of_mem inside
      rw [List.append_assoc] at split
      by_contra unended
      have none := (cuts_ofSource source).last_of_open split (Bool.not_eq_true _ ▸ unended)
      exact List.append_ne_nil_of_right_ne_nil _ (List.cons_ne_nil _ _) none
    have fault := Token.problem_eq_some_iff.mpr ⟨opens, rfl⟩
    refine .inr ⟨(Cause.unterminatedString token.span.line).placed token.span, ?_⟩
    rw [split, List.filterMap_append, (problems_eq_nil_iff ⟨before, token⟩).mpr earlier,
      List.nil_append, List.filterMap_cons_some fault, List.filterMap_nil]

end Tokens

end Scriptling
