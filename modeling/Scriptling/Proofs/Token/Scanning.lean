/-
This file follows the scanner from token to token. It reads on after a gap until
nothing is left, so what holds of every token that can be read holds of all
tokens of a source, and only the end of the input is of its kind.
-/

import Scriptling.Token.Lexer

namespace Scriptling

namespace Lexeme

theorem kind_ofString (quote : UInt8) (rest contents : Bytes) (length : Nat) :
    (ofString quote rest contents length).kind = .string := by
  fun_induction ofString quote rest contents length with
  | case1 => rfl
  | case2 => rfl
  | case3 => rfl
  | case4 _ _ _ _ _ hypothesis => exact hypothesis
  | case5 _ _ _ _ _ _ hypothesis => exact hypothesis

/-- A name is read as an identifier or a reserved word. -/
theorem kind_ofName (first : UInt8) (rest : Bytes) : (ofName first rest).kind = .identifier ∨
    ∃ keyword, (ofName first rest).kind = .keyword keyword := by
  unfold ofName
  dsimp only
  split
  next keyword _ => exact .inr ⟨keyword, rfl⟩
  next => exact .inl rfl

/-- A lexeme is what the first byte of a text opens. -/
inductive ReadBy (first : UInt8) (rest : Bytes) : Lexeme → Prop
  | newline : first = Byte.newline → ReadBy first rest ⟨.newline, [], 0, true, 1⟩
  | name : ReadBy first rest (ofName first rest)
  | number : Byte.isDigit first = true → ReadBy first rest (ofNumber first rest)
  | string : first = Byte.quote ∨ first = Byte.doubleQuote →
    ReadBy first rest (ofString first rest [] 1)
  | symbol {kind : TokenKind} : kind ∈ TokenKind.symbols →
    ascii kind.spelling <+: first :: rest →
      ReadBy first rest ⟨kind, ascii kind.spelling, 0, true, kind.spelling.length⟩
  | unknown : ReadBy first rest ⟨.unknown, [first], 0, true, 1⟩

theorem readBy_read (first : UInt8) (rest : Bytes) : ReadBy first rest (read first rest) := by
  unfold read
  split
  next newline => exact .newline newline
  split
  next => exact .name
  split
  next digit => exact .number digit
  split
  next quote => exact .string quote
  unfold ofSymbol
  split
  next kind found =>
    have opens := List.find?_some found
    exact .symbol (List.mem_of_find?_eq_some found) (List.isPrefixOf_iff_prefix.mp opens)
  next => exact .unknown

/-- Nothing but a newline is read as one, and nothing at all as the end of the source. -/
theorem kind_read_of_ne {first : UInt8} (other : first ≠ Byte.newline) (rest : Bytes) :
    (read first rest).kind ≠ .newline ∧ (read first rest).kind ≠ .endOfInput := by
  have opens := readBy_read first rest
  generalize read first rest = lexeme at opens ⊢
  cases opens with
  | newline same => exact absurd same other
  | name =>
    rcases kind_ofName first rest with same | ⟨keyword, same⟩ <;>
    · rw [same]
      exact ⟨nofun, nofun⟩
  | number => exact ⟨nofun, nofun⟩
  | string =>
    rw [kind_ofString]
    exact ⟨nofun, nofun⟩
  | symbol member =>
    constructor <;>
    · rintro rfl
      exact absurd member (by decide)
  | unknown => exact ⟨nofun, nofun⟩

/-- No text of the source is read as its end. -/
theorem kind_read (first : UInt8) (rest : Bytes) : (read first rest).kind ≠ .endOfInput := by
  by_cases newline : first = Byte.newline
  · rw [read, if_pos newline]
    exact fun same => nomatch same
  · exact (kind_read_of_ne newline rest).2

theorem le_length_ofString (quote : UInt8) (rest contents : Bytes) (length : Nat) :
    length ≤ (ofString quote rest contents length).length := by
  fun_induction ofString quote rest contents length with
  | case1 => exact Nat.le_refl _
  | case2 => exact Nat.le_succ _
  | case3 => exact Nat.le_succ _
  | case4 _ _ _ _ _ hypothesis => exact Nat.le_trans (Nat.le_add_right _ 2) hypothesis
  | case5 _ _ _ _ _ _ hypothesis => exact Nat.le_trans (Nat.le_succ _) hypothesis

/-- Every token takes its first byte. -/
theorem length_read_pos (first : UInt8) (rest : Bytes) : 0 < (read first rest).length := by
  have opens := readBy_read first rest
  generalize read first rest = lexeme at opens ⊢
  cases opens with
  | newline => exact Nat.one_pos
  | name => exact Nat.succ_pos _
  | number => exact Nat.succ_pos _
  | string => exact le_length_ofString _ _ _ _
  | @symbol kind member =>
    have spelled : ∀ kind ∈ TokenKind.symbols, 0 < kind.spelling.length := by decide
    exact spelled kind member
  | unknown => exact Nat.one_pos

end Lexeme

theorem Position.offset_le_advance (position : Position) (bytes : Bytes) :
    position.offset ≤ (position.advance bytes).offset := by
  rw [offset_advance]
  exact Nat.le_add_right _ _

namespace Tokens

/-- At the end of a source nothing is left but a gap. -/
theorem scanAfter_of_nil {done : List Token} {position : Position} {source : Bytes}
    (nothing : source.drop (gap source).length = []) :
    scanAfter done position source =
      ⟨done.reverse, finishAt (position.advance (gap source))⟩ := by
  rw [scanAfter]
  split
  next => rfl
  next byte rest found =>
    rw [nothing] at found
    cases found

/-- After a gap stands the next token. -/
theorem scanAfter_of_cons {done : List Token} {position : Position} {source rest : Bytes}
    {byte : UInt8} (found : source.drop (gap source).length = byte :: rest) :
    scanAfter done position source =
      let first := position.advance (gap source)
      let lexeme := Lexeme.read byte rest
      let last := first.advance ((byte :: rest).take lexeme.length)
      scanAfter (lexeme.token first last :: done) last (rest.drop (lexeme.length - 1)) := by
  rw [scanAfter]
  split
  next nothing =>
    rw [found] at nothing
    cases nothing
  next other others same =>
    rw [found] at same
    cases same
    rfl

/-- What holds of every token that is read holds of all words of a source. -/
theorem forall_scanAfter {property : Token → Prop}
    (each : ∀ byte rest first last, property ((Lexeme.read byte rest).token first last))
    (done : List Token) (position : Position) (source : Bytes)
    (before : ∀ token ∈ done, property token) :
    ∀ token ∈ (scanAfter done position source).words, property token := by
  fun_induction scanAfter done position source with
  | case1 => exact fun token member => before token (List.mem_reverse.mp member)
  | case2 _ _ _ _ _ _ _ _ _ _ hypothesis =>
    refine hypothesis fun token member => ?_
    rcases List.mem_cons.mp member with rfl | old
    · exact each _ _ _ _
    · exact before token old

theorem finish_scanAfter (done : List Token) (position : Position) (source : Bytes) :
    (scanAfter done position source).finish.kind = .endOfInput := by
  fun_induction scanAfter done position source with
  | case1 => rfl
  | case2 _ _ _ _ _ _ _ _ _ _ hypothesis => exact hypothesis

/-- Tokens come in the order of the places where they start. -/
theorem starts_scanAfter (done : List Token) (position : Position) (source : Bytes)
    (sorted : done.Pairwise fun later earlier => earlier.span.start ≤ later.span.start)
    (before : ∀ token ∈ done, token.span.start ≤ position.offset) :
    (scanAfter done position source).toList.Pairwise fun earlier later =>
      earlier.span.start ≤ later.span.start := by
  fun_induction scanAfter done position source with
  | case1 done position source =>
    refine List.pairwise_append.mpr ⟨List.pairwise_reverse.mpr sorted, List.pairwise_singleton _ _,
      fun token member finish same => ?_⟩
    rw [List.mem_singleton.mp same]
    exact Nat.le_trans (before token (List.mem_reverse.mp member)) (position.offset_le_advance _)
  | case2 done position source blank first byte rest found lexeme last hypothesis =>
    have start : position.offset ≤ first.offset := position.offset_le_advance _
    have stop : first.offset ≤ last.offset := first.offset_le_advance _
    refine hypothesis (List.pairwise_cons.mpr ⟨fun token member => ?_, sorted⟩)
      (List.forall_mem_cons.mpr ⟨stop, fun token member => ?_⟩)
    · exact Nat.le_trans (before token member) start
    · exact Nat.le_trans (before token member) (Nat.le_trans start stop)

/-- The tokens of a source come in the order of the places where they start. -/
theorem starts_ofSource (source : Bytes) :
    (ofSource source).toList.Pairwise fun earlier later =>
      earlier.span.start ≤ later.span.start :=
  starts_scanAfter [] Position.start source .nil (List.forall_mem_nil _)

/-- The end of the input ends the tokens of a source, and no word before it is of its kind. -/
theorem kind_ofSource (source : Bytes) :
    (ofSource source).finish.kind = .endOfInput ∧
      ∀ token ∈ (ofSource source).words, token.kind ≠ .endOfInput :=
  ⟨finish_scanAfter [] Position.start source,
    forall_scanAfter (fun byte rest _ _ => Lexeme.kind_read byte rest) [] Position.start source
      fun _ member => absurd member List.not_mem_nil⟩

end Tokens

end Scriptling
