/-
This file carries texts through string literals. Whatever spells a text between
two quotes is one token, with that text and from the one quote to the other, and
the expression that it is has the text as its value. Nothing else is ever read as
a string: what a closed string takes up in a source spells the text of the token.
-/

import Scriptling.Proofs.Session.Numerals
import Scriptling.Proofs.Token.Endings

namespace Scriptling

/-- What is written between quotes, with the quotes. -/
def Byte.enclose (quote : UInt8) (content : Bytes) : Bytes :=
  quote :: (content ++ [quote])

/-- A token is the string that a literal at the start of a source is read as: it denotes a text, it
stops where the literal does, and there is nothing wrong with it. -/
structure Token.IsLiteral (token : Token) (text literal : Bytes) : Prop where
  kind : token.kind = .string
  text : token.text = text
  span : token.span = ⟨0, literal.length, 1, 1⟩
  sound : token.problem? = none

/-! ### Tokens -/

/-- Where nothing is wrong with a token, it is closed. -/
theorem Token.closed_of_sound {token : Token} (sound : token.problem? = none) :
    token.closed = true := by
  unfold problem? at sound
  split at sound
  next closed => exact closed
  next => cases sound

/-- What spells a text between quotes is read as a string with that text. -/
theorem Lexeme.read_spells {quote : UInt8} (quoted : quote = Byte.quote ∨ quote = Byte.doubleQuote)
    {content text : Bytes} (spells : Byte.Spells quote content text) (rest : Bytes) :
    read quote (content ++ quote :: rest) =
      ⟨.string, text, 0, true, (Byte.enclose quote content).length⟩ := by
  have reads : read quote (content ++ quote :: rest) =
      ofString quote (content ++ quote :: rest) [] 1 := by
    rcases quoted with rfl | rfl <;> rfl
  have other : Byte.backslash ≠ quote := by
    rcases quoted with rfl | rfl <;> decide
  have length : 1 + (content.length + 1) = (Byte.enclose quote content).length := by
    show _ = (content ++ [quote]).length + 1
    rw [List.length_append, List.length_singleton, Nat.add_comm]
  rw [reads, ofString_spells other spells, length]
  rfl

theorem Byte.isSolid_of_quote {quote : UInt8} (quoted : quote = Byte.quote ∨ quote = doubleQuote) :
    IsSolid quote := by
  rcases quoted with rfl | rfl <;> decide

namespace Tokens

/-- A literal is the first token of a source that begins with it. -/
theorem words_of_literal {quote : UInt8} (quoted : quote = Byte.quote ∨ quote = Byte.doubleQuote)
    {content text : Bytes} (spells : Byte.Spells quote content text) (further : Bytes) :
    ∃ token words, (ofSource (Byte.enclose quote content ++ further)).words = token :: words ∧
      token.IsLiteral text (Byte.enclose quote content) := by
  have whole : Byte.enclose quote content ++ further = quote :: (content ++ quote :: further) :=
    congrArg (quote :: ·) (List.append_assoc content [quote] further)
  obtain ⟨token, words, found, read⟩ :=
    words_of_solid (Byte.isSolid_of_quote quoted) (content ++ quote :: further)
  refine ⟨token, words, whole ▸ found, ?_⟩
  have same := read.same
  rw [Lexeme.read_spells quoted spells, ← whole] at same
  dsimp only at same
  rw [List.take_left] at same
  subst same
  refine ⟨rfl, rfl, ?_, rfl⟩
  show Span.mk 0 (Position.start.advance (Byte.enclose quote content)).offset 1 1 = _
  rw [Position.offset_advance_start]

/-- A literal that is all of the source is its one word. -/
theorem word_of_literal {quote : UInt8} (quoted : quote = Byte.quote ∨ quote = Byte.doubleQuote)
    {content text : Bytes} (spells : Byte.Spells quote content text) :
    (ofSource (Byte.enclose quote content)).words.map Token.word = [.string (Text.ofBytes text)] ∧
      ∀ token ∈ (ofSource (Byte.enclose quote content)).words, token.closed = true := by
  have cuts := cuts_ofSource (Byte.enclose quote content)
  generalize ofSource (Byte.enclose quote content) = tokens at cuts ⊢
  have read := Lexeme.read_spells quoted spells []
  have gapped : IsGap [] (Byte.enclose quote content) :=
    ⟨[], [], rfl, List.forall_mem_nil _, .inl rfl⟩
  have again : Cuts Position.start ([] ++ (Byte.enclose quote content).take
      (Lexeme.read quote (content ++ [quote])).length) tokens := by
    rw [List.nil_append, read]
    dsimp only
    rwa [List.take_length]
  obtain ⟨first, last, words⟩ := Cuts.of_last gapped (Byte.isSolid_of_quote quoted) again
  rw [words, read]
  exact ⟨rfl, List.forall_mem_singleton.mpr rfl⟩

/-- What a closed string takes up in a source spells its text. -/
theorem spells_taken {source : Bytes} {token : Token} (member : token ∈ (ofSource source).words)
    (isString : token.kind = .string) (closed : token.closed = true) :
    ∃ quote content, (quote = Byte.quote ∨ quote = Byte.doubleQuote) ∧
      Byte.Spells quote content token.text ∧ token.taken source = Byte.enclose quote content := by
  obtain ⟨before, quote, rest, rfl, read⟩ := readAt_of_mem_words member
  have taken := read.taken
  have same := read.same
  rw [same] at isString closed
  obtain ⟨quoted, reads⟩ := Lexeme.read_of_string isString
  have closedThere : (Lexeme.ofString quote rest [] 1).closed = true := reads ▸ closed
  obtain ⟨content, text, left, spells, rfl, -⟩ := Lexeme.spells_of_closed _ _ _ _ closedThere
  have whole : quote :: (content ++ quote :: left) = Byte.enclose quote content ++ left :=
    congrArg (quote :: ·) (List.append_assoc content [quote] left).symm
  rw [Lexeme.read_spells quoted spells] at same taken
  refine ⟨quote, content, quoted, ?_, ?_⟩
  · rw [same]
    exact spells
  · rw [taken, whole]
    exact List.take_left

end Tokens

/-! ### Expressions -/

theorem Expr.eq_string_of_unplaced {expr : Expr} {place : Span} {text : Text}
    (same : expr.unplaced = .string place text) : ∃ span, expr = .string span text := by
  cases expr with
  | string span => cases same; exact ⟨span, rfl⟩
  | _ => cases same

/-- Evaluating a literal gives the text that it spells, once the output is flushed. -/
theorem Session.evaluate_literal {quote : UInt8}
    (quoted : quote = Byte.quote ∨ quote = Byte.doubleQuote) {content text : Bytes}
    (spells : Byte.Spells quote content text) (limits : Limits) (session : Session) :
    Session.evaluate limits (Byte.enclose quote content) session =
      (do Run.finish none; return .str (Text.ofBytes text) : Run Value).operation
        { session with steps := 0 } := by
  obtain ⟨words, closed⟩ := Tokens.word_of_literal quoted spells
  obtain ⟨other, read, same⟩ := Expr.ofSource_of_short words closed
    (.string ⟨0, 0, 0, 0⟩ (Text.ofBytes text)) trivial trivial (show 2 * 1 < 200 by decide)
  obtain ⟨span, rfl⟩ := Expr.eq_string_of_unplaced same
  exact Session.evaluate_constant read (fun _ => rfl) session

/-! ### Texts and their literals -/

/-- Every text has string literals, and they denote it. Between quotes of either kind any text can be
spelled. Whatever spells it there is read as one string: at the start of a source it is the first
token, with that text, up to the closing quote and without a fault, whatever comes after it. Alone it
is evaluated to the text, unless the output refuses to be flushed in the end. And every string of a
source that has no fault is taken from what spells its text, between two quotes of one kind. -/
theorem literals_denote_texts :
    (∀ quote, quote = Byte.quote ∨ quote = Byte.doubleQuote →
      (∀ text, ∃ content, Byte.Spells quote content text) ∧
      ∀ content text, Byte.Spells quote content text →
        (∀ further, ∃ token words,
          (Tokens.ofSource (Byte.enclose quote content ++ further)).words = token :: words ∧
            token.IsLiteral text (Byte.enclose quote content)) ∧
        ∀ (limits : Limits) (session : Session),
          (session.world.streams.out.flush.1 = .ok () →
            Session.evaluate limits (Byte.enclose quote content) session =
              .ok (.str (Text.ofBytes text)) { session with steps := 0 }.flushed) ∧
          ∀ fault, session.world.streams.out.flush.1 = .error fault →
            Session.evaluate limits (Byte.enclose quote content) session =
              .error (.aborted (.refused fault)) { session with steps := 0 }.flushed) ∧
    ∀ source, ∀ token ∈ (Tokens.ofSource source).words,
      token.kind = .string → token.problem? = none →
        ∃ quote content, (quote = Byte.quote ∨ quote = Byte.doubleQuote) ∧
          Byte.Spells quote content token.text ∧
            token.taken source = Byte.enclose quote content := by
  refine ⟨fun quote quoted => ⟨Byte.exists_spells quoted, fun content text spells =>
    ⟨Tokens.words_of_literal quoted spells, fun limits session => ?_⟩⟩,
    fun source token member isString sound =>
      Tokens.spells_taken member isString (Token.closed_of_sound sound)⟩
  rw [Session.evaluate_literal quoted spells]
  exact ⟨fun granted => Run.operation_of_flushed _ granted,
    fun fault refused => Run.operation_of_unflushed _ refused⟩

/-- A literal may hold a newline, either quote and a byte that is no character, and a backslash may
stand before its closing quote. -/
theorem bytes_of_all_kinds_are_denoted :
    let text : Bytes := [0x0a, 0x0a, 0x22, 0x27, 0x00, 0xff, 0x71, 0x5c]
    let content : Bytes :=
      [0x5c, 0x6e, 0x0a, 0x22, 0x5c, 0x27, 0x00, 0xff, 0x5c, 0x71, 0x5c, 0x5c]
    let source := Byte.enclose Byte.quote content ++ ascii "'x"
    let session := Session.start (Streams.reliable [])
    Byte.Spells Byte.quote content text ∧
    (∃ token words, (Tokens.ofSource source).words = token :: words ∧
      token.IsLiteral text (Byte.enclose Byte.quote content) ∧
      ∃ quote between, (quote = Byte.quote ∨ quote = Byte.doubleQuote) ∧
        Byte.Spells quote between token.text ∧ token.taken source = Byte.enclose quote between) ∧
    Session.evaluate Limits.standard (Byte.enclose Byte.quote content) session =
      .ok (.str (Text.ofBytes text)) session.flushed := by
  intro text content source session
  have spells : Byte.Spells Byte.quote content text :=
    .cons .newline <| .cons (.itself (by decide) (by decide)) <|
    .cons (.itself (by decide) (by decide)) <|
    .cons (.escaped (by decide) (by decide) (by decide)) <|
    .cons (.itself (by decide) (by decide)) <| .cons (.itself (by decide) (by decide)) <|
    .cons (.escaped (by decide) (by decide) (by decide)) <|
    .cons (.escaped (by decide) (by decide) (by decide)) .nil
  obtain ⟨denoted, taken⟩ := literals_denote_texts
  obtain ⟨lexed, evaluated⟩ := (denoted Byte.quote (.inl rfl)).2 content text spells
  obtain ⟨token, words, found, literal⟩ := lexed (ascii "'x")
  have member : token ∈ (Tokens.ofSource source).words := found ▸ List.mem_cons_self
  exact ⟨spells, ⟨token, words, found, literal, taken source token member literal.kind literal.sound⟩,
    (evaluated Limits.standard session).1 rfl⟩

end Scriptling
