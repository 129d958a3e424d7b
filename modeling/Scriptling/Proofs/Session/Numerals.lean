/-
This file carries numbers through text and back. A run of digits is one token,
and with a minus sign before it, it is two. The expression that they spell has
the number as its value: the literal takes all magnitudes up to the largest one
of 64 bits, so the magnitude of the least number is read as that number itself,
and negating it changes nothing.
-/

import Scriptling.Proofs.Integer.Conversion
import Scriptling.Proofs.Session.Fatal
import Scriptling.Proofs.Tree.Spans

namespace Scriptling

/-! ### Tokens -/

/-- A token is the number that a run of digits is read as: the exact value of the run, or all bits
set if that does not fit into them. -/
structure Token.IsNumeral (token : Token) (run : Bytes) : Prop where
  kind : token.kind = .number
  text : token.text = run
  bits : token.value.toUInt64.toNat = min (Decimal.value run) (2 ^ 64 - 1)

/-- Only a digit opens a number. -/
theorem Lexeme.isDigit_of_number {first : UInt8} {rest : Bytes}
    (number : (read first rest).kind = .number) : Byte.isDigit first = true := by
  have opens := readBy_read first rest
  generalize read first rest = lexeme at opens number
  cases opens with
  | newline => cases number
  | name =>
    rcases kind_ofName first rest with same | ⟨keyword, same⟩ <;> cases same.symm.trans number
  | number digit => exact digit
  | string => cases (kind_ofString _ _ _ _).symm.trans number
  | symbol member =>
    cases number
    exact absurd member (by decide)
  | unknown => cases number

/-- A number is read as its own digits. -/
theorem Lexeme.isNumeral_ofNumber (digit : UInt8) (rest : Bytes) (first last : Position) :
    ((ofNumber digit rest).token first last).IsNumeral
      (digit :: rest.takeWhile Byte.isDigit) :=
  ⟨rfl, rfl, Decimal.toNat_literal _⟩

namespace Tokens

/-- Every number of a source consists of digits and has their value. -/
theorem isNumeral_of_mem_words {source : Bytes} {token : Token}
    (member : token ∈ (ofSource source).words) (number : token.kind = .number) :
    token.text ≠ [] ∧ (∀ byte ∈ token.text, Byte.isDigit byte = true) ∧
      token.IsNumeral token.text := by
  obtain ⟨before, byte, rest, -, read⟩ := readAt_of_mem_words member
  have same := read.same
  have kind : (Lexeme.read byte rest).kind = .number := by
    rw [same] at number
    exact number
  have digit := Lexeme.isDigit_of_number kind
  rw [Lexeme.read_digit digit] at same
  rw [same]
  exact ⟨List.cons_ne_nil _ _,
    List.forall_mem_cons.mpr ⟨digit, List.all_eq_true.mp List.all_takeWhile⟩,
    Lexeme.isNumeral_ofNumber _ _ _ _⟩

/-- A run of digits before anything but a digit is the first token of a source. -/
theorem words_of_run {run rest : Bytes} (some : run ≠ [])
    (digits : ∀ byte ∈ run, Byte.isDigit byte = true)
    (ends : ∀ byte ∈ rest.head?, Byte.isDigit byte = false) :
    ∃ token words, (ofSource (run ++ rest)).words = token :: words ∧ token.IsNumeral run := by
  obtain ⟨first, others, rfl⟩ := List.exists_cons_of_ne_nil some
  obtain ⟨digit, digitsOthers⟩ := List.forall_mem_cons.mp digits
  obtain ⟨token, words, found, read⟩ :=
    words_of_solid (Byte.isSolid_of_isDigit digit) (others ++ rest)
  have same := read.same
  rw [Lexeme.read_digit digit] at same
  have numeral := Lexeme.isNumeral_ofNumber first (others ++ rest) (Position.start.advance [])
    ((Position.start.advance []).advance
      ((first :: (others ++ rest)).take (Lexeme.ofNumber first (others ++ rest)).length))
  rw [← same, (span_append digitsOthers ends).1] at numeral
  exact ⟨token, words, found, numeral⟩

/-- Where a run of digits is all of the source, it is its one token. -/
theorem Cuts.of_run {position : Position} {run : Bytes} {tokens : Tokens}
    (cuts : Cuts position run tokens) (some : run ≠ [])
    (digits : ∀ byte ∈ run, Byte.isDigit byte = true) :
    ∃ token, tokens.words = [token] ∧ token.IsNumeral run ∧
      token.word = .number (Decimal.literal run) ∧ token.closed = true := by
  obtain ⟨first, rest, rfl⟩ := List.exists_cons_of_ne_nil some
  obtain ⟨digit, digitsRest⟩ := List.forall_mem_cons.mp digits
  have all : rest.takeWhile Byte.isDigit = rest := List.takeWhile_eq_self_iff.mpr digitsRest
  have read : Lexeme.read first rest = Lexeme.ofNumber first rest := Lexeme.read_digit digit rest
  have whole : (first :: rest).take (Lexeme.read first rest).length = first :: rest := by
    rw [read]
    unfold Lexeme.ofNumber
    rw [all]
    exact List.take_length
  have gapped : IsGap [] (first :: rest) := ⟨[], [], rfl, List.forall_mem_nil _, .inl rfl⟩
  have again : Cuts position ([] ++ (first :: rest).take (Lexeme.read first rest).length)
      tokens := by
    rwa [List.nil_append, whole]
  obtain ⟨start, stop, words⟩ := Cuts.of_last gapped (Byte.isSolid_of_isDigit digit) again
  rw [read] at words
  have same := Lexeme.isNumeral_ofNumber first rest start stop
  rw [all] at same
  refine ⟨_, words, same, ?_, rfl⟩
  show Word.number (Decimal.literal (first :: rest.takeWhile Byte.isDigit)) = _
  rw [all]

/-- What is written of a number is a literal, with a minus sign before it if the number is
negative. -/
theorem words_of_write (number : Int64) : ∃ literal : Int64,
    ((number = literal ∧ (ofSource (Decimal.write number)).words.map Token.word =
        [.number literal]) ∨
      (number = -literal ∧ (ofSource (Decimal.write number)).words.map Token.word =
        [.mark .minus, .number literal])) ∧
    ∀ token ∈ (ofSource (Decimal.write number)).words, token.closed = true := by
  have fits : number.toInt.natAbs < UInt64.size := by
    have above := number.le_toInt
    have below := number.toInt_lt
    have size : UInt64.size = 2 ^ 64 := by decide
    omega
  have some := Decimal.digits_ne_nil number.toInt.natAbs
  have digits (byte : UInt8) (member : byte ∈ Decimal.digits number.toInt.natAbs) :
      Byte.isDigit byte = true := Decimal.isDigit_of_mem_digits member
  have cuts := cuts_ofSource (Decimal.write number)
  refine ⟨Int64.ofNat number.toInt.natAbs, ?_⟩
  rw [← Decimal.literal_digits_of_lt fits]
  generalize ofSource (Decimal.write number) = tokens at cuts ⊢
  unfold Decimal.write Decimal.writeInt Decimal.sign at cuts
  by_cases negative : number.toInt < 0
  · rw [if_pos negative] at cuts
    have gapped : IsGap [] (0x2d :: Decimal.digits number.toInt.natAbs) :=
      ⟨[], [], rfl, List.forall_mem_nil _, .inl rfl⟩
    have opens : Cuts Position.start ([] ++ 0x2d :: Decimal.digits number.toInt.natAbs) tokens :=
      cuts
    obtain ⟨first, last, words, finish, rfl, after⟩ := opens.of_token gapped (by decide)
    obtain ⟨token, rfl, -, word, closed⟩ := after.of_run some digits
    refine ⟨.inr ⟨?_, ?_⟩, ?_⟩
    · rw [Decimal.literal_digits_of_lt fits, ← Int64.ofInt_eq_ofNat, ← Int64.ofInt_neg,
        Int.ofNat_natAbs_of_nonpos (Int.le_of_lt negative), Int.neg_neg, Int64.ofInt_toInt]
    · rw [List.map_cons, List.map_singleton, word]
      rfl
    · exact List.forall_mem_cons.mpr ⟨rfl, List.forall_mem_singleton.mpr closed⟩
  · rw [if_neg negative, List.nil_append] at cuts
    obtain ⟨token, words, -, word, closed⟩ := Cuts.of_run cuts some digits
    rw [words]
    refine ⟨.inl ⟨?_, ?_⟩, List.forall_mem_singleton.mpr closed⟩
    · rw [Decimal.literal_digits_of_lt fits, ← Int64.ofInt_eq_ofNat,
        Int.natAbs_of_nonneg (Int.not_lt.mp negative), Int64.ofInt_toInt]
    · rw [List.map_singleton, word]

end Tokens

/-! ### Expressions -/

/-- An expression is a number as it is written: a literal, or the negative of one. -/
def Expr.Denotes (expr : Expr) (number : Int64) : Prop :=
  (∃ span, expr = .number span number) ∨
    ∃ span place literal, expr = .unary span .negate (.number place literal) ∧ number = -literal

theorem Expr.eq_number_of_unplaced {expr : Expr} {place : Span} {value : Int64}
    (same : expr.unplaced = .number place value) : ∃ span, expr = .number span value := by
  cases expr with
  | number span => cases same; exact ⟨span, rfl⟩
  | _ => cases same

theorem Expr.denotes_of_unplaced {expr : Expr} {place inner : Span} {literal : Int64}
    (same : expr.unplaced = .unary place .negate (.number inner literal)) :
    expr.Denotes (-literal) := by
  cases expr with
  | unary span operator operand =>
    obtain ⟨-, rfl, sameOperand⟩ := Expr.unary.inj same
    obtain ⟨place, rfl⟩ := Expr.eq_number_of_unplaced sameOperand
    exact .inr ⟨span, place, literal, rfl, rfl⟩
  | _ => cases same

/-- Words that are too few for a message about nesting are read as the expression that they
spell. -/
theorem Expr.ofSource_of_short {source : Bytes} {expr : Expr} {words : List Word}
    (same : (Tokens.ofSource source).words.map Token.word = words)
    (closed : ∀ token ∈ (Tokens.ofSource source).words, token.closed = true)
    (spelled : expr.Spelled words) (grouped : expr.Grouped) (few : expr.Few)
    (short : 2 * words.length < nestingLimit) :
    ∃ other, Expr.ofSource source = .ok other ∧ other.unplaced = expr.unplaced := by
  subst same
  refine (Expr.ofSource_of_words closed spelled grouped few).resolve_right ?_
  rintro ⟨-, -, -, deep⟩
  rw [List.length_map] at short
  exact Nat.not_le.mpr short deep

/-- What is written of a number is read as that number. -/
theorem Expr.ofSource_write (number : Int64) :
    ∃ expr, Expr.ofSource (Decimal.write number) = .ok expr ∧ expr.Denotes number := by
  let nowhere : Span := ⟨0, 0, 0, 0⟩
  obtain ⟨literal, words, closed⟩ := Tokens.words_of_write number
  rcases words with ⟨rfl, words⟩ | ⟨rfl, words⟩
  · obtain ⟨other, found, same⟩ := Expr.ofSource_of_short words closed (.number nowhere number)
      trivial trivial (show 2 * 1 < 200 by decide)
    exact ⟨other, found, .inl (Expr.eq_number_of_unplaced same)⟩
  · obtain ⟨other, found, same⟩ := Expr.ofSource_of_short words closed
      (.unary nowhere .negate (.number nowhere literal)) ⟨rfl, trivial⟩ trivial
      (show 2 * 2 < 200 by decide)
    exact ⟨other, found, Expr.denotes_of_unplaced same⟩

/-- A number is evaluated to itself, and nothing else happens. -/
theorem Run.evaluate_of_denotes {expr : Expr} {number : Int64} (denotes : expr.Denotes number)
    (limits : Limits) (fuel : Nat) (session : Session) :
    Run.evaluate limits (fuel + 2) expr session = .ok (.int number) session := by
  rcases denotes with ⟨span, rfl⟩ | ⟨span, place, literal, rfl, rfl⟩
  · rfl
  · rfl

/-- A source whose expression has one value, whatever the session, is evaluated to that value once
the output is flushed. -/
theorem Session.evaluate_constant {limits : Limits} {source : Bytes} {expr : Expr} {value : Value}
    (read : Expr.ofSource source = .ok expr)
    (constant : ∀ session, Run.evaluate limits ampleFuel expr session = .ok value session)
    (session : Session) :
    Session.evaluate limits source session =
      (do Run.finish none; return value : Run Value).operation { session with steps := 0 } := by
  have whole : Run.expression limits ampleFuel expr session =
      (do Run.finish none; return value : Run Value) { session with steps := 0 } := by
    show Run.finished (Run.evaluate limits ampleFuel expr) { session with steps := 0 } = _
    unfold Run.finished
    rw [constant]
  unfold Session.evaluate
  rw [read]
  unfold Session.readOrReport Run.operation
  dsimp only
  rw [whole]

section

variable {session : Session} {Result : Type}

/-- What is known before the output is flushed is given once it is. -/
theorem Run.operation_of_flushed (result : Result)
    (granted : session.world.streams.out.flush.1 = .ok ()) :
    (do finish none; return result : Run Result).operation session = .ok result session.flushed := by
  unfold operation
  rw [bind_of_ok (finish_of_flushed none granted)]
  rfl

/-- What is known before the output is flushed is lost if that is refused. -/
theorem Run.operation_of_unflushed (result : Result) {fault : Fault}
    (refused : session.world.streams.out.flush.1 = .error fault) :
    (do finish none; return result : Run Result).operation session =
      .error (.aborted (.refused fault)) session.flushed := by
  unfold operation
  rw [bind_of_error (finish_of_unflushed none refused)]

end

/-- Evaluating what is written of a number gives that number once the output is flushed. -/
theorem Session.evaluate_write (limits : Limits) (number : Int64) (session : Session) :
    Session.evaluate limits (Decimal.write number) session =
      (do Run.finish none; return .int number : Run Value).operation
        { session with steps := 0 } := by
  obtain ⟨expr, read, denotes⟩ := Expr.ofSource_write number
  exact Session.evaluate_constant read (Run.evaluate_of_denotes denotes limits (ampleFuel - 2)) session

/-! ### Text and back -/

/-- Integers survive every way through text. Evaluating what is written of a number gives the
number, unless the output refuses to be flushed in the end. The builtin `str` writes numbers so, and
`int` reads them back. A run of digits before anything but a digit is one token, every number in a
source is such a token, and its bits are the exact value of its digits or all set if that does not
fit. The builtin `int` gives for a text that spells a number the nearest one of the signed range,
and zero for any other text. -/
theorem integers_survive_text :
    (∀ (limits : Limits) (session : Session) (number : Int64),
      (session.world.streams.out.flush.1 = .ok () →
        Session.evaluate limits (Decimal.write number) session =
          .ok (.int number) { session with steps := 0 }.flushed) ∧
      ∀ fault, session.world.streams.out.flush.1 = .error fault →
        Session.evaluate limits (Decimal.write number) session =
          .error (.aborted (.refused fault)) { session with steps := 0 }.flushed) ∧
    (∀ (world : World) (number : Int64),
      Builtin.call .str [.int number] world =
        .ok (.str (Text.ofBytes (Decimal.write number))) world ∧
      Builtin.call .int [.str (Text.ofBytes (Decimal.write number))] world =
        .ok (.int number) world) ∧
    (∀ run rest : Bytes, run ≠ [] → (∀ byte ∈ run, Byte.isDigit byte = true) →
      (∀ byte ∈ rest.head?, Byte.isDigit byte = false) →
      ∃ token words, (Tokens.ofSource (run ++ rest)).words = token :: words ∧
        token.IsNumeral run) ∧
    (∀ source, ∀ token ∈ (Tokens.ofSource source).words, token.kind = .number →
      token.text ≠ [] ∧ (∀ byte ∈ token.text, Byte.isDigit byte = true) ∧
        token.IsNumeral token.text) ∧
    ∀ (world : World) (text : Bytes), ∃ result : Int64,
      Builtin.call .int [.str (Text.ofBytes text)] world = .ok (.int result) world ∧
      (∀ number, Decimal.Spells text number →
        result.toInt = max Int64.minValue.toInt (min number Int64.maxValue.toInt)) ∧
      ((¬∃ number, Decimal.Spells text number) → result = 0) := by
  have converts (world : World) (text : Bytes) :
      Builtin.call .int [.str (Text.ofBytes text)] world =
        .ok (.int (Decimal.read text)) world := by
    show EStateM.Result.ok (Value.int (Decimal.read (Text.ofBytes text).bytes)) world = _
    rw [Text.bytes_ofBytes]
  refine ⟨fun limits session number => ⟨fun granted => ?_, fun fault refused => ?_⟩,
    fun world number => ⟨rfl, ?_⟩, fun run rest => Tokens.words_of_run,
    fun source token => Tokens.isNumeral_of_mem_words,
    fun world text => ⟨_, converts world text, fun number spells => ?_,
      Decimal.read_of_not_spells⟩⟩
  · have finished : Run.finish none { session with steps := 0 } =
        .ok () { session with steps := 0 }.flushed :=
      Run.finish_of_flushed none granted
    rw [Session.evaluate_write]
    unfold Run.operation
    rw [bind_of_ok finished]
    rfl
  · have cut : Run.finish none { session with steps := 0 } =
        .error (.refused fault) { session with steps := 0 }.flushed :=
      Run.finish_of_unflushed none refused
    rw [Session.evaluate_write]
    unfold Run.operation
    rw [bind_of_error cut]
  · rw [converts, Decimal.read_write]
  · rw [spells.read, Decimal.toInt_clamp]

/-- The least number survives, and so does what is less than it. -/
theorem least_number_survives_text :
    let session := Session.start (Streams.reliable [])
    Session.evaluate Limits.standard (ascii "-9223372036854775808") session =
      .ok (.int Int64.minValue) session.flushed ∧
    Builtin.call .int [.str (Text.ofBytes (ascii " -9223372036854775809 x"))] session.world =
      .ok (.int Int64.minValue) session.world := by
  obtain ⟨evaluated, -, -, -, converted⟩ := integers_survive_text
  have written : Decimal.write Int64.minValue = ascii "-9223372036854775808" := by
    decide +kernel
  intro session
  have least := (evaluated Limits.standard session Int64.minValue).1 rfl
  rw [written] at least
  refine ⟨least, ?_⟩
  have spells : Decimal.Spells (ascii " -9223372036854775809 x") (-9223372036854775809) :=
    ⟨ascii " ", ascii "-", -1, ascii "9223372036854775809", ascii " x", by decide +kernel,
      by decide +kernel, .minus, by decide +kernel, by decide +kernel, by decide +kernel,
      by decide +kernel⟩
  obtain ⟨result, called, near, -⟩ := converted session.world (ascii " -9223372036854775809 x")
  rw [called]
  have same : result = Int64.minValue := Int64.toInt_inj.mp ((near _ spells).trans (by decide))
  rw [same]

end Scriptling
