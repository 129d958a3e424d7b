/-
This file reads written words back. Whatever stands before a blank or a newline
is scanned as the word that was written: a name goes on for as long as it can, a
number as well, a string up to its quote, and an operator is the longest that
the text opens with. So the words of a text are those it was written from.
-/

import Scriptling.Proofs.Integer.Decimal
import Scriptling.Proofs.Token.Quoting
import Scriptling.Proofs.Tree.Writing

namespace Scriptling

/-! ### Bytes that open a token -/

namespace Byte

/-- A byte that opens neither a gap nor a comment. -/
def IsSolid (byte : UInt8) : Prop :=
  isBlank byte = false ∧ byte ≠ hash

instance (byte : UInt8) : Decidable (IsSolid byte) :=
  inferInstanceAs (Decidable (_ ∧ _))

theorem eq_of_isBlank {byte : UInt8} (blank : isBlank byte = true) :
    byte = space ∨ byte = tab ∨ byte = carriageReturn ∨ byte = 0x0b ∨ byte = 0x0c := by
  unfold isBlank at blank
  simp only [Bool.or_eq_true, beq_iff_eq, or_assoc] at blank
  exact blank

/-- A byte of a class that holds no blank and no hash sign is solid. -/
theorem isSolid_of {byte : UInt8} {test : UInt8 → Bool} (holds : test byte = true)
    (others : [space, tab, carriageReturn, 0x0b, 0x0c, hash].all (!test ·) = true) :
    IsSolid byte := by
  have different {other : UInt8}
      (member : other ∈ [space, tab, carriageReturn, 0x0b, 0x0c, hash]) : byte ≠ other := by
    rintro rfl
    have excluded := List.all_eq_true.mp others byte member
    rw [holds] at excluded
    cases excluded
  refine ⟨Bool.eq_false_iff.mpr fun blank => ?_, different (by decide)⟩
  rcases eq_of_isBlank blank with same | same | same | same | same <;>
  · exact different (by decide) same

theorem isSolid_of_opensName {byte : UInt8} (opens : opensName byte = true) : IsSolid byte :=
  isSolid_of opens (by decide)

theorem isSolid_of_isDigit {byte : UInt8} (digit : isDigit byte = true) : IsSolid byte :=
  isSolid_of digit (by decide)

theorem ne_newline_of {byte : UInt8} {test : UInt8 → Bool} (holds : test byte = true)
    (other : test newline = false) : byte ≠ newline := by
  rintro rfl
  rw [other] at holds
  cases holds

/-- No digit opens a name. -/
theorem opensName_of_isDigit {byte : UInt8} (digit : isDigit byte = true) :
    opensName byte = false := by
  unfold isDigit at digit
  unfold opensName isUpper isLower
  simp only [Bool.and_eq_true, decide_eq_true_eq, UInt8.le_iff_toNat_le] at digit
  simp only [Bool.or_eq_false_iff, Bool.and_eq_false_iff, decide_eq_false_iff_not,
    UInt8.le_iff_toNat_le, beq_eq_false_iff_ne, ne_eq, ← UInt8.toNat_inj]
  have nine : (0x39 : UInt8).toNat = 0x39 := rfl
  have upper : (0x41 : UInt8).toNat = 0x41 := rfl
  have lower : (0x61 : UInt8).toNat = 0x61 := rfl
  have underscore : (0x5f : UInt8).toNat = 0x5f := rfl
  omega

/-- What is written between double quotes spells the text that it is written of. -/
theorem spells_escaped (bytes : Bytes) : Spells doubleQuote (bytes.flatMap escaped) bytes := by
  induction bytes with
  | nil => exact .nil
  | cons byte rest hypothesis =>
    rw [List.flatMap_cons]
    refine .cons ?_ hypothesis
    unfold escaped
    split
    next special =>
      refine .escaped ?_ ?_ ?_ <;> rintro rfl <;> exact absurd special (by decide)
    next plain =>
      obtain ⟨notQuote, notBackslash⟩ := not_or.mp plain
      exact .itself notQuote notBackslash

end Byte

/-! ### Gaps -/

theorem gap_blank {byte : UInt8} (blank : Byte.isBlank byte = true) (source : Bytes) :
    gap (byte :: source) = byte :: gap source := by
  unfold gap
  rw [List.takeWhile_cons_of_pos blank, List.dropWhile_cons_of_pos blank]
  cases source.dropWhile Byte.isBlank with
  | nil => rfl
  | cons byte rest =>
    dsimp only
    split <;> rfl

theorem gap_solid {byte : UInt8} (solid : Byte.IsSolid byte) (rest : Bytes) :
    gap (byte :: rest) = [] := by
  have none : ¬Byte.isBlank byte = true := Bool.eq_false_iff.mp solid.1
  unfold gap
  rw [List.takeWhile_cons_of_neg none, List.dropWhile_cons_of_neg none]
  exact if_neg solid.2

/-! ### Reading one word -/

/-- A run of bytes of one class ends where another byte or nothing follows. -/
theorem span_append {test : UInt8 → Bool} {run rest : Bytes}
    (all : ∀ byte ∈ run, test byte = true) (ends : ∀ byte ∈ rest.head?, test byte = false) :
    (run ++ rest).takeWhile test = run ∧ (run ++ rest).dropWhile test = rest := by
  rw [List.takeWhile_append_of_pos all, List.dropWhile_append_of_pos all]
  cases rest with
  | nil => exact ⟨List.append_nil run, rfl⟩
  | cons byte rest =>
    have other := Bool.eq_false_iff.mp (ends byte rfl)
    rw [List.takeWhile_cons_of_neg other, List.dropWhile_cons_of_neg other, List.append_nil]
    exact ⟨rfl, rfl⟩

/-- What stands after a word does not belong to it: a space, a newline or nothing at all. -/
def Apart (tail : Bytes) : Prop :=
  ∀ byte ∈ tail.head?, byte = Byte.space ∨ byte = Byte.newline

/-- A run of bytes of one class ends where a space or newline stands. -/
theorem takeWhile_apart {test : UInt8 → Bool} {run tail : Bytes}
    (all : ∀ byte ∈ run, test byte = true) (apart : Apart tail)
    (space : test Byte.space = false) (newline : test Byte.newline = false) :
    (run ++ tail).takeWhile test = run := by
  refine (span_append all fun byte same => ?_).1
  rcases apart byte same with rfl | rfl
  · exact space
  · exact newline

namespace Lexeme

/-- A name or a reserved word is read to its end. -/
theorem ofName_append {first : UInt8} {rest tail : Bytes} {found : Option Keyword}
    (continues : rest.all Byte.continuesName = true) (short : (first :: rest).length ≤ nameLimit)
    (apart : Apart tail) (reserved : Keyword.ofName? (first :: rest) = found) :
    ofName first (rest ++ tail) =
      ⟨(found.map .keyword).getD .identifier, first :: rest, 0, true, (first :: rest).length⟩ := by
  unfold ofName
  rw [takeWhile_apart (List.all_eq_true.mp continues) apart (by decide) (by decide)]
  dsimp only
  rw [List.take_of_length_le short, reserved]
  cases found <;> rfl

/-- A digit opens a number. -/
theorem read_digit {first : UInt8} (digit : Byte.isDigit first = true) (rest : Bytes) :
    read first rest = ofNumber first rest := by
  unfold read
  rw [if_neg (Byte.ne_newline_of digit (by decide)),
    if_neg (Bool.eq_false_iff.mp (Byte.opensName_of_isDigit digit)), if_pos digit]

/-- A string is read up to its closing quote. -/
theorem ofString_escaped (bytes tail contents : Bytes) (length : Nat) :
    ofString Byte.doubleQuote (bytes.flatMap Byte.escaped ++ Byte.doubleQuote :: tail)
        contents length =
      ⟨.string, contents.reverse ++ bytes, 0, true,
        length + (bytes.flatMap Byte.escaped ++ [Byte.doubleQuote]).length⟩ := by
  rw [ofString_spells (by decide) (Byte.spells_escaped bytes), List.length_append]
  rfl

end Lexeme

/-- A reserved word is spelled like a name. -/
theorem Keyword.spelling_isName (keyword : Keyword) : ∃ first rest,
    ascii keyword.spelling = first :: rest ∧ Byte.opensName first = true ∧
      rest.all Byte.continuesName = true ∧ (first :: rest).length ≤ nameLimit ∧
      Keyword.ofName? (first :: rest) = some keyword := by
  cases keyword <;> exact ⟨_, _, rfl, by decide, by decide, by decide, by decide⟩

/-- An operator or a bracket is read where it was written, and nothing longer than it. -/
theorem TokenKind.read_symbol {kind : TokenKind} (member : kind ∈ symbols) {tail : Bytes}
    (apart : Apart tail) : ∃ first rest, ascii kind.spelling = first :: rest ∧
      Byte.IsSolid first ∧ Lexeme.read first (rest ++ tail) =
        ⟨kind, ascii kind.spelling, 0, true, kind.spelling.length⟩ := by
  cases kind with
  | keyword word => cases word <;> exact absurd member (by decide)
  | _ =>
    -- No symbol is longer than two bytes, so only the first byte of the tail can matter.
    first
    | exact absurd member (by decide)
    | refine ⟨_, _, rfl, by decide, ?_⟩
      rcases tail with - | ⟨byte, others⟩
      · rfl
      · rcases apart byte rfl with rfl | rfl <;> rfl

/-- At the head of a text stands a word that has been written there. -/
structure Lexeme.IsWord (lexeme : Lexeme) (word : Word) : Prop where
  length : lexeme.length = word.write.length
  closed : lexeme.closed = true
  same : ∀ first last, (lexeme.token first last).word = word

namespace Word

theorem read_name {name : Name} (writable : Name.Writable name) {tail : Bytes}
    (apart : Apart tail) : ∃ first rest, (Word.name name).write = first :: rest ∧
      Byte.IsSolid first ∧ (Lexeme.read first (rest ++ tail)).IsWord (.name name) := by
  obtain ⟨opens, continues, short, free⟩ := writable
  cases name with
  | nil => cases opens
  | cons first rest =>
    have opensFirst : Byte.opensName first = true := opens
    have others : rest.all Byte.continuesName = true := by
      rw [List.all_cons, Bool.and_eq_true] at continues
      exact continues.2
    refine ⟨first, rest, rfl, Byte.isSolid_of_opensName opensFirst, ?_⟩
    unfold Lexeme.read
    rw [if_neg (Byte.ne_newline_of opensFirst (by decide)), if_pos opensFirst,
      Lexeme.ofName_append others short apart free]
    exact ⟨rfl, rfl, fun _ _ => rfl⟩

theorem read_keyword {keyword : Keyword} (writable : (Word.mark (.keyword keyword)).Writable)
    {tail : Bytes} (apart : Apart tail) :
    ∃ first rest, (Word.mark (.keyword keyword)).write = first :: rest ∧
      Byte.IsSolid first ∧
        (Lexeme.read first (rest ++ tail)).IsWord (.mark (.keyword keyword)) := by
  obtain ⟨first, rest, spelled, opens, continues, short, reserved⟩ := keyword.spelling_isName
  refine ⟨first, rest, spelled, Byte.isSolid_of_opensName opens, ?_⟩
  unfold Lexeme.read
  rw [if_neg (Byte.ne_newline_of opens (by decide)), if_pos opens,
    Lexeme.ofName_append continues short apart reserved]
  refine ⟨(congrArg List.length spelled).symm, rfl, fun _ _ => ?_⟩
  cases keyword <;> first | rfl | cases writable

theorem read_number (value : Int64) {tail : Bytes} (apart : Apart tail) :
    ∃ first rest, (Word.number value).write = first :: rest ∧ Byte.IsSolid first ∧
      (Lexeme.read first (rest ++ tail)).IsWord (.number value) := by
  obtain ⟨first, rest, written⟩ :=
    List.exists_cons_of_ne_nil (Decimal.digits_ne_nil value.toUInt64.toNat)
  have digits (byte : UInt8) (member : byte ∈ first :: rest) : Byte.isDigit byte = true :=
    Decimal.isDigit_of_mem_digits (written ▸ member)
  have digit := digits first List.mem_cons_self
  refine ⟨first, rest, written, Byte.isSolid_of_isDigit digit, ?_⟩
  have run : (rest ++ tail).takeWhile Byte.isDigit = rest :=
    takeWhile_apart (List.forall_mem_cons.mp digits).2 apart (by decide) (by decide)
  rw [Lexeme.read_digit digit]
  unfold Lexeme.ofNumber
  rw [run]
  refine ⟨(congrArg List.length written).symm, rfl, fun _ _ => ?_⟩
  show Word.number (Decimal.literal (first :: rest)) = _
  rw [← written, Decimal.literal_digits]

theorem read_string (text : Text) (tail : Bytes) :
    ∃ first rest, (Word.string text).write = first :: rest ∧ Byte.IsSolid first ∧
      (Lexeme.read first (rest ++ tail)).IsWord (.string text) := by
  refine ⟨Byte.doubleQuote, _, rfl, by decide, ?_⟩
  have read : Lexeme.read Byte.doubleQuote
      (text.bytes.flatMap Byte.escaped ++ [Byte.doubleQuote] ++ tail) =
      ⟨.string, text.bytes, 0, true, (Word.string text).write.length⟩ := by
    rw [List.append_assoc]
    refine (Lexeme.ofString_escaped text.bytes tail [] 1).trans ?_
    rw [Nat.add_comm]
    rfl
  rw [read]
  exact ⟨rfl, rfl, fun _ _ => congrArg Word.string text.ofBytes_bytes⟩

/-- Where a word was written, that word is read. -/
theorem read_write {word : Word} (writable : word.Writable) {tail : Bytes}
    (apart : word.isNewline = true ∨ Apart tail) :
    ∃ first rest, word.write = first :: rest ∧ Byte.IsSolid first ∧
      (Lexeme.read first (rest ++ tail)).IsWord word := by
  cases word with
  | number value => exact read_number value (apart.resolve_left Bool.false_ne_true)
  | string text => exact read_string text tail
  | name content => exact read_name writable (apart.resolve_left Bool.false_ne_true)
  | mark kind =>
    by_cases newline : kind = .newline
    · rw [newline]
      exact ⟨Byte.newline, [], rfl, by decide, rfl, rfl, fun _ _ => rfl⟩
    · have other : (Word.mark kind).isNewline ≠ true := by
        cases kind <;> first | exact Bool.false_ne_true | exact absurd rfl newline
      have written : (Word.mark kind).write = ascii kind.spelling := by
        cases kind <;> first | rfl | exact absurd rfl newline
      by_cases symbol : kind ∈ TokenKind.symbols
      · obtain ⟨first, rest, spelled, solid, read⟩ :=
          TokenKind.read_symbol symbol (apart.resolve_left other)
        refine ⟨first, rest, written.trans spelled, solid, ?_⟩
        rw [read]
        refine ⟨?_, rfl, fun _ _ => ?_⟩
        · rw [written]
          exact (List.length_map _).symm
        · cases kind with
          | keyword keyword => cases keyword <;> exact absurd symbol (by decide)
          | _ => first | rfl | exact absurd symbol (by decide)
      · cases kind with
        | keyword keyword => exact read_keyword writable (apart.resolve_left other)
        | _ =>
          first | exact absurd (by decide) symbol | exact absurd rfl newline | cases writable

/-- A word that is no newline stands apart from what is written after it. -/
theorem apart_writeAll (word : Word) (rest : List Word) :
    word.isNewline = true ∨ Apart (word.between (first rest) ++ writeAll rest) := by
  by_cases newline : word.isNewline = true
  · exact Or.inl newline
  · right
    unfold between
    rw [Bool.eq_false_iff.mpr newline, Bool.false_or]
    cases rest with
    | nil =>
      rintro byte same
      cases same
      exact Or.inl rfl
    | cons next others =>
      show Apart ((if next.isNewline = true then [] else [Byte.space]) ++ _)
      split
      next last =>
        -- The only word that is a newline is written as one.
        cases next with
        | mark kind =>
          cases kind <;> cases last
          rintro byte same
          cases same
          exact Or.inr rfl
        | _ => cases last
      next =>
        rintro byte same
        cases same
        exact Or.inl rfl

end Word

/-! ### Reading all words -/

namespace Tokens

/-- What separates two words leaves a gap of itself. -/
theorem drop_gap {lead : Bytes} (space : lead = [] ∨ lead = [Byte.space]) {byte : UInt8}
    (solid : Byte.IsSolid byte) (rest : Bytes) :
    (lead ++ byte :: rest).drop (gap (lead ++ byte :: rest)).length = byte :: rest := by
  rcases space with rfl | rfl
  · show (byte :: rest).drop (gap (byte :: rest)).length = _
    rw [gap_solid solid]
    rfl
  · show (Byte.space :: byte :: rest).drop (gap (Byte.space :: byte :: rest)).length = _
    rw [gap_blank (by decide), gap_solid solid]
    rfl

/-- After a space or nothing, the next word is read where it was written. -/
theorem scanAfter_write {word : Word} (writable : word.Writable) {lead tail : Bytes}
    (space : lead = [] ∨ lead = [Byte.space]) (apart : word.isNewline = true ∨ Apart tail)
    (done : List Token) (position : Position) :
    ∃ token last, scanAfter done position (lead ++ (word.write ++ tail)) =
        scanAfter (token :: done) last tail ∧ token.word = word ∧ token.closed = true := by
  obtain ⟨first, rest, written, solid, length, closed, same⟩ := Word.read_write writable apart
  rw [written] at length
  rw [written, List.cons_append, scanAfter_of_cons (drop_gap space solid _)]
  dsimp only
  rw [length, List.length_cons, Nat.add_sub_cancel, List.drop_left]
  exact ⟨_, _, rfl, same _ _, closed⟩

/-- All words that were written are read, each of them as a token without a fault. -/
theorem scanAfter_writeAll {words : List Word} (writable : Word.AllWritable words) {lead : Bytes}
    (space : lead = [] ∨ lead = [Byte.space]) (done : List Token) (position : Position) :
    ∃ tokens, (scanAfter done position (lead ++ Word.writeAll words)).words =
        done.reverse ++ tokens ∧ tokens.map Token.word = words ∧
      ∀ token ∈ tokens, token.closed = true := by
  induction words generalizing lead done position with
  | nil =>
    refine ⟨[], ?_, rfl, List.forall_mem_nil _⟩
    have nothing : lead.drop (gap lead).length = [] := by
      rcases space with rfl | rfl <;> rfl
    rw [Word.writeAll, List.append_nil, List.append_nil, scanAfter_of_nil nothing]
  | cons word rest hypothesis =>
    obtain ⟨writableWord, writableRest⟩ := Word.allWritable_cons.mp writable
    obtain ⟨token, last, scanned, same, closed⟩ :=
      scanAfter_write writableWord space (word.apart_writeAll rest) done position
    have between : word.between (Word.first rest) = [] ∨
        word.between (Word.first rest) = [Byte.space] := by
      unfold Word.between
      split
      next => exact Or.inl rfl
      next => exact Or.inr rfl
    obtain ⟨tokens, found, others, allClosed⟩ :=
      hypothesis writableRest between (token :: done) last
    refine ⟨token :: tokens, ?_, ?_, List.forall_mem_cons.mpr ⟨closed, allClosed⟩⟩
    · rw [Word.writeAll, scanned, found, List.reverse_cons, List.append_assoc]
      rfl
    · rw [List.map_cons, same, others]

/-- The words of a text are those that it was written from, and none of its tokens has a fault. -/
theorem ofSource_writeAll {words : List Word} (writable : Word.AllWritable words) :
    (ofSource (Word.writeAll words)).words.map Token.word = words ∧
      ∀ token ∈ (ofSource (Word.writeAll words)).words, token.closed = true := by
  obtain ⟨tokens, found, same, closed⟩ :=
    scanAfter_writeAll writable (Or.inl rfl) [] Position.start
  have all : (ofSource (Word.writeAll words)).words = tokens := found
  rw [all]
  exact ⟨same, closed⟩

end Tokens

end Scriptling
