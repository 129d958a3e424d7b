/-
This file gives the words that the grammar is about. A word is a token without
its place, and `and`, `or` and `not` are the same words as the signs that mean
the same. What a reader does is decided by the words ahead of its cursor.
-/

import Scriptling.Proofs.Tree.Reading
import Scriptling.Tree.Expression

namespace Scriptling

/-! ### Words -/

inductive Word where
  | number (value : Int64)
  | string (text : Text)
  | name (name : Name)
  /-- Any word that carries nothing but its kind. -/
  | mark (kind : TokenKind)

/-- The kind that stands for all kinds of the same meaning. -/
def TokenKind.meaning : TokenKind → TokenKind
  | .keyword .andWord => .doubleAmpersand
  | .keyword .orWord => .doubleBar
  | .keyword .notWord => .bang
  | kind => kind

/-- The word that a token is. -/
def Token.word (token : Token) : Word :=
  match token.kind with
  | .number => .number token.value
  | .string => .string (Text.ofBytes token.text)
  | .identifier => .name token.text
  | kind => .mark kind.meaning

/-- A kind whose tokens are all the same word, and no other tokens are. -/
def TokenKind.isPlain : TokenKind → Bool
  | .number | .string | .identifier | .doubleAmpersand | .doubleBar | .bang
  | .keyword .andWord | .keyword .orWord | .keyword .notWord => false
  | _ => true

theorem Token.word_eq_mark {token : Token} {kind : TokenKind} (plain : kind.isPlain = true) :
    token.word = .mark kind ↔ token.kind = kind := by
  obtain ⟨tokenKind, text, value, span, closed⟩ := token
  constructor
  · intro same
    cases tokenKind with
    | keyword word => cases word <;> cases same <;> first | rfl | cases plain
    | _ => cases same <;> rfl
  · rintro rfl
    cases tokenKind with
    | keyword word => cases word <;> first | rfl | cases plain
    | number | string | identifier => cases plain
    | _ => rfl

theorem Token.word_eq_number {token : Token} {value : Int64} :
    token.word = .number value ↔ token.kind = .number ∧ token.value = value := by
  obtain ⟨kind, text, content, span, closed⟩ := token
  constructor
  · intro same
    cases kind <;> cases same
    exact ⟨rfl, rfl⟩
  · rintro ⟨same, rfl⟩
    cases same
    rfl

theorem Token.word_eq_string {token : Token} {text : Text} :
    token.word = .string text ↔ token.kind = .string ∧ Text.ofBytes token.text = text := by
  obtain ⟨kind, content, value, span, closed⟩ := token
  constructor
  · intro same
    cases kind <;> cases same
    exact ⟨rfl, rfl⟩
  · rintro ⟨same, rfl⟩
    cases same
    rfl

theorem Token.word_eq_name {token : Token} {name : Name} :
    token.word = .name name ↔ token.kind = .identifier ∧ token.text = name := by
  obtain ⟨kind, text, value, span, closed⟩ := token
  constructor
  · intro same
    cases kind <;> cases same
    exact ⟨rfl, rfl⟩
  · rintro ⟨same, rfl⟩
    cases same
    rfl

/-! ### Operators -/

/-- The word of an operator. -/
def BinaryOperator.word : BinaryOperator → Word
  | .add => .mark .plus
  | .subtract => .mark .minus
  | .multiply => .mark .star
  | .divide => .mark .slash
  | .floorDivide => .mark .doubleSlash
  | .remainder => .mark .percent
  | .power => .mark .doubleStar
  | .equal => .mark .equal
  | .notEqual => .mark .notEqual
  | .less => .mark .less
  | .lessEqual => .mark .lessEqual
  | .greater => .mark .greater
  | .greaterEqual => .mark .greaterEqual
  | .bitAnd => .mark .ampersand
  | .bitOr => .mark .bar
  | .bitXor => .mark .caret
  | .and => .mark .doubleAmpersand
  | .or => .mark .doubleBar

/-- The word of a unary operator. -/
def UnaryOperator.word : UnaryOperator → Word
  | .not => .mark .bang
  | .complement => .mark .tilde
  | .negate => .mark .minus

namespace Word

/-- The operator between two operands that a word is. -/
def binary? : Word → Option BinaryOperator
  | .mark (.keyword _) => none
  | .mark kind => BinaryOperator.ofToken? kind
  | .number _ | .string _ | .name _ => none

/-- The operator before an operand that a word is. -/
def unary? : Word → Option UnaryOperator
  | .mark (.keyword _) => none
  | .mark kind => UnaryOperator.ofToken? kind
  | .number _ | .string _ | .name _ => none

@[simp]
theorem binary?_word (operator : BinaryOperator) : operator.word.binary? = some operator := by
  cases operator <;> rfl

@[simp]
theorem unary?_word (operator : UnaryOperator) : operator.word.unary? = some operator := by
  cases operator <;> rfl

theorem eq_word_of_binary? {word : Word} {operator : BinaryOperator}
    (found : word.binary? = some operator) : word = operator.word := by
  cases word with
  | mark kind => cases kind <;> cases found <;> rfl
  | _ => cases found

theorem eq_word_of_unary? {word : Word} {operator : UnaryOperator}
    (found : word.unary? = some operator) : word = operator.word := by
  cases word with
  | mark kind => cases kind <;> cases found <;> rfl
  | _ => cases found

end Word

namespace Token

theorem ofToken?_kind (token : Token) :
    BinaryOperator.ofToken? token.kind = token.word.binary? := by
  obtain ⟨kind, text, value, span, closed⟩ := token
  cases kind with
  | keyword word => cases word <;> rfl
  | _ => rfl

theorem unaryOfToken?_kind (token : Token) :
    UnaryOperator.ofToken? token.kind = token.word.unary? := by
  obtain ⟨kind, text, value, span, closed⟩ := token
  cases kind with
  | keyword word => cases word <;> rfl
  | _ => rfl

end Token

/-! ### The words ahead of a cursor -/

/-- The first of some words, and the end of the input when there are none. -/
def Word.first (words : List Word) : Word :=
  words.headD (.mark .endOfInput)

namespace Cursor

/-- The words that are not yet taken. -/
def words (cursor : Cursor) : List Word :=
  cursor.ahead.map Token.word

/-- A cursor before some words, after which the input ends. -/
structure Faces (cursor : Cursor) (words : List Word) : Prop where
  words : cursor.words = words
  ends : cursor.finish.kind = .endOfInput

variable {cursor : Cursor} {words : List Word}

theorem Faces.current (faces : cursor.Faces words) : cursor.current.word = Word.first words := by
  obtain ⟨ahead, finish, taken, depths⟩ := cursor
  obtain ⟨rfl, ends⟩ := faces
  cases ahead with
  | nil => exact (Token.word_eq_mark rfl).mpr ends
  | cons token rest => rfl

theorem Faces.advance {word : Word} (faces : cursor.Faces (word :: words)) :
    cursor.advance.Faces words := by
  obtain ⟨ahead, finish, taken, depths⟩ := cursor
  obtain ⟨same, ends⟩ := faces
  cases ahead with
  | nil => cases same
  | cons token rest =>
    cases same
    exact ⟨rfl, ends⟩

/-- A cursor that is not at the end stands before its next word. -/
theorem Faces.cons (faces : cursor.Faces words)
    (more : cursor.current.word ≠ .mark .endOfInput) :
    ∃ rest, words = cursor.current.word :: rest ∧ cursor.advance.Faces rest := by
  cases words with
  | nil => exact absurd faces.current more
  | cons word rest => exact ⟨rest, by rw [faces.current]; rfl, faces.advance⟩

/-- A newline that comes next is skipped. -/
theorem Faces.skipNewlines_of_cons {word : Word} (faces : cursor.Faces (word :: words))
    (newline : word = .mark .newline) : cursor.skipNewlines = cursor.advance.skipNewlines := by
  obtain ⟨ahead, finish, taken, depths⟩ := cursor
  obtain ⟨same, ends⟩ := faces
  cases ahead with
  | nil => cases same
  | cons token rest =>
    have kind : token.kind = .newline :=
      (Token.word_eq_mark rfl).mp ((List.cons.inj same).1.trans newline)
    exact (Cursor.skipNewlines_advance rfl kind).symm

/-- Nothing is skipped before any other word. -/
theorem Faces.skipNewlines_of_other (faces : cursor.Faces words)
    (other : Word.first words ≠ .mark .newline) : cursor.skipNewlines = cursor := by
  rw [← faces.current] at other
  obtain ⟨ahead, finish, taken, depths⟩ := cursor
  cases ahead with
  | nil => rfl
  | cons token rest =>
    have kind : token.kind ≠ .newline := mt (Token.word_eq_mark rfl).mpr other
    let skip (other : Token) : Bool := !(other.kind != .newline)
    have kept : ¬skip token = true := by
      show ¬(!(token.kind != .newline)) = true
      rw [Bool.not_eq_true', bne_eq_false_iff_eq]
      exact kind
    show Cursor.mk ((token :: rest).drop ((token :: rest).takeWhile skip).length) finish
      (taken + ((token :: rest).takeWhile skip).length) depths = _
    rw [List.takeWhile_cons_of_neg kept]
    rfl

end Cursor

end Scriptling
