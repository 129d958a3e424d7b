/-
This file writes programs down. A tree is first turned into words, in the order
in which the grammar asks for them: a statement of one line ends with a newline,
and the body of a compound statement begins on the line after the colon. The
words are then written with a space between any two of them that no newline
separates.

Not every tree can be written. Its names have to be names, its lists may not be
too long, its operators have to be grouped as the grammar groups them, and its
jumps have to be in their place. Last, an `elif` or `else` belongs to the nearest
`if` that is still open, so no other may be open where one is written.
-/

import Scriptling.Proofs.Tree.Completeness
import Scriptling.Proofs.Tree.Scope
import Scriptling.Token.Lexer

namespace Scriptling

/-! ### The words of a tree -/

namespace Expr

mutual

/-- The words of an expression from left to right, without a comma that may be left out. -/
def words : Expr → List Word
  | .number _ value => [.number value]
  | .string _ text => [.string text]
  | .name _ content => [.name content]
  | .binary _ operator left right => left.words ++ operator.word :: right.words
  | .unary _ operator operand => operator.word :: operand.words
  | .call _ callee arguments =>
    .name callee :: .mark .leftParen :: allWords arguments ++ [.mark .rightParen]
  | .paren _ inner => .mark .leftParen :: inner.words ++ [.mark .rightParen]
  | .list _ items => .mark .leftBracket :: allWords items ++ [.mark .rightBracket]
  | .subscript _ target index =>
    target.words ++ .mark .leftBracket :: index.words ++ [.mark .rightBracket]

def allWords : List Expr → List Word
  | [] => []
  | [item] => item.words
  | item :: next :: rest => item.words ++ .mark .comma :: allWords (next :: rest)

end

mutual

/-- What is written of an expression spells it. -/
theorem spelled_words : ∀ expr : Expr, expr.Spelled expr.words
  | .number span value => .number span value
  | .string span text => .string span text
  | .name span content => .name span content
  | .binary span operator left right => .binary span operator left.spelled_words right.spelled_words
  | .unary span operator operand => .unary span operator operand.spelled_words
  | .call span callee arguments => .call span callee (allSpelled_allWords arguments)
  | .paren span inner => .paren span inner.spelled_words
  | .list span items => .list span (allSpelled_allWords items)
  | .subscript span target index => .subscript span target.spelled_words index.spelled_words

theorem allSpelled_allWords : ∀ items : List Expr, AllSpelled items (allWords items)
  | [] => .none
  | [item] => .last item.spelled_words
  | item :: next :: rest => .comma item.spelled_words (allSpelled_allWords (next :: rest))

end

end Expr

/-- The words of some parameters, with commas between them. -/
def Name.allWords : List Name → List Word
  | [] => []
  | [name] => [.name name]
  | name :: next :: rest => .name name :: .mark .comma :: allWords (next :: rest)

mutual

/-- The words of a statement, up to the newline after it. -/
def Stmt.words : Stmt → List Word
  | .expr value => value.words ++ [.mark .newline]
  | .returns _ none => [.mark (.keyword .returnWord), .mark .newline]
  | .returns _ (some value) => .mark (.keyword .returnWord) :: (value.words ++ [.mark .newline])
  | .define _ name parameters body =>
    .mark (.keyword .defWord) :: .name name :: .mark .leftParen :: (Name.allWords parameters ++
      .mark .rightParen :: .mark .colon :: .mark .newline :: body.words)
  | .assign _ name value => .name name :: .mark .assign :: (value.words ++ [.mark .newline])
  | .forLoop _ loopName iterable body =>
    .mark (.keyword .forWord) :: .name loopName :: .mark (.keyword .inWord) ::
      (iterable.words ++ .mark .colon :: .mark .newline :: body.words)
  | .branch _ condition body others =>
    .mark (.keyword .ifWord) ::
      (condition.words ++ .mark .colon :: .mark .newline :: (body.words ++ others.words))
  | .whileLoop _ condition body =>
    .mark (.keyword .whileWord) ::
      (condition.words ++ .mark .colon :: .mark .newline :: body.words)
  | .pass _ => [.mark (.keyword .passWord), .mark .newline]
  | .breaks _ => [.mark (.keyword .breakWord), .mark .newline]
  | .continues _ => [.mark (.keyword .continueWord), .mark .newline]
  | .imports _ name => [.mark (.keyword .importWord), .name name, .mark .newline]

def Branches.words : Branches → List Word
  | .arm condition body others =>
    .mark (.keyword .elifWord) ::
      (condition.words ++ .mark .colon :: .mark .newline :: (body.words ++ others.words))
  | .otherwise body => .mark (.keyword .elseWord) :: .mark .colon :: .mark .newline :: body.words
  | .done => []

end

/-- The words of a program. -/
def Program.words (program : Program) : List Word :=
  program.items.flatMap Stmt.words

/-! ### The text of words -/

/-- How a byte is written between double quotes. -/
def Byte.escaped (byte : UInt8) : Bytes :=
  if byte = doubleQuote ∨ byte = backslash then [backslash, byte] else [byte]

namespace Word

/-- How a word is written. A negative number is written as the unsigned number of the same bits. -/
def write : Word → Bytes
  | .number value => Decimal.digits value.toUInt64.toNat
  | .string text => Byte.doubleQuote :: (text.bytes.flatMap Byte.escaped ++ [Byte.doubleQuote])
  | .name content => content
  | .mark .newline => [Byte.newline]
  | .mark kind => ascii kind.spelling

def isNewline : Word → Bool
  | .mark .newline => true
  | _ => false

/-- What separates two words. -/
def between (first second : Word) : Bytes :=
  if first.isNewline || second.isNewline then [] else [Byte.space]

/-- How some words are written. -/
def writeAll : List Word → Bytes
  | [] => []
  | word :: rest => word.write ++ (word.between (first rest) ++ writeAll rest)

end Word

/-- The text of a program. -/
def Program.text (program : Program) : Bytes :=
  Word.writeAll program.words

/-! ### What can be written -/

/-- A name that can be written: it reads as a name, counts in full and is not reserved. -/
structure Name.Writable (name : Name) : Prop where
  opens : name.head?.any Byte.opensName = true
  continues : name.all Byte.continuesName = true
  short : name.length ≤ nameLimit
  free : Keyword.ofName? name = none

instance (name : Name) : Decidable (Name.Writable name) :=
  decidable_of_iff
    (name.head?.any Byte.opensName = true ∧ name.all Byte.continuesName = true ∧
      name.length ≤ nameLimit ∧ Keyword.ofName? name = none)
    ⟨fun ⟨opens, continues, short, free⟩ => ⟨opens, continues, short, free⟩,
      fun ⟨opens, continues, short, free⟩ => ⟨opens, continues, short, free⟩⟩

namespace Expr

mutual

/-- All names in an expression can be written. -/
def Named : Expr → Prop
  | .number .. | .string .. => True
  | .name _ content => Name.Writable content
  | .binary _ _ left right => left.Named ∧ right.Named
  | .unary _ _ operand => operand.Named
  | .call _ callee arguments => Name.Writable callee ∧ AllNamed arguments
  | .paren _ inner => inner.Named
  | .list _ items => AllNamed items
  | .subscript _ target index => target.Named ∧ index.Named

def AllNamed : List Expr → Prop
  | [] => True
  | item :: rest => item.Named ∧ AllNamed rest

end

/-- An expression that can be written. -/
structure Writable (expr : Expr) : Prop where
  named : expr.Named
  few : expr.Few
  grouped : expr.Grouped

end Expr

mutual

/-- A statement ends with an `if` to which an `elif` or `else` after it would belong. -/
def Stmt.EndsOpen : Stmt → Prop
  | .define _ _ _ body | .forLoop _ _ _ body | .whileLoop _ _ body => body.EndsOpen
  | .branch _ _ _ others => others.EndsOpen
  | .expr _ | .returns .. | .assign .. | .pass _ | .breaks _ | .continues _ | .imports .. => False

/-- A chain of branches could go on. -/
def Branches.EndsOpen : Branches → Prop
  | .arm _ _ others => others.EndsOpen
  | .otherwise body => body.EndsOpen
  | .done => True

end

mutual

/-- A statement that can be written, as far as it can be told without what surrounds it. -/
def Stmt.Writable : Stmt → Prop
  | .expr value => value.Writable
  | .returns _ value => ∀ expr ∈ value, expr.Writable
  | .define _ name parameters body =>
    Name.Writable name ∧ (∀ parameter ∈ parameters, Name.Writable parameter) ∧
      parameters.length ≤ itemLimit ∧ body.Writable
  | .assign _ name value => Name.Writable name ∧ value.Writable
  | .forLoop _ loopName iterable body =>
    Name.Writable loopName ∧ iterable.Writable ∧ body.Writable
  | .branch _ condition body others =>
    condition.Writable ∧ body.Writable ∧ (others = .done ∨ ¬body.EndsOpen) ∧
      others.Writable ∧ others.arms < itemLimit
  | .whileLoop _ condition body => condition.Writable ∧ body.Writable
  | .pass _ | .breaks _ | .continues _ => True
  | .imports _ name => Name.Writable name

def Branches.Writable : Branches → Prop
  | .arm condition body others =>
    condition.Writable ∧ body.Writable ∧ (others = .done ∨ ¬body.EndsOpen) ∧ others.Writable
  | .otherwise body => body.Writable
  | .done => True

end

/-- A program that can be written. -/
def Program.Representable (program : Program) : Prop :=
  ∀ item ∈ program.items, item.Writable ∧ item.Scoped .topLevel

/-! ### Trees without places -/

mutual

/-- The same statement without its places in the source. -/
def Stmt.unplaced : Stmt → Stmt
  | .expr value => .expr value.unplaced
  | .returns _ value => .returns ⟨0, 0, 0, 0⟩ (value.map Expr.unplaced)
  | .define _ name parameters body => .define ⟨0, 0, 0, 0⟩ name parameters body.unplaced
  | .assign _ name value => .assign ⟨0, 0, 0, 0⟩ name value.unplaced
  | .forLoop _ loopName iterable body =>
    .forLoop ⟨0, 0, 0, 0⟩ loopName iterable.unplaced body.unplaced
  | .branch _ condition body others =>
    .branch ⟨0, 0, 0, 0⟩ condition.unplaced body.unplaced others.unplaced
  | .whileLoop _ condition body => .whileLoop ⟨0, 0, 0, 0⟩ condition.unplaced body.unplaced
  | .pass _ => .pass ⟨0, 0, 0, 0⟩
  | .breaks _ => .breaks ⟨0, 0, 0, 0⟩
  | .continues _ => .continues ⟨0, 0, 0, 0⟩
  | .imports _ name => .imports ⟨0, 0, 0, 0⟩ name

def Branches.unplaced : Branches → Branches
  | .arm condition body others => .arm condition.unplaced body.unplaced others.unplaced
  | .otherwise body => .otherwise body.unplaced
  | .done => .done

end

/-- The same program without its places in the source. -/
def Program.unplaced (program : Program) : Program :=
  ⟨program.items.map Stmt.unplaced⟩

/-! ### Every word can be written -/

/-- A kind whose tokens are written in one way: as its spelling or as a newline. A reserved word
that means the same as a sign is written as the sign. -/
def TokenKind.isWritten : TokenKind → Bool
  | .endOfInput | .identifier | .number | .string | .unknown => false
  | .keyword .andWord | .keyword .orWord | .keyword .notWord => false
  | _ => true

/-- A word that can be written. -/
def Word.Writable : Word → Prop
  | .number _ | .string _ => True
  | .name content => Name.Writable content
  | .mark kind => kind.isWritten = true

theorem Word.writable_mark {kind : TokenKind} (written : kind.isWritten = true) :
    (Word.mark kind).Writable :=
  written

theorem BinaryOperator.writable_word (operator : BinaryOperator) : operator.word.Writable := by
  cases operator <;> exact Word.writable_mark rfl

theorem UnaryOperator.writable_word (operator : UnaryOperator) : operator.word.Writable := by
  cases operator <;> exact Word.writable_mark rfl

/-- All of some words can be written. -/
def Word.AllWritable (words : List Word) : Prop :=
  ∀ word ∈ words, word.Writable

namespace Word

theorem allWritable_nil : AllWritable [] :=
  List.forall_mem_nil _

theorem allWritable_cons {word : Word} {rest : List Word} :
    AllWritable (word :: rest) ↔ word.Writable ∧ AllWritable rest :=
  List.forall_mem_cons

theorem allWritable_append {first second : List Word} :
    AllWritable (first ++ second) ↔ AllWritable first ∧ AllWritable second :=
  List.forall_mem_append

theorem allWritable_singleton {word : Word} : AllWritable [word] ↔ word.Writable :=
  List.forall_mem_singleton

theorem AllWritable.mark {kind : TokenKind} {rest : List Word} (written : kind.isWritten = true)
    (writable : AllWritable rest) : AllWritable (.mark kind :: rest) :=
  allWritable_cons.mpr ⟨written, writable⟩

end Word

open Word

mutual

theorem Expr.writable_words {expr : Expr} (named : expr.Named) : AllWritable expr.words := by
  cases expr with
  | number => exact allWritable_singleton.mpr trivial
  | string => exact allWritable_singleton.mpr trivial
  | name => exact allWritable_singleton.mpr named
  | binary span operator left right =>
    exact allWritable_append.mpr ⟨left.writable_words named.1,
      allWritable_cons.mpr ⟨operator.writable_word, right.writable_words named.2⟩⟩
  | unary span operator operand =>
    exact allWritable_cons.mpr ⟨operator.writable_word, operand.writable_words named⟩
  | call span callee arguments =>
    exact allWritable_cons.mpr ⟨named.1, .mark rfl (allWritable_append.mpr
      ⟨Expr.writable_allWords named.2, .mark rfl allWritable_nil⟩)⟩
  | paren span inner =>
    exact .mark rfl (allWritable_append.mpr ⟨inner.writable_words named, .mark rfl allWritable_nil⟩)
  | list span items =>
    exact .mark rfl (allWritable_append.mpr
      ⟨Expr.writable_allWords named, .mark rfl allWritable_nil⟩)
  | subscript span target index =>
    exact allWritable_append.mpr ⟨allWritable_append.mpr ⟨target.writable_words named.1,
      .mark rfl (index.writable_words named.2)⟩, .mark rfl allWritable_nil⟩

theorem Expr.writable_allWords {items : List Expr} (named : Expr.AllNamed items) :
    AllWritable (Expr.allWords items) := by
  match items with
  | [] => exact allWritable_nil
  | [item] => exact item.writable_words named.1
  | item :: next :: rest =>
    exact allWritable_append.mpr
      ⟨item.writable_words named.1, .mark rfl (Expr.writable_allWords named.2)⟩

end

theorem Name.writable_allWords {names : List Name}
    (writable : ∀ name ∈ names, Name.Writable name) : AllWritable (Name.allWords names) := by
  match names with
  | [] => exact allWritable_nil
  | [first] => exact allWritable_singleton.mpr (writable first List.mem_cons_self)
  | first :: next :: rest =>
    obtain ⟨writableFirst, others⟩ := List.forall_mem_cons.mp writable
    exact allWritable_cons.mpr ⟨writableFirst, .mark rfl (Name.writable_allWords others)⟩

/-- The words of an expression and some words after them. -/
theorem Expr.Writable.append {expr : Expr} {rest : List Word} (writable : expr.Writable)
    (others : AllWritable rest) : AllWritable (expr.words ++ rest) :=
  allWritable_append.mpr ⟨expr.writable_words writable.named, others⟩

mutual

/-- Every word of a statement that can be written can be written. -/
theorem Stmt.writable_words {stmt : Stmt} (writable : stmt.Writable) : AllWritable stmt.words := by
  have newline : AllWritable [.mark .newline] := .mark rfl allWritable_nil
  cases stmt with
  | expr value => exact Expr.Writable.append writable newline
  | returns span value =>
    cases value with
    | none => exact newline.mark rfl
    | some value => exact ((writable value rfl).append newline).mark rfl
  | define span name parameters body =>
    obtain ⟨named, parametersNamed, -, writableBody⟩ := writable
    have last : AllWritable (.mark .rightParen :: .mark .colon :: .mark .newline :: body.words) :=
      (((body.writable_words writableBody).mark rfl).mark rfl).mark rfl
    have list := allWritable_append.mpr ⟨Name.writable_allWords parametersNamed, last⟩
    exact .mark rfl (allWritable_cons.mpr ⟨named, list.mark rfl⟩)
  | assign span name value =>
    exact allWritable_cons.mpr ⟨writable.1, (writable.2.append newline).mark rfl⟩
  | forLoop span loopName iterable body =>
    obtain ⟨named, writableIterable, writableBody⟩ := writable
    have last : AllWritable (.mark .colon :: .mark .newline :: body.words) :=
      ((body.writable_words writableBody).mark rfl).mark rfl
    exact .mark rfl (allWritable_cons.mpr ⟨named, (writableIterable.append last).mark rfl⟩)
  | branch span condition body others =>
    obtain ⟨writableCondition, writableBody, -, writableOthers, -⟩ := writable
    have last := allWritable_append.mpr
      ⟨body.writable_words writableBody, others.writable_words writableOthers⟩
    exact (writableCondition.append ((last.mark rfl).mark rfl)).mark rfl
  | whileLoop span condition body =>
    exact (writable.1.append (((body.writable_words writable.2).mark rfl).mark rfl)).mark rfl
  | pass => exact newline.mark rfl
  | breaks => exact newline.mark rfl
  | continues => exact newline.mark rfl
  | imports span name => exact .mark rfl (allWritable_cons.mpr ⟨writable, newline⟩)

theorem Branches.writable_words {branches : Branches} (writable : branches.Writable) :
    AllWritable branches.words := by
  cases branches with
  | arm condition body others =>
    obtain ⟨writableCondition, writableBody, -, writableOthers⟩ := writable
    have last := allWritable_append.mpr
      ⟨body.writable_words writableBody, others.writable_words writableOthers⟩
    exact (writableCondition.append ((last.mark rfl).mark rfl)).mark rfl
  | otherwise body => exact (((body.writable_words writable).mark rfl).mark rfl).mark rfl
  | done => exact allWritable_nil

end

/-- Every word of a program that can be written can be written. -/
theorem Program.writable_words {program : Program} (representable : program.Representable) :
    AllWritable program.words := by
  intro word member
  obtain ⟨item, inside, found⟩ := List.mem_flatMap.mp member
  exact item.writable_words (representable item inside).1 word found

end Scriptling
