/-
This file reads whole sources. A program is read statement by statement, and a
statement that cannot be read costs one message: reading goes on after the line
where the fault stands, so every bad line is reported. A single expression has
to span its whole source, apart from blank lines after it.

Faults of the tokens themselves join those of the grammar. A program is read to
its end and reports all of them; the reader of an expression has seen no more
than two tokens past those it took.
-/

import Scriptling.Token.Lexer
import Scriptling.Tree.Statement

namespace Scriptling

/-- What reading some statements has given: those that could be read and the messages for those
that could not, both in order, and where the reading stopped. -/
structure Readings where
  items : List Stmt
  diagnostics : List Diagnostic
  stopped : Cursor

namespace Reader

/-- Reads statements to the end of the input, given how to read one. What was read before is kept
in reverse. Each round takes a token, so a source needs no more rounds than it has tokens. -/
def statementsAfter (statement : Reader Stmt) (items : List Stmt)
    (diagnostics : List Diagnostic) : Nat → Cursor → Readings
  | 0, cursor => ⟨items.reverse, diagnostics.reverse, cursor⟩
  | rounds + 1, cursor =>
    let cursor := cursor.skipNewlines
    if cursor.current.kind = .endOfInput then
      ⟨items.reverse, diagnostics.reverse, cursor⟩
    else
      match statement cursor with
      | .ok item cursor => statementsAfter statement (item :: items) diagnostics rounds cursor
      | .error diagnostic cursor =>
        statementsAfter statement items (diagnostic :: diagnostics) rounds cursor.toNewline

/-- All statements from a cursor on. -/
def statements (cursor : Cursor) : Readings :=
  statementsAfter (statement nestingLimit .topLevel) [] [] cursor.ahead.length cursor

/-- An expression and nothing after it but newlines. -/
def wholeExpression : Reader Expr := do
  let value ← expression nestingLimit
  skipNewlines
  if ← sees .endOfInput then return value else refuse .endOfInput

end Reader

/-- The program that a source spells, or everything that is wrong with it. -/
def Program.ofSource (source : Bytes) : Except (List Diagnostic) Program :=
  let tokens := Tokens.ofSource source
  let readings := Reader.statements (Cursor.ofTokens tokens)
  match tokens.words.filterMap Token.problem? ++ readings.diagnostics with
  | [] => .ok ⟨readings.items⟩
  | diagnostics => .error (Diagnostic.inSourceOrder diagnostics)

/-- The messages about tokens that a reader at this cursor has seen: those it took and the two
that come next. -/
def Tokens.problemsSeen (tokens : Tokens) (cursor : Cursor) : List Diagnostic :=
  (tokens.words.take (cursor.taken + 2)).filterMap Token.problem?

/-- The expression that a source spells, or what is wrong with it. -/
def Expr.ofSource (source : Bytes) : Except (List Diagnostic) Expr :=
  let tokens := Tokens.ofSource source
  match Reader.wholeExpression (Cursor.ofTokens tokens) with
  | .ok value cursor =>
    match tokens.problemsSeen cursor with
    | [] => .ok value
    | diagnostics => .error (Diagnostic.inSourceOrder diagnostics)
  | .error diagnostic cursor =>
    .error (Diagnostic.inSourceOrder (tokens.problemsSeen cursor ++ [diagnostic]))

end Scriptling
