/-
This file lists what can go wrong in a source and in a run, and gives each cause
its wording. Whoever finds a fault names the cause; only this file knows how it
reads.
-/

import Scriptling.Diagnostic
import Scriptling.Text.Utf8
import Scriptling.Token

namespace Scriptling

/-- Things of which a source may hold only so many in one place. -/
inductive Counted where
  | arguments
  | listItems
  | parameters
  | arms
  | nesting
  deriving DecidableEq, Repr

def Counted.words : Counted → String
  | .arguments => "arguments"
  | .listItems => "list items"
  | .parameters => "parameters"
  | .arms => "if/elif arms"
  | .nesting => "levels of nesting"

/-- What the grammar asks for where it finds something else. -/
inductive Expectation where
  | statement
  | expression
  | endOfInput
  | functionName
  | parameterName
  | loopVariable
  | moduleName
  | token (kind : TokenKind)
  | atMost (limit : Nat) (what : Counted)
  deriving DecidableEq, Repr

def Expectation.words : Expectation → String
  | .statement => "statement"
  | .expression => "expression"
  | .endOfInput => "end of input"
  | .functionName => "function name"
  | .parameterName => "parameter name"
  | .loopVariable => "loop variable"
  | .moduleName => "module name"
  | .token kind => s!"'{kind.spelling}'"
  | .atMost limit what => s!"at most {limit} {what.words}"

/-- What a message adds on where a word is allowed. -/
inductive Note where
  | onlyInFunction (keyword : Keyword)
  | onlyInLoop (keyword : Keyword)
  deriving DecidableEq, Repr

def Note.words : Note → String
  | .onlyInFunction keyword => s!"'{keyword.spelling}' is only valid inside a function body"
  | .onlyInLoop keyword => s!"'{keyword.spelling}' is only valid inside a loop body"

/-- How many names one frame can hold. -/
def frameCapacity : Nat := 256

/-- What can go wrong. -/
inductive Cause where
  | unterminatedString (line : Nat)
  | unexpected (expected : Expectation) (line : Nat) (kind : TokenKind) (text : Bytes)
  | undefinedName (name : Name)
  | wrongArity (name : Name) (arity given : Nat)
  | callTooDeep (name : Name) (limit : Nat)
  | frameFull (name : Name)
  | stepLimit (limit : Nat)
  deriving DecidableEq, Repr

namespace Cause

def kind : Cause → DiagnosticKind
  | .unterminatedString _ => .lexical
  | .unexpected .. => .grammar
  | .undefinedName _ => .name
  | .wrongArity .. => .type
  | .callTooDeep .. => .recursion
  | .frameFull _ => .runtime
  | .stepLimit _ => .runtime

def message : Cause → String
  | .unterminatedString line => s!"unterminated string literal at line {line}"
  | .unexpected expected line kind text =>
    let shown := Utf8.decodeLossy text
    s!"expected {expected.words} at line {line}, got {kind.name} '{shown}'"
  | .undefinedName name =>
    let shown := Utf8.decodeLossy name
    s!"name '{shown}' is not defined"
  | .wrongArity name arity given =>
    let shown := Utf8.decodeLossy name
    s!"{shown} expects {arity} args, got {given}"
  | .callTooDeep name limit =>
    let shown := Utf8.decodeLossy name
    s!"maximum call depth of {limit} exceeded in {shown}"
  | .frameFull name =>
    let shown := Utf8.decodeLossy name
    s!"frame holds {frameCapacity} names already, `{shown}` was not bound"
  | .stepLimit limit => s!"step limit of {limit} exceeded"

/-- The message for a cause that has no place in the source. -/
def unplaced (cause : Cause) : Diagnostic :=
  ⟨cause.kind, cause.message, none, []⟩

/-- The message for a cause at its place. -/
def placed (cause : Cause) (span : Span) : Diagnostic :=
  ⟨cause.kind, cause.message, some span, []⟩

end Cause

/-- The same message with a note after those it has. -/
def Diagnostic.withNote (diagnostic : Diagnostic) (note : Note) : Diagnostic :=
  { diagnostic with notes := diagnostic.notes ++ [note.words] }

namespace Token

/-- The message that something else was expected where this token stands. -/
def unexpected (token : Token) (expected : Expectation) : Diagnostic :=
  (Cause.unexpected expected token.span.line token.kind token.text).placed token.span

/-- What is wrong with a token itself: only a string can lack its end. -/
def problem? (token : Token) : Option Diagnostic :=
  if token.closed then none
  else some ((Cause.unterminatedString token.span.line).placed token.span)

end Token

end Scriptling
