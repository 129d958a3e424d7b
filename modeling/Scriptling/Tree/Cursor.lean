/-
This file reads a row of tokens from left to right. A cursor stands before the
first token that is not yet taken; past the last word it stands at the end of
the input, which stays there however often it is asked for. A reader moves the
cursor and gives a result, or refuses with one message and leaves the cursor
where it found the fault.

With the cursor goes the count of how deep the reading is. A reader may be told
how deep it is, and then it leaves the count alone, or keep the count itself.
-/

import Scriptling.Diagnostic.Cause

namespace Scriptling

/-- In how many function bodies the reading is, in how many loop bodies of the innermost of them,
and on which level of nesting. -/
structure Depths where
  functions : Nat
  loops : Nat
  nesting : Nat

/-- Outside of everything. -/
def Depths.outside : Depths :=
  ⟨0, 0, 0⟩

structure Cursor where
  ahead : List Token
  finish : Token
  /-- How many tokens have been taken. -/
  taken : Nat
  depths : Depths

namespace Cursor

def ofTokens (tokens : Tokens) : Cursor :=
  ⟨tokens.words, tokens.finish, 0, .outside⟩

/-- The next token. -/
def current (cursor : Cursor) : Token :=
  cursor.ahead.headD cursor.finish

/-- The token after the next one. -/
def following (cursor : Cursor) : Token :=
  cursor.ahead.tail.headD cursor.finish

/-- Past the next token. -/
def advance (cursor : Cursor) : Cursor :=
  { cursor with ahead := cursor.ahead.tail, taken := cursor.taken + 1 }

/-- Past every token up to the first that satisfies `stop`. -/
def skipUntil (stop : Token → Bool) (cursor : Cursor) : Cursor :=
  let skipped := (cursor.ahead.takeWhile fun token => !stop token).length
  { cursor with ahead := cursor.ahead.drop skipped, taken := cursor.taken + skipped }

/-- Past the newlines that come next. -/
def skipNewlines (cursor : Cursor) : Cursor :=
  cursor.skipUntil fun token => token.kind != .newline

/-- At the next newline, or at the end of the input. -/
def toNewline (cursor : Cursor) : Cursor :=
  cursor.skipUntil fun token => token.kind == .newline

end Cursor

/-- A step of reading: a result or a message, and the cursor after it. -/
abbrev Reader := EStateM Diagnostic Cursor

namespace Reader

def current : Reader Token := do
  return (← get).current

/-- The next token, which is taken. -/
def take : Reader Token := do
  let cursor ← get
  set cursor.advance
  return cursor.current

/-- Refuses the next token. -/
def refuse {Result : Type} (expected : Expectation) : Reader Result := do
  throw ((← current).unexpected expected)

/-- Refuses the next token and says where it would be allowed. -/
def refuseWithNote {Result : Type} (expected : Expectation) (note : Note) : Reader Result := do
  throw (((← current).unexpected expected).withNote note)

/-- Whether the next token is of a kind. -/
def sees (kind : TokenKind) : Reader Bool := do
  return (← current).kind == kind

/-- Takes the next token if it is of a kind, and says whether it did. -/
def accept (kind : TokenKind) : Reader Bool := do
  if ← sees kind then
    discard take
    return true
  else
    return false

/-- Takes the next token, which has to be of a kind. -/
def expect (kind : TokenKind) (expected : Expectation) : Reader Token := do
  if ← sees kind then take else refuse expected

/-- Takes the next token, which has to be the one of its spelling. -/
def expectToken (kind : TokenKind) : Reader Token :=
  expect kind (.token kind)

/-- Takes a name. -/
def expectName (expected : Expectation) : Reader Name := do
  return (← expect .identifier expected).text

def skipNewlines : Reader Unit :=
  modify Cursor.skipNewlines

end Reader

end Scriptling
