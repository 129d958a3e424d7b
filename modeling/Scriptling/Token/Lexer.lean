/-
This file cuts a source into tokens. Between two tokens stands a gap of blanks
and perhaps a comment; the next token is then decided by its first byte and
takes the longest text of its kind. The source is never refused: a byte that
opens no token is a token of its own, and a string that is not closed reaches to
the end of the source.

Positions are not tracked beside the reading but computed from it: a token
starts where the bytes before it lead, and the same holds for its end.
-/

import Scriptling.Integer.Decimal
import Scriptling.Token

namespace Scriptling

/-- How many bytes of a name count. -/
def nameLimit : Nat := 63

/-- The bytes before the next token: blanks, and a comment up to the end of its line. -/
def gap (source : Bytes) : Bytes :=
  let blanks := source.takeWhile Byte.isBlank
  match source.dropWhile Byte.isBlank with
  | [] => blanks
  | byte :: rest =>
    if byte = Byte.hash then blanks ++ byte :: rest.takeWhile (· != Byte.newline) else blanks

/-- A token without its place, and how many bytes of the source it takes. -/
structure Lexeme where
  kind : TokenKind
  text : Bytes
  value : Int64
  closed : Bool
  length : Nat

namespace Lexeme

/-- A name or a reserved word. Only the first bytes of a long name count, and they decide
whether it is reserved. -/
def ofName (first : UInt8) (rest : Bytes) : Lexeme :=
  let word := first :: rest.takeWhile Byte.continuesName
  let name := word.take nameLimit
  let kind := match Keyword.ofName? name with
    | some keyword => .keyword keyword
    | none => .identifier
  ⟨kind, name, 0, true, word.length⟩

def ofNumber (first : UInt8) (rest : Bytes) : Lexeme :=
  let run := first :: rest.takeWhile Byte.isDigit
  ⟨.number, run, Decimal.literal run, true, run.length⟩

/-- What a byte after a backslash denotes. -/
def unescape (byte : UInt8) : UInt8 :=
  if byte = 0x6e then Byte.newline
  else if byte = 0x74 then Byte.tab
  else if byte = 0x72 then Byte.carriageReturn
  else byte

/-- Reads a string after its opening quote. The contents so far are kept in reverse, and
`length` counts the bytes taken. -/
def ofString (quote : UInt8) : Bytes → Bytes → Nat → Lexeme
  | [], contents, length => ⟨.string, contents.reverse, 0, false, length⟩
  | byte :: rest, contents, length =>
    if byte = quote then ⟨.string, contents.reverse, 0, true, length + 1⟩
    else if byte = Byte.backslash then
      match rest with
      | [] => ⟨.string, contents.reverse, 0, false, length + 1⟩
      | escaped :: rest => ofString quote rest (unescape escaped :: contents) (length + 2)
    else ofString quote rest (byte :: contents) (length + 1)

/-- An operator or a bracket, or the byte itself when it opens none. -/
def ofSymbol (first : UInt8) (rest : Bytes) : Lexeme :=
  match TokenKind.symbols.find? fun kind => (ascii kind.spelling).isPrefixOf (first :: rest) with
  | some kind => ⟨kind, ascii kind.spelling, 0, true, kind.spelling.length⟩
  | none => ⟨.unknown, [first], 0, true, 1⟩

/-- The token at the head of a source that does not open with a gap. -/
def read (first : UInt8) (rest : Bytes) : Lexeme :=
  if first = Byte.newline then ⟨.newline, [], 0, true, 1⟩
  else if Byte.opensName first then ofName first rest
  else if Byte.isDigit first then ofNumber first rest
  else if first = Byte.quote ∨ first = Byte.doubleQuote then ofString first rest [] 1
  else ofSymbol first rest

/-- The token between its two positions. -/
def token (lexeme : Lexeme) (first last : Position) : Token :=
  ⟨lexeme.kind, lexeme.text, lexeme.value, Span.between first last, lexeme.closed⟩

end Lexeme

namespace Tokens

/-- The end of the input at its place. -/
def finishAt (position : Position) : Token :=
  ⟨.endOfInput, [], 0, Span.between position position, true⟩

/-- Reads the tokens of `source`, which begins at `position`. Those before it are kept in
reverse. -/
def scanAfter (done : List Token) (position : Position) (source : Bytes) : Tokens :=
  let blank := gap source
  let first := position.advance blank
  match found : source.drop blank.length with
  | [] => ⟨done.reverse, finishAt first⟩
  | byte :: rest =>
    let lexeme := Lexeme.read byte rest
    let last := first.advance ((byte :: rest).take lexeme.length)
    scanAfter (lexeme.token first last :: done) last (rest.drop (lexeme.length - 1))
termination_by source.length
decreasing_by
  have shorter := congrArg List.length found
  simp only [List.length_drop, List.length_cons] at shorter ⊢
  omega

/-- The tokens of a source. -/
def ofSource (source : Bytes) : Tokens :=
  scanAfter [] Position.start source

end Tokens

end Scriptling
