/-
This file names the words of the language. A token has a kind, the text it
stands for and its place in the source. The kinds that are always written alike
have one spelling, and the scanner, the messages and anything that writes source
text read it from the same table.
-/

import Scriptling.Span

namespace Scriptling

/-- The reserved words. -/
inductive Keyword where
  | defWord
  | ifWord
  | elseWord
  | elifWord
  | whileWord
  | forWord
  | inWord
  | returnWord
  | breakWord
  | continueWord
  | passWord
  | andWord
  | orWord
  | notWord
  | importWord
  deriving DecidableEq, Repr

namespace Keyword

def spelling : Keyword → String
  | .defWord => "def"
  | .ifWord => "if"
  | .elseWord => "else"
  | .elifWord => "elif"
  | .whileWord => "while"
  | .forWord => "for"
  | .inWord => "in"
  | .returnWord => "return"
  | .breakWord => "break"
  | .continueWord => "continue"
  | .passWord => "pass"
  | .andWord => "and"
  | .orWord => "or"
  | .notWord => "not"
  | .importWord => "import"

def all : List Keyword :=
  [.defWord, .ifWord, .elseWord, .elifWord, .whileWord, .forWord, .inWord, .returnWord,
    .breakWord, .continueWord, .passWord, .andWord, .orWord, .notWord, .importWord]

/-- The reserved word that is spelled by a name, if it is one. -/
def ofName? (name : Name) : Option Keyword :=
  all.find? fun word => ascii word.spelling == name

end Keyword

/-- What a token is, apart from its text. -/
inductive TokenKind where
  | endOfInput
  | identifier
  | keyword (word : Keyword)
  | number
  | string
  | plus
  | minus
  | star
  | slash
  | percent
  | doubleStar
  | doubleSlash
  | assign
  | equal
  | notEqual
  | less
  | greater
  | lessEqual
  | greaterEqual
  | ampersand
  | bar
  | caret
  | tilde
  | doubleAmpersand
  | doubleBar
  | bang
  | leftParen
  | rightParen
  | leftBracket
  | rightBracket
  | colon
  | comma
  | newline
  | unknown
  deriving DecidableEq, Repr

namespace TokenKind

/-- The name by which messages call a kind. -/
def name : TokenKind → String
  | .endOfInput => "EOF"
  | .identifier => "IDENT"
  | .keyword _ => "KEYWORD"
  | .number => "NUMBER"
  | .string => "STRING"
  | .plus => "PLUS"
  | .minus => "MINUS"
  | .star => "STAR"
  | .slash => "SLASH"
  | .percent => "MODULO"
  | .doubleStar => "POW"
  | .doubleSlash => "FLOORDIV"
  | .assign => "EQ"
  | .equal => "EQEQ"
  | .notEqual => "NE"
  | .less => "LT"
  | .greater => "GT"
  | .lessEqual => "LE"
  | .greaterEqual => "GE"
  | .ampersand => "BIT_AND"
  | .bar => "BIT_OR"
  | .caret => "BIT_XOR"
  | .tilde => "BIT_NOT"
  | .doubleAmpersand => "AND"
  | .doubleBar => "OR"
  | .bang => "NOT"
  | .leftParen => "LPAREN"
  | .rightParen => "RPAREN"
  | .leftBracket => "LBRACKET"
  | .rightBracket => "RBRACKET"
  | .colon => "COLON"
  | .comma => "COMMA"
  | .newline => "NEWLINE"
  | .unknown => "UNKNOWN"

/-- How a kind is written, and the empty string for a kind that has no fixed spelling. -/
def spelling : TokenKind → String
  | .keyword word => word.spelling
  | .plus => "+"
  | .minus => "-"
  | .star => "*"
  | .slash => "/"
  | .percent => "%"
  | .doubleStar => "**"
  | .doubleSlash => "//"
  | .assign => "="
  | .equal => "=="
  | .notEqual => "!="
  | .less => "<"
  | .greater => ">"
  | .lessEqual => "<="
  | .greaterEqual => ">="
  | .ampersand => "&"
  | .bar => "|"
  | .caret => "^"
  | .tilde => "~"
  | .doubleAmpersand => "&&"
  | .doubleBar => "||"
  | .bang => "!"
  | .leftParen => "("
  | .rightParen => ")"
  | .leftBracket => "["
  | .rightBracket => "]"
  | .colon => ":"
  | .comma => ","
  | _ => ""

/-- The operators and brackets. Each stands before those that its spelling begins with, so the
first one that opens a text is also the longest. -/
def symbols : List TokenKind :=
  [.doubleStar, .doubleSlash, .doubleAmpersand, .doubleBar, .equal, .notEqual, .lessEqual,
    .greaterEqual, .plus, .minus, .star, .slash, .percent, .assign, .less, .greater, .ampersand,
    .bar, .caret, .tilde, .bang, .leftParen, .rightParen, .leftBracket, .rightBracket, .colon,
    .comma]

end TokenKind

/-- One word of the source. The text of a string is what it denotes, a newline and the end of
the input have none, and any other token has its bytes in the source. -/
structure Token where
  kind : TokenKind
  text : Bytes
  /-- The value of a number, and zero for any other token. -/
  value : Int64
  span : Span
  /-- False for a string that the source ends before its closing quote. -/
  closed : Bool
  deriving DecidableEq, Repr

/-- The tokens of a source: the words before its end, and the end itself. -/
structure Tokens where
  words : List Token
  finish : Token
  deriving DecidableEq, Repr

/-- All tokens, the end of the input last. -/
def Tokens.toList (tokens : Tokens) : List Token :=
  tokens.words ++ [tokens.finish]

end Scriptling
