/-
This file fixes what text is to the language: a list of bytes. Source text,
names and the contents of strings are all bytes, and no encoding is assumed of
them. Only the words of the language itself are ASCII, and so are the classes
of bytes that the scanner and the number reader tell apart.
-/

namespace Scriptling

/-- A piece of text: any bytes, in order. -/
abbrev Bytes := List UInt8

/-- A name of the language: a variable, a function or a module. -/
abbrev Name := Bytes

/-- The bytes of an ASCII word, one byte a letter. -/
def ascii (word : String) : Bytes :=
  word.toList.map fun letter => letter.toNat.toUInt8

/-- The bytes that encode a string in UTF-8. -/
def encode (text : String) : Bytes :=
  text.toUTF8.data.toList

theorem encode_append (first second : String) :
    encode (first ++ second) = encode first ++ encode second := by
  unfold encode String.toUTF8
  rw [String.toByteArray_append, ByteArray.data_append, Array.toList_append]

namespace Byte

def newline : UInt8 := 0x0a

def carriageReturn : UInt8 := 0x0d

def tab : UInt8 := 0x09

def space : UInt8 := 0x20

def backslash : UInt8 := 0x5c

def hash : UInt8 := 0x23

def quote : UInt8 := 0x27

def doubleQuote : UInt8 := 0x22

/-- Bytes that separate tokens: space, tab, carriage return, vertical tab and form feed. A
newline is a token of its own and does not belong to them. -/
def isBlank (byte : UInt8) : Bool :=
  byte == space || byte == tab || byte == carriageReturn || byte == 0x0b || byte == 0x0c

/-- Blanks and the newline. -/
def isSpace (byte : UInt8) : Bool :=
  isBlank byte || byte == newline

def isDigit (byte : UInt8) : Bool :=
  0x30 ≤ byte && byte ≤ 0x39

def isUpper (byte : UInt8) : Bool :=
  0x41 ≤ byte && byte ≤ 0x5a

def isLower (byte : UInt8) : Bool :=
  0x61 ≤ byte && byte ≤ 0x7a

/-- Bytes that may open a name: ASCII letters and the underscore. -/
def opensName (byte : UInt8) : Bool :=
  isUpper byte || isLower byte || byte == 0x5f

/-- Bytes that may stand inside a name. -/
def continuesName (byte : UInt8) : Bool :=
  opensName byte || isDigit byte

/-- The lower-case form of an ASCII letter; any other byte is its own. -/
def toLower (byte : UInt8) : UInt8 :=
  if isUpper byte then byte + 0x20 else byte

/-- The upper-case form of an ASCII letter; any other byte is its own. -/
def toUpper (byte : UInt8) : UInt8 :=
  if isLower byte then byte - 0x20 else byte

end Byte

/-- A line without the carriage returns and newlines that end it. -/
def trimLineEnd (line : Bytes) : Bytes :=
  (line.reverse.dropWhile fun byte => byte == Byte.carriageReturn || byte == Byte.newline).reverse

end Scriptling
