/-
This file writes a text between double quotes in a form that shows every
character on one line. A quote and a backslash are escaped by a backslash, the
common controls have letters of their own, and any other character that leaves
no mark is written by its number.
-/

import Scriptling.Text.Unmarked

namespace Scriptling.Quoted

/-- The escape that writes a character by its number, in lower-case hexadecimal. -/
def byNumber (letter : Char) : String :=
  "\\u\x7b" ++ String.ofList (Nat.toDigits 16 letter.toNat) ++ "\x7d"

def escape (letter : Char) : String :=
  if letter = '"' then "\\\""
  else if letter = '\\' then "\\\\"
  else if letter = '\n' then "\\n"
  else if letter = '\t' then "\\t"
  else if letter = '\r' then "\\r"
  else if letter.toNat = 0 then "\\0"
  else if Unmarked.isUnmarked letter then byNumber letter
  else letter.toString

/-- The quoted form of a text. -/
def quote (text : String) : String :=
  text.foldl (fun written letter => written ++ escape letter) "\"" ++ "\""

end Scriptling.Quoted
