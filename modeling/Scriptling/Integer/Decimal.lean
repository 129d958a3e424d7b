/-
This file writes integers in decimal and reads them back. Writing gives the
digits without leading zeros, after a minus sign for a negative number. Reading
takes one digit after another and never leaves its range: a literal of the
source stops at the largest unsigned number of 64 bits, and a text that is
converted at run time stops one above the largest signed number, which leaves
room for the sign.
-/

import Scriptling.Bytes

namespace Scriptling.Decimal

/-- The digits of a natural number. -/
def digits (number : Nat) : Bytes :=
  (Nat.toDigits 10 number).map fun digit => digit.toNat.toUInt8

/-- The minus sign of a negative number, and nothing for any other. -/
def sign (number : Int) : Bytes :=
  if number < 0 then [0x2d] else []

/-- The decimal form of an integer. -/
def writeInt (number : Int) : Bytes :=
  sign number ++ digits number.natAbs

/-- The decimal form of a number. -/
def write (number : Int64) : Bytes :=
  writeInt number.toInt

theorem digits_ne_nil (number : Nat) : digits number ≠ [] := by
  simp [digits, Nat.toDigits_ne_nil]

theorem writeInt_ne_nil (number : Int) : writeInt number ≠ [] := by
  simp [writeInt, digits_ne_nil]

/-- The exact value of a run of digits. -/
def value (run : Bytes) : Nat :=
  run.foldl (fun total digit => total * 10 + (digit.toNat - 0x30)) 0

/-- A number of 64 bits: the number itself if it fits, and else the largest one. -/
def saturate (number : Nat) : UInt64 :=
  (min number (UInt64.size - 1)).toUInt64

/-- The value of a literal. Neither the product nor the sum of a step leaves 64 bits, and these are
read as a signed number in the end. -/
def literal (run : Bytes) : Int64 :=
  (run.foldl (fun total digit =>
    saturate ((saturate (total.toNat * 10)).toNat + (digit.toNat - 0x30))) 0).toInt64

/-- The magnitude of a text, before its sign is known to fit. -/
def magnitude (run : Bytes) : Int :=
  run.foldl (fun total digit =>
    min (total * 10 + (digit.toNat - 0x30 : Nat)) (Int64.maxValue.toInt + 1)) 0

/-- The number of the signed range that lies nearest. -/
def clamp (number : Int) : Int64 :=
  Int64.ofInt (max Int64.minValue.toInt (min number Int64.maxValue.toInt))

/-- Takes an optional sign off a text. -/
def takeSign : Bytes → Int × Bytes
  | [] => (1, [])
  | byte :: rest =>
    if byte = 0x2d then (-1, rest)
    else if byte = 0x2b then (1, rest)
    else (1, byte :: rest)

/-- The number that a text spells: white space, an optional sign and digits, then the end or
white space and whatever follows it. Any other text stands for zero. -/
def read (text : Bytes) : Int64 :=
  let (factor, rest) := takeSign (text.dropWhile Byte.isSpace)
  let run := rest.takeWhile Byte.isDigit
  match run, rest.dropWhile Byte.isDigit with
  | [], _ => 0
  | _, byte :: _ => if Byte.isSpace byte then clamp (factor * magnitude run) else 0
  | _, [] => clamp (factor * magnitude run)

end Scriptling.Decimal
