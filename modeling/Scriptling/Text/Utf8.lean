/-
This file reads bytes as UTF-8 without ever refusing them. Diagnostics quote
source text that may hold any bytes, so each stretch that is not UTF-8 is shown
as the replacement character: one for every longest run of bytes that opens a
scalar value and cannot be completed, and one for every byte that opens none.

The reader is a fold. Its state is the text read so far and the scalar value
that is still being read, with the range in which its next byte has to lie.
-/

import Scriptling.Bytes

namespace Scriptling.Utf8

/-- A scalar value that has begun: the bits read, how many bytes are still to come, and the
range of the next one. -/
structure Opened where
  bits : Nat
  missing : Nat
  low : UInt8
  high : UInt8

/-- What the first byte of a scalar value says. -/
inductive Lead where
  | whole (bits : Nat)
  | opened (rest : Opened)
  | none

/-- The first bytes of well-formed UTF-8. The narrower second ranges leave out overlong forms,
surrogates and values past U+10FFFF. -/
def lead (byte : UInt8) : Lead :=
  if byte < 0x80 then .whole byte.toNat
  else if byte < 0xc2 then .none
  else if byte < 0xe0 then .opened ⟨byte.toNat - 0xc0, 1, 0x80, 0xbf⟩
  else if byte = 0xe0 then .opened ⟨0x0, 2, 0xa0, 0xbf⟩
  else if byte = 0xed then .opened ⟨0xd, 2, 0x80, 0x9f⟩
  else if byte < 0xf0 then .opened ⟨byte.toNat - 0xe0, 2, 0x80, 0xbf⟩
  else if byte = 0xf0 then .opened ⟨0x0, 3, 0x90, 0xbf⟩
  else if byte < 0xf4 then .opened ⟨byte.toNat - 0xf0, 3, 0x80, 0xbf⟩
  else if byte = 0xf4 then .opened ⟨0x4, 3, 0x80, 0x8f⟩
  else .none

def replacement : Char := '\uFFFD'

structure Reader where
  text : String
  opened : Option Opened

namespace Reader

/-- Reads a byte that begins a scalar value. -/
def start (text : String) (byte : UInt8) : Reader :=
  match lead byte with
  | .whole bits => ⟨text.push (Char.ofNat bits), none⟩
  | .opened rest => ⟨text, some rest⟩
  | .none => ⟨text.push replacement, none⟩

/-- Reads one byte. A byte that cannot go on with the opened scalar value ends it and begins
the next. -/
def read (reader : Reader) (byte : UInt8) : Reader :=
  match reader.opened with
  | none => start reader.text byte
  | some ⟨bits, missing, low, high⟩ =>
    if low ≤ byte ∧ byte ≤ high then
      let bits := bits * 64 + (byte.toNat - 0x80)
      if missing = 1 then ⟨reader.text.push (Char.ofNat bits), none⟩
      else ⟨reader.text, some ⟨bits, missing - 1, 0x80, 0xbf⟩⟩
    else start (reader.text.push replacement) byte

/-- The text once no byte follows. -/
def finish (reader : Reader) : String :=
  match reader.opened with
  | none => reader.text
  | some _ => reader.text.push replacement

end Reader

/-- The text of bytes that should be UTF-8, with U+FFFD where they are not. -/
def decodeLossy (bytes : Bytes) : String :=
  (bytes.foldl Reader.read ⟨"", none⟩).finish

end Scriptling.Utf8
