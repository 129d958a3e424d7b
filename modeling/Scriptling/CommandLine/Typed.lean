/-
This file reads a line of the shell's input as it was typed. A backspace takes
back the cluster before it, and at the start of the line there is none to take
back. The end of the line is not part of what was typed, and a line that is not
UTF-8 cannot be read at all.
-/

import Scriptling.Bytes
import Scriptling.Text.Cluster

namespace Scriptling

/-- What has been typed: the bytes, the last first, and the size of every cluster that can still
be taken back, the last first. -/
structure Typed where
  bytes : Bytes
  sizes : List Nat

namespace Typed

def empty : Typed := ⟨[], []⟩

/-- Types some bytes as one cluster. -/
def add (typed : Typed) (cluster : Bytes) : Typed :=
  ⟨cluster.reverse ++ typed.bytes, cluster.length :: typed.sizes⟩

/-- Takes back the last cluster. Its size is kept in one byte, so of a cluster of more bytes only
as many as the remainder says are taken. -/
def takeBack (typed : Typed) : Typed :=
  match typed.sizes with
  | [] => typed
  | size :: sizes => ⟨typed.bytes.drop (size % 256), sizes⟩

/-- The key that takes back. -/
def backspace : Char := Char.ofNat 0x08

/-- Presses the keys of one cluster. -/
def press (typed : Typed) (cluster : List Char) : Typed :=
  if cluster = [backspace] then typed.takeBack
  else typed.add (encode (String.ofList cluster))

/-- What some letters leave once all are typed. -/
def outcome (letters : List Char) : Bytes :=
  ((Cluster.cut letters).foldl press empty).bytes.reverse

/-- A line without the newline that ends it, and without one carriage return before that. -/
def withoutEnd (line : Bytes) : Bytes :=
  if line.getLast? = some Byte.newline then
    let content := line.dropLast
    if content.getLast? = some Byte.carriageReturn then content.dropLast else content
  else line

/-- The line that was typed, if it is text. -/
def line? (line : Bytes) : Option Bytes := do
  let text ← String.fromUTF8? (withoutEnd line).toByteArray
  return outcome text.toList

end Typed

end Scriptling
