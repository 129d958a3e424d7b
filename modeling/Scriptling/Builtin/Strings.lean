/-
This file computes the builtins on strings. All of them work on bytes: lengths
and places count bytes, and only ASCII letters have two cases.
-/

import Scriptling.Builtin.Answer
import Scriptling.Bytes.Search
import Scriptling.Integer.Extent

namespace Scriptling.Builtin

/-- At most `count` bytes from `start` on. -/
def substring (text : Bytes) (start count : Int64) : Bytes :=
  (Extent.ofCount (.ofNat text.length) start count).part text

def substrOf : List Value → Answer
  | [.str text, .int start, .int count] => .bytes (substring text.bytes start count)
  | _ => .nothing

/-- The bytes of a string, and none for any other value. -/
def bytesOrNone (value : Value) : Bytes :=
  (value.text?.map Text.bytes).getD []

/-- The strings of a list with a separator between them. -/
def joinOf (heap : Heap) : List Value → Answer
  | [separator, .list handle] =>
    .bytes ((bytesOrNone separator).intercalate ((heap.items handle).map bytesOrNone))
  | _ => .nothing

def splitBy (separator : Bytes) : Value → Answer
  | .str text => .list ((pieces separator text.bytes).map fun piece => .str (Text.ofBytes piece))
  | _ => .nothing

def splitOf : List Value → Answer
  | [text] => splitBy [] text
  | [text, separator] => splitBy (bytesOrNone separator) text
  | _ => .nothing

/-- The place of the first occurrence, or minus one. -/
def findOf : List Value → Answer
  | [.str text, .str needle] =>
    match indexOf? needle.bytes text.bytes with
    | some place => .count place
    | none => .int (-1)
  | [_, _] => .int (-1)
  | _ => .nothing

/-- A test of one string against another, which other values fail. -/
def affixOf (test : Bytes → Bytes → Bool) : List Value → Answer
  | [.str text, .str affix] => .bool (test affix.bytes text.bytes)
  | [_, _] => .bool false
  | _ => .nothing

def startswithOf : List Value → Answer :=
  affixOf List.isPrefixOf

def endswithOf : List Value → Answer :=
  affixOf List.isSuffixOf

def caseOf (change : UInt8 → UInt8) : List Value → Answer
  | [.str text] => .bytes (text.bytes.map change)
  | _ => .nothing

def tolowerOf : List Value → Answer :=
  caseOf Byte.toLower

def toupperOf : List Value → Answer :=
  caseOf Byte.toUpper

/-- The first byte of a string as a number, and zero where there is none. -/
def ordOf : List Value → Answer
  | [value] => .count ((bytesOrNone value).headD 0).toNat
  | _ => .nothing

/-- The string of one byte, for a number modulo 256. -/
def chrOf : List Value → Answer
  | [.int code] => .bytes [(code.toInt % 256).toNat.toUInt8]
  | _ => .nothing

end Scriptling.Builtin
