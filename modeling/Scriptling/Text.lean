/-
This file gives the strings of the language their form at run time. A string is
an immutable row of bytes, kept packed because a program may build one of many
millions. Everything that is said of a string is said of `Text.bytes`, its list
of bytes; the few operations that work on the packed form are each tied to that
list by one lemma.
-/

import Scriptling.Bytes

namespace Scriptling

/-- A string value: packed bytes. -/
structure Text where
  packed : ByteArray

namespace Text

instance : DecidableEq Text := fun left right =>
  match ByteArray.decEq left.packed right.packed with
  | isTrue same => isTrue (by cases left; cases right; exact congrArg mk same)
  | isFalse different => isFalse fun equal => different (congrArg packed equal)

/-- The bytes of a string, in order. -/
def bytes (text : Text) : Bytes :=
  text.packed.data.toList

/-- The string of the given bytes. -/
def ofBytes (bytes : Bytes) : Text :=
  ⟨bytes.toByteArray⟩

@[simp]
theorem bytes_ofBytes (bytes : Bytes) : (ofBytes bytes).bytes = bytes :=
  List.toList_data_toByteArray

@[simp]
theorem ofBytes_bytes (text : Text) : ofBytes text.bytes = text := by
  obtain ⟨packed⟩ := text
  simp [ofBytes, bytes, ByteArray.ext_iff]

theorem bytes_injective {left right : Text} (same : left.bytes = right.bytes) : left = right := by
  rw [← ofBytes_bytes left, same, ofBytes_bytes]

/-- The string of an ASCII word. -/
def ofWord (word : String) : Text :=
  ofBytes (ascii word)

def empty : Text :=
  ofBytes []

def length (text : Text) : Nat :=
  text.packed.size

theorem length_eq (text : Text) : text.length = text.bytes.length :=
  Array.length_toList.symm

/-- The bytes of a string from a place on. -/
def bytesFrom (text : Text) (offset : Nat) : Bytes :=
  (text.packed.extract offset text.packed.size).data.toList

/-- The order of strings: by the first byte in which they differ, and a string comes before
those that go on after it. -/
def compareWith (left right : Text) : Ordering :=
  compareLex left.bytes right.bytes
where
  compareLex : Bytes → Bytes → Ordering
    | [], [] => .eq
    | [], _ :: _ => .lt
    | _ :: _, [] => .gt
    | first :: left, second :: right =>
      if first < second then .lt else if second < first then .gt else compareLex left right

def append (left right : Text) : Text :=
  ⟨left.packed ++ right.packed⟩

instance : Append Text := ⟨append⟩

@[simp]
theorem bytes_append (left right : Text) : (left ++ right).bytes = left.bytes ++ right.bytes :=
  ByteArray.toList_data_append

/-- `count` copies of `text`, written after `done`. -/
def repeatedAfter (text : Text) : Nat → Text → Text
  | 0, done => done
  | count + 1, done => repeatedAfter text count (done ++ text)

/-- `count` copies of a string. However many copies of the empty string are asked for, there is
nothing to write. -/
def repeated (text : Text) (count : Nat) : Text :=
  if text.length = 0 then empty else repeatedAfter text count empty

theorem bytes_repeatedAfter (text : Text) (count : Nat) (done : Text) :
    (repeatedAfter text count done).bytes =
      done.bytes ++ (List.replicate count text.bytes).flatten := by
  induction count generalizing done with
  | zero => simp [repeatedAfter]
  | succ count hypothesis => simp [repeatedAfter, hypothesis, List.replicate_succ]

@[simp]
theorem bytes_repeated (text : Text) (count : Nat) :
    (text.repeated count).bytes = (List.replicate count text.bytes).flatten := by
  unfold repeated
  split
  next none =>
    have nothing : text.bytes = [] := List.eq_nil_of_length_eq_zero (text.length_eq ▸ none)
    simp [empty, nothing]
  next => simp [bytes_repeatedAfter, empty]

end Text

end Scriptling
