/-
This file models what a session reads and writes. Output goes to sinks that
remember every byte they accept, and input comes from a source of bytes that is
used up line by line. Either may refuse a request, and a session has to answer
for that. When they do is not fixed: a sink and a source carry a decision for
every request that can come, so whatever holds of all of them holds however the
streams behave.
-/

import Scriptling.Text

namespace Scriptling

/-- What a stream can refuse, and bytes it can bring that are no text where text is needed. -/
inductive Fault where
  | write
  | flush
  | read
  | encoding
  deriving DecidableEq, Repr

def Fault.message : Fault → String
  | .write => "write refused"
  | .flush => "flush refused"
  | .read => "read refused"
  | .encoding => "stream did not contain valid UTF-8"

/-! ### Output -/

structure Sink where
  /-- All bytes accepted so far. -/
  written : Text
  /-- How many requests have been made. -/
  requests : Nat
  /-- Whether a write is granted, by the number of the request, the count of bytes written
  before and the count of bytes to be written. -/
  grantsWrite : Nat → Nat → Nat → Bool
  /-- Whether a flush is granted, by the number of the request. -/
  grantsFlush : Nat → Bool

namespace Sink

/-- A sink that grants every request. -/
def reliable : Sink :=
  ⟨Text.empty, 0, fun _ _ _ => true, fun _ => true⟩

/-- A sink that takes so many bytes at most, and that may refuse to be flushed. -/
def limited (limit : Option Nat) (refusesFlush : Bool) : Sink :=
  ⟨Text.empty, 0, fun _ before count => limit.all fun most => before + count ≤ most,
    fun _ => !refusesFlush⟩

/-- Writes bytes, all of them or none. Nothing has to be asked for to write nothing. -/
def write (sink : Sink) (bytes : Bytes) : Except Fault Unit × Sink :=
  if bytes.isEmpty then (.ok (), sink)
  else
    let asked := { sink with requests := sink.requests + 1 }
    if sink.grantsWrite sink.requests sink.written.length bytes.length then
      (.ok (), { asked with written := asked.written ++ Text.ofBytes bytes })
    else
      (.error .write, asked)

/-- Writes pieces one after another, up to the first that is refused. -/
def writeAll (sink : Sink) : List Bytes → Except Fault Unit × Sink
  | [] => (.ok (), sink)
  | piece :: rest =>
    match sink.write piece with
    | (.ok (), after) => after.writeAll rest
    | (.error fault, after) => (.error fault, after)

def flush (sink : Sink) : Except Fault Unit × Sink :=
  (if sink.grantsFlush sink.requests then .ok () else .error .flush,
    { sink with requests := sink.requests + 1 })

end Sink

/-! ### Input -/

structure Source where
  /-- The bytes that are still to be read. -/
  remaining : Bytes
  /-- How many requests have been made. -/
  requests : Nat
  /-- Whether a request is refused, by its number and the bytes that remain. A refused request
  uses up the count of bytes that is given. -/
  refuses : Nat → Bytes → Option Nat

namespace Source

/-- A source that never refuses. -/
def reliable (bytes : Bytes) : Source :=
  ⟨bytes, 0, fun _ _ => none⟩

/-- A source that has to be read past its last byte to learn that no newline follows, and that
refuses that. -/
def endless (bytes : Bytes) : Source :=
  ⟨bytes, 0, fun _ remaining =>
    if remaining.contains Byte.newline then none else some remaining.length⟩

/-- Takes the next line, without the bytes that end it. At the end of the input there is none. -/
def readLine (source : Source) : Except Fault (Option Bytes) × Source :=
  let asked := { source with requests := source.requests + 1 }
  match source.refuses source.requests source.remaining with
  | some used => (.error .read, { asked with remaining := source.remaining.drop used })
  | none =>
    let line := source.remaining.takeWhile (· != Byte.newline)
    let rest := source.remaining.drop (line.length + 1)
    (.ok (if source.remaining.isEmpty then none else some (trimLineEnd line)),
      { asked with remaining := rest })

end Source

/-! ### The streams of a session -/

structure Streams where
  out : Sink
  err : Sink
  input : Source

namespace Streams

/-- Streams that refuse nothing, with the given bytes to read. -/
def reliable (input : Bytes) : Streams :=
  ⟨Sink.reliable, Sink.reliable, Source.reliable input⟩

end Streams

end Scriptling
