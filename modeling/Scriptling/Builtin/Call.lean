/-
This file calls builtins. Two of them talk to the streams of the session and can
be refused there; all others only look at their arguments and at the heap. None
of them refuses a call for its arguments.
-/

import Scriptling.Builtin
import Scriptling.Builtin.Lists
import Scriptling.Builtin.Numbers
import Scriptling.Builtin.Strings
import Scriptling.Heap.Show
import Scriptling.Stream

namespace Scriptling

/-- What a builtin can reach: the lists, and the streams of the session. -/
structure World where
  heap : Heap
  streams : Streams

/-- Work on the world, which a stream may refuse. What was done before the refusal stays. -/
abbrev WorldAction := EStateM Fault World

namespace World

/-- A request to the output. -/
def onOutput (request : Sink → Except Fault Unit × Sink) : WorldAction Unit := fun world =>
  let (granted, out) := request world.streams.out
  let world := { world with streams := { world.streams with out } }
  match granted with
  | .ok () => .ok () world
  | .error fault => .error fault world

def write (bytes : Bytes) : WorldAction Unit :=
  onOutput fun sink => sink.write bytes

def flush : WorldAction Unit :=
  onOutput Sink.flush

/-- Writes pieces of text to the diagnostic stream, a request for each of them. -/
def complain (pieces : List String) : WorldAction Unit := fun world =>
  let (granted, err) := world.streams.err.writeAll (pieces.map encode)
  let world := { world with streams := { world.streams with err } }
  match granted with
  | .ok () => .ok () world
  | .error fault => .error fault world

def readLine : WorldAction (Option Bytes) := fun world =>
  let (read, input) := world.streams.input.readLine
  let world := { world with streams := { world.streams with input } }
  match read with
  | .ok line => .ok line world
  | .error fault => .error fault world

def settle (answer : Answer) : WorldAction Value := fun world =>
  let (value, heap) := answer.settle world.heap
  .ok value { world with heap }

end World

namespace Builtin

/-- The line that `print` writes: the arguments with spaces between them. -/
def printedLine (heap : Heap) (arguments : List Value) : Bytes :=
  [Byte.space].intercalate (arguments.map heap.render) ++ [Byte.newline]

def printCall (arguments : List Value) : WorldAction Value := do
  World.write (printedLine (← get).heap arguments)
  return .none

/-- Shows a prompt. The sign of a number and its digits are written one after the other. -/
def prompt : List Value → WorldAction Unit
  | .str text :: _ => World.write text.bytes
  | .int number :: _ => do
    World.write (Decimal.sign number.toInt)
    World.write (Decimal.digits number.toInt.natAbs)
  | _ => return

/-- Shows a prompt and reads a line, which is empty at the end of the input. -/
def inputCall (arguments : List Value) : WorldAction Value := do
  prompt arguments
  World.flush
  let line ← World.readLine
  return .str (Text.ofBytes (line.getD []))

/-- The answer of a builtin that does not talk to the streams. -/
def answer (heap : Heap) (builtin : Builtin) (arguments : List Value) : Answer :=
  match builtin with
  | .print | .input => .nothing
  | .len => lenOf heap arguments
  | .str => strOf arguments
  | .int => intOf arguments
  | .abs => absOf arguments
  | .max => maxOf arguments
  | .min => minOf arguments
  | .range => rangeOf arguments
  | .type => typeOf arguments
  | .pow => powOf arguments
  | .sum => sumOf heap arguments
  | .join => joinOf heap arguments
  | .split => splitOf arguments
  | .substr => substrOf arguments
  | .find => findOf arguments
  | .startswith => startswithOf arguments
  | .endswith => endswithOf arguments
  | .tolower => tolowerOf arguments
  | .toupper => toupperOf arguments
  | .ord => ordOf arguments
  | .chr => chrOf arguments
  | .slice => sliceOf heap arguments
  | .push => pushOf heap arguments
  | .concat => concatOf heap arguments

/-- Calls a builtin. -/
def call (builtin : Builtin) (arguments : List Value) : WorldAction Value :=
  match builtin with
  | .print => printCall arguments
  | .input => inputCall arguments
  | other => do
    World.settle (other.answer (← get).heap arguments)

end Builtin

end Scriptling
