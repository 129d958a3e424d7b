/-
This file runs the command line on the actual machine: it looks for the script,
reads the standard input, and writes what the command gives.
-/

import Scriptling.CommandLine

namespace Scriptling

/-- The bytes of a file of the machine. -/
def readFile (path : String) : IO (Except FileError Bytes) := do
  try
    return .ok (← IO.FS.readBinFile path).data.toList
  catch error =>
    match error with
    | .noFileOrDirectory .. => return .error .missing
    | .inappropriateType _ code _ =>
      return .error (if code = 20 then .notDirectory else .isDirectory)
    | other => return .error (.other (toString other))

/-- All of the standard input. -/
partial def readInput (stream : IO.FS.Stream) (done : ByteArray) : IO Bytes := do
  let block ← stream.read 65536
  if block.isEmpty then return done.data.toList
  readInput stream (done ++ block)

end Scriptling

def main (arguments : List String) : IO UInt32 := do
  let script ← match Scriptling.CommandLine.invocation? arguments with
    | some ⟨_, .script path⟩ => Scriptling.readFile path
    | _ => pure (.error .missing)
  let input ← Scriptling.readInput (← IO.getStdin) ByteArray.empty
  let exit := Scriptling.CommandLine.run arguments (fun _ => script) input
  (← IO.getStdout).write exit.out.toByteArray
  (← IO.getStderr).write exit.err.toByteArray
  return exit.code.toUInt32
