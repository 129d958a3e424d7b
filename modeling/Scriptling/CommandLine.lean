/-
This file runs a command. A script or a snippet is run as one source, with the
standard input for its own use; the shell takes its lines from there, and runs
what waits when they end. What a command gives is its exit code and what it
wrote to the two outputs.
-/

import Scriptling.CommandLine.Arguments
import Scriptling.CommandLine.Folder
import Scriptling.CommandLine.Typed
import Scriptling.Shell

namespace Scriptling

/-- What a command leaves behind. -/
structure Exit where
  code : Nat
  out : Bytes
  err : Bytes

namespace CommandLine

/-- What is said when the arguments do not fit together. -/
def usage : String :=
  "usage: [--max-depth N] [--step-limit N] [run <file> | eval <source> | repl]"

/-- The line with which the shell begins. -/
def banner : String :=
  "MiniPy REPL (blank line runs the block, :q quits)"

/-- The end of a command that has run a session. -/
def exit (code : Nat) (session : Session) (lastLine : Option String) : Exit :=
  let last := (lastLine.map fun line => encode line ++ [Byte.newline]).getD []
  ⟨code, session.world.streams.out.written.bytes,
    session.world.streams.err.written.bytes ++ last⟩

/-- The line on a command that a stream or a file refused. -/
def refusal (reason : String) : String :=
  "error: I/O error: " ++ reason

/-- The end of a command whose run was cut short. Its message is written already. -/
def abortedExit (abort : Abort) (session : Session) : Exit :=
  match abort with
  | .stepLimit _ _ | .outOfFuel => exit 1 session none
  | .refused fault => exit 1 session (some (refusal fault.message))

/-- Runs one source. -/
def runSource (limits : Limits) (source : Bytes) (input : Bytes) : Exit :=
  match Session.run limits source (Session.start (Streams.reliable input)) with
  | .ok () session => exit 0 session none
  | .error (.unreadable _) session => exit 1 session (some Shell.unreadableLine)
  | .error (.aborted abort) session => abortedExit abort session

/-- Runs a script that has been looked for. -/
def runScript (limits : Limits) (path : String) (read : Except FileError Bytes) (input : Bytes) :
    Exit :=
  match read with
  | .ok source => runSource limits source input
  | .error error =>
    exit 1 (Session.start (Streams.reliable input))
      (some (refusal ("cannot read " ++ path ++ ": " ++ error.message)))

/-- The lines of a text. The last one may lack its newline. -/
def lines (text : Bytes) : List Bytes :=
  (text.splitBy fun byte _ => byte != Byte.newline)

/-- Feeds lines to the shell as they were typed, until one quits or none is left. -/
def feedAll (limits : Limits) : List Bytes → ShellAction Unit
  | [] => discard (Shell.runPending limits)
  | line :: rest =>
    match Typed.line? line with
    | none => throw (.refused .encoding)
    | some typed => do
      match ← Shell.feed limits typed with
      | .quit => return
      | _ => feedAll limits rest

/-- Runs the shell on the lines of its input. -/
def runShell (limits : Limits) (input : Bytes) : Exit :=
  let shell := Shell.start (Session.start (Streams.reliable []))
  let withBanner (exit : Exit) : Exit :=
    { exit with out := encode banner ++ [Byte.newline] ++ exit.out }
  match feedAll limits (lines input) shell with
  | .ok () shell => withBanner (exit 0 shell.session none)
  | .error abort shell => withBanner (abortedExit abort shell.session)

/-- Runs a command that has been understood. `readFile` looks for a script. -/
def runInvocation (invocation : Invocation) (readFile : String → Except FileError Bytes)
    (input : Bytes) : Exit :=
  match invocation.command with
  | .script path => runScript invocation.limits path (readFile path) input
  | .snippet source => runSource invocation.limits (encode source) input
  | .shell => runShell invocation.limits input

/-- Runs the command that the arguments ask for. -/
def run (arguments : List String) (readFile : String → Except FileError Bytes) (input : Bytes) :
    Exit :=
  match invocation? arguments with
  | some invocation => runInvocation invocation readFile input
  | none => ⟨2, [], encode usage ++ [Byte.newline]⟩

end CommandLine

end Scriptling
