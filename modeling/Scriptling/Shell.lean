/-
This file gathers lines into blocks. Lines that come in are kept until a blank
one runs them together as one source; a block that fails is gone, and the
session goes on with the next.
-/

import Scriptling.Session.Operations

namespace Scriptling

structure Shell where
  session : Session
  /-- The lines that wait to be run, the last first. -/
  pending : List Bytes

/-- What became of a line. -/
inductive LineOutcome where
  | buffered
  | empty
  | ran
  | failed
  | quit
  deriving DecidableEq, Repr

/-- An operation on a shell, which the streams of its session may refuse. -/
abbrev ShellAction := EStateM Abort Shell

namespace Shell

def start (session : Session) : Shell := ⟨session, []⟩

/-- What invites the next line: one sign for a new block and another for one that has begun. -/
def prompt (shell : Shell) : String :=
  if shell.pending.isEmpty then ">>> " else "... "

/-- The source that the waiting lines make up: each of them and a newline. -/
def source (shell : Shell) : Bytes :=
  shell.pending.reverse.flatMap fun line => line ++ [Byte.newline]

/-- What is written on a line of its own after a block that cannot be read. -/
def unreadableLine : String := "parse failed"

/-- Runs the lines that wait. -/
def runPending (limits : Limits) : ShellAction LineOutcome := fun shell =>
  if shell.pending.isEmpty then .ok .empty shell
  else
    match Session.run limits shell.source shell.session with
    | .ok () session => .ok .ran ⟨session, []⟩
    | .error (.unreadable _) session =>
      match Run.onWorld (World.complain [unreadableLine ++ "\n"]) session with
      | .ok () session => .ok .failed ⟨session, []⟩
      | .error abort session => .error abort ⟨session, []⟩
    | .error (.aborted (.stepLimit _ _)) session => .ok .failed ⟨session, []⟩
    | .error (.aborted abort) session => .error abort ⟨session, []⟩

/-- Whether a line asks to leave. -/
def asksToQuit (line : Bytes) : Bool :=
  line == ascii ":q" || line == ascii ":quit"

/-- Takes one line. -/
def feed (limits : Limits) (line : Bytes) : ShellAction LineOutcome :=
  let line := trimLineEnd line
  if asksToQuit line then return .quit
  else if line.isEmpty then runPending limits
  else do
    modify fun shell => { shell with pending := line :: shell.pending }
    return .buffered

end Shell

end Scriptling
