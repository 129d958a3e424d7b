/-
This file gives the operations of a session: running a source or a program,
evaluating an expression, and looking at what they left. Each run begins with a
fresh count of statements. However it ends, the frames of its calls are gone,
the output is flushed, and the message of a run that was cut short is written
after that.
-/

import Scriptling.Session.Evaluation
import Scriptling.Tree.Source

namespace Scriptling

/-- Why an operation gives no result. -/
inductive Failure where
  | unreadable (diagnostics : List Diagnostic)
  | aborted (abort : Abort)

/-- An operation on a session. -/
abbrev Operation := EStateM Failure Session

/-- The fuel of a run that is not given any: more than any run can use. -/
def ampleFuel : Nat := 4611686018427387904

namespace Run

/-- A run as an operation of its own. -/
def operation {Result : Type} (run : Run Result) : Operation Result := fun session =>
  match run session with
  | .ok result session => .ok result session
  | .error abort session => .error (.aborted abort) session

/-- What is done when a run has ended. -/
def finish (abort? : Option Abort) : Run Unit := do
  modify Session.atTop
  onWorld World.flush
  match abort?.bind Abort.diagnostic? with
  | some diagnostic => announce diagnostic
  | none => return

/-- A run with its end. -/
def finished {Result : Type} (run : Run Result) : Run Result := fun session =>
  match run session with
  | .ok result session => (do finish none; return result : Run Result) session
  | .error abort session => (do finish (some abort); throw abort : Run Result) session

/-- Registers functions in order. -/
def registerAll : List Function → Run Unit
  | [] => return
  | function :: rest => do
    register function
    registerAll rest

/-- What is done before a program is executed. The functions that it defines at its top level are
known from the start. -/
def prepare (program : Program) : Run Unit := do
  note (.running program.items.length)
  modify fun session => { session with steps := 0 }
  registerAll program.functions

/-- Runs a program. -/
def program (limits : Limits) (fuel : Nat) (program : Program) : Run Unit := do
  prepare program
  finished (executeAll limits fuel program.items)

/-- Evaluates an expression at the top level. -/
def expression (limits : Limits) (fuel : Nat) (value : Expr) : Run Value := do
  modify fun session => { session with steps := 0 }
  finished (evaluate limits fuel value)

/-- Writes messages to the diagnostic stream. -/
def announceAll : List Diagnostic → Run Unit
  | [] => return
  | diagnostic :: rest => do
    announce diagnostic
    announceAll rest

end Run

namespace Session

/-- Goes on with what was read, or reports why nothing could be read. -/
def readOrReport {Tree Result : Type} (read : Except (List Diagnostic) Tree)
    (run : Tree → Run Result) : Operation Result :=
  match read with
  | .ok tree => (run tree).operation
  | .error diagnostics => do
    (Run.announceAll diagnostics).operation
    throw (.unreadable diagnostics)

/-- Runs a source. -/
def run (limits : Limits) (source : Bytes) : Operation Unit :=
  readOrReport (Program.ofSource source) (Run.program limits ampleFuel)

/-- Runs a source, but leaves it to the caller to report that it cannot be read. -/
def runQuietly (limits : Limits) (source : Bytes) : Operation Unit :=
  match Program.ofSource source with
  | .ok program => (Run.program limits ampleFuel program).operation
  | .error diagnostics => throw (.unreadable diagnostics)

/-- Evaluates the expression that a source spells. -/
def evaluate (limits : Limits) (source : Bytes) : Operation Value :=
  readOrReport (Expr.ofSource source) (Run.expression limits ampleFuel)

/-- The value of a variable at the top level. -/
def global? (session : Session) (name : Name) : Option Value :=
  session.globals.find? name

/-- The value of a variable at the top level, and `None` when it is not bound. -/
def global (session : Session) (name : Name) : Value :=
  (session.global? name).getD .none

/-- Gives the host's data a place among the lists of a session. -/
def store (datum : Datum) : Operation Value :=
  modifyGet fun session =>
    let (value, heap) := session.world.heap.store datum
    (value, { session with world := { session.world with heap } })

/-- Appends the host's data to the list of a variable in place, and says whether there is one. -/
def append (name : Name) (datum : Datum) : Operation Bool := do
  match (← get).global name with
  | .list handle =>
    let element ← store datum
    modify fun session =>
      let heap := session.world.heap.append handle element
      { session with world := { session.world with heap } }
    return true
  | _ => return false

end Session

end Scriptling
