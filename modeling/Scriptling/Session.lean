/-
This file gives the state of a session. The top-level frame and the functions
last from run to run; above the top-level frame stand the frames of the calls in
progress, the innermost first. What a run does is an action on the session: it
ends with a value, or it is cut short and leaves the session as it is then.
-/

import Scriptling.Builtin.Call
import Scriptling.Event
import Scriptling.Frame
import Scriptling.Registry

namespace Scriptling

/-- What every run of a session is held to. -/
structure Limits where
  /-- How many calls of the program's functions may be in progress at once. -/
  callDepth : Nat
  /-- How many statements one run may begin. -/
  steps : Option Nat

/-- The limits of a session that was not given any. -/
def Limits.standard : Limits := ⟨200, none⟩

/-- Why a run is cut short. A run that is out of fuel would have gone on: it says nothing about
the program but that more fuel is needed. -/
inductive Abort where
  | stepLimit (limit : Nat) (span : Span)
  | refused (fault : Fault)
  | outOfFuel
  deriving DecidableEq

/-- The message for the user when a run is cut short by its limits. -/
def Abort.diagnostic? : Abort → Option Diagnostic
  | .stepLimit limit span => some ((Cause.stepLimit limit).placed span)
  | .refused _ | .outOfFuel => none

structure Session where
  globals : Frame
  locals : List Frame
  /-- How many calls are in progress. -/
  depth : Nat
  functions : Registry
  world : World
  log : Array Event
  /-- How many statements the run has begun, and one more if that one was one too many. With a
  budget below the largest number of 64 bits, the count stays a number of 64 bits. -/
  steps : Nat

namespace Session

/-- A session that has not run anything. -/
def start (streams : Streams) : Session :=
  ⟨Frame.empty, [], 0, Registry.empty, ⟨Heap.empty, streams⟩, #[], 0⟩

/-- The frames in which names are looked up. -/
def chain (session : Session) : List Frame :=
  session.locals ++ [session.globals]

/-- The value of a name, looked up from the innermost frame outwards. -/
def lookup (session : Session) (name : Name) : Option Value :=
  (Frame.lookup session.locals name).or (session.globals.find? name)

theorem lookup_eq (session : Session) (name : Name) :
    session.lookup name = Frame.lookup session.chain name := by
  simp [lookup, Frame.lookup, chain, List.findSome?_append]

/-- Binds a name in the innermost frame. -/
def define (session : Session) (name : Name) (value : Value) : Except Cause Session :=
  match session.locals with
  | [] => do
    return { session with globals := ← session.globals.define name value }
  | frame :: outer => do
    return { session with locals := (← frame.define name value) :: outer }

/-- The session with a fresh frame, which is the innermost one. -/
def enter (session : Session) : Session :=
  { session with locals := Frame.empty :: session.locals }

/-- The session with one more call in progress. -/
def deepen (session : Session) : Session :=
  { session with depth := session.depth + 1 }

/-- The session after the innermost call. -/
def leave (session : Session) : Session :=
  { session with locals := session.locals.tail, depth := session.depth - 1 }

/-- The session with no call in progress. -/
def atTop (session : Session) : Session :=
  { session with locals := [], depth := 0 }

/-- Forgets every variable and every function. -/
def reset (session : Session) : Session :=
  { session with globals := Frame.empty, functions := Registry.empty }

end Session

/-- A part of a run. -/
abbrev Run := EStateM Abort Session

namespace Run

/-- Work on the world as part of a run. -/
def onWorld {Result : Type} (action : WorldAction Result) : Run Result := fun session =>
  match action session.world with
  | .ok result world => .ok result { session with world }
  | .error fault world => .error (.refused fault) { session with world }

/-- Notes an event in the log. -/
def note (event : Event) : Run Unit :=
  modify fun session => { session with log := session.log.push event }

/-- Writes a message to the diagnostic stream. -/
def announce (diagnostic : Diagnostic) : Run Unit :=
  onWorld (World.complain diagnostic.pieces)

/-- Reports a fault of the program that does not end the run. -/
def report (diagnostic : Diagnostic) : Run Unit := do
  note (.reported diagnostic)
  announce diagnostic

/-- Binds a name in the innermost frame. A full frame is reported, and the run goes on. -/
def bind (name : Name) (value : Value) : Run Unit := do
  match (← get).define name value with
  | .ok session => set session
  | .error cause => report cause.unplaced

/-- Registers a function. One with the name of a builtin can never be called. -/
def register (function : Function) : Run Unit := do
  if (Builtin.ofName? function.name).isSome then
    note (.shadowed function.name)
  note (.registering function.name function.arity)
  modify fun session =>
    { session with functions := session.functions.register function }

/-- Counts a statement that begins. -/
def tick (limits : Limits) (span : Span) : Run Unit := do
  modify fun session => { session with steps := session.steps + 1 }
  match limits.steps with
  | none => return
  | some limit => if limit < (← get).steps then throw (.stepLimit limit span)

/-- The function that a call runs. A call that cannot go ahead is reported instead, before its
arguments are looked at. -/
def callee (limits : Limits) (span : Span) (name : Name) (given : Nat) :
    Run (Option Function) := do
  let session ← get
  match session.functions.lookup name with
  | none =>
    report ((Cause.undefinedName name).placed span)
    return none
  | some function =>
    if given ≠ function.arity then
      report ((Cause.wrongArity name function.arity given).placed span)
      return none
    else if limits.callDepth ≤ session.depth then
      report ((Cause.callTooDeep name limits.callDepth).placed span)
      return none
    else
      return some function

/-- Binds parameters to the values they are given. -/
def bindAll : List Name → List Value → Run Unit
  | name :: names, value :: values => do
    bind name value
    bindAll names values
  | _, _ => return

/-- Opens a frame for a call and binds the parameters there. If one of them cannot be bound and a
stream refuses the report of that, the frame stays open. -/
def openCall (parameters : List Name) (values : List Value) : Run Unit := do
  modify Session.enter
  bindAll parameters values
  modify Session.deepen

/-- Works inside the innermost call. However the work ends, the call is over afterwards. -/
def closing {Result : Type} (work : Run Result) : Run Result := fun session =>
  match work session with
  | .ok result session => .ok result session.leave
  | .error abort session => .error abort session.leave

/-- Works in a frame of its own, in which the parameters of a call are bound. -/
def inCall {Result : Type} (parameters : List Name) (values : List Value) (work : Run Result) :
    Run Result := do
  openCall parameters values
  closing work

end Run

end Scriptling
