/-
This file follows a run on streams that refuse nothing. No action of such a run
fails, and whatever it does, what has been written stays and more is written
after it.
-/

import Scriptling.Proofs.Session.Actions
import Scriptling.Session.Operations

namespace Scriptling

/-! ### Streams that refuse nothing -/

structure Sink.Unfailing (sink : Sink) : Prop where
  write (requests before count : Nat) : sink.grantsWrite requests before count = true
  flush (requests : Nat) : sink.grantsFlush requests = true

/-- Neither output is ever refused, nor a line of the input. -/
structure Streams.Unfailing (streams : Streams) : Prop where
  out : streams.out.Unfailing
  err : streams.err.Unfailing
  input (requests : Nat) (remaining : Bytes) : streams.input.refuses requests remaining = none

theorem Streams.unfailing_reliable (input : Bytes) : (Streams.reliable input).Unfailing :=
  ⟨⟨fun _ _ _ => rfl, fun _ => rfl⟩, ⟨fun _ _ _ => rfl, fun _ => rfl⟩, fun _ _ => rfl⟩

/-- Streams that refuse nothing after others: to both outputs of those, something may have been
added. -/
structure Streams.Continues (earlier later : Streams) : Prop where
  unfailing : later.Unfailing
  out : earlier.out.written.bytes <+: later.out.written.bytes
  err : earlier.err.written.bytes <+: later.err.written.bytes

theorem Streams.continues_refl {streams : Streams} (unfailing : streams.Unfailing) :
    streams.Continues streams :=
  ⟨unfailing, List.prefix_rfl, List.prefix_rfl⟩

theorem Streams.Continues.trans {first second third : Streams} (head : first.Continues second)
    (tail : second.Continues third) : first.Continues third :=
  ⟨tail.unfailing, head.out.trans tail.out, head.err.trans tail.err⟩

namespace Sink

/-- A sink that refuses nothing has the bytes once they are written to it. -/
theorem write_eq_ok {sink : Sink} (unfailing : sink.Unfailing) (bytes : Bytes) :
    ∃ after, sink.write bytes = (.ok (), after) ∧ after.Unfailing ∧
      after.written.bytes = sink.written.bytes ++ bytes := by
  unfold write
  split
  next none =>
    rw [List.isEmpty_iff.mp none, List.append_nil]
    exact ⟨sink, rfl, unfailing, rfl⟩
  next =>
    dsimp only
    rw [if_pos (unfailing.write ..)]
    refine ⟨_, rfl, ⟨unfailing.write, unfailing.flush⟩, ?_⟩
    rw [Text.bytes_append, Text.bytes_ofBytes]

theorem writeAll_eq_ok {sink : Sink} (unfailing : sink.Unfailing) (pieces : List Bytes) :
    ∃ after, sink.writeAll pieces = (.ok (), after) ∧ after.Unfailing ∧
      after.written.bytes = sink.written.bytes ++ pieces.flatten := by
  induction pieces generalizing sink with
  | nil => exact ⟨sink, rfl, unfailing, (List.append_nil _).symm⟩
  | cons piece rest hypothesis =>
    obtain ⟨middle, granted, still, first⟩ := write_eq_ok unfailing piece
    obtain ⟨after, grantedRest, unfailingAfter, all⟩ := hypothesis still
    refine ⟨after, ?_, unfailingAfter, ?_⟩
    · unfold writeAll
      rw [granted]
      exact grantedRest
    · rw [all, first, List.flatten_cons, List.append_assoc]

theorem flush_eq_ok {sink : Sink} (unfailing : sink.Unfailing) :
    ∃ after, sink.flush = (.ok (), after) ∧ after.Unfailing ∧ after.written = sink.written := by
  unfold flush
  rw [if_pos (unfailing.flush _)]
  exact ⟨_, rfl, ⟨unfailing.write, unfailing.flush⟩, rfl⟩

end Sink

/-! ### Actions that go through -/

/-- An action goes through wherever the streams refuse nothing. It writes to them at most and
counts no statement, and what it gives satisfies a condition. -/
def Smooth {Result : Type} (condition : Result → Prop) (action : Run Result) : Prop :=
  ∀ session : Session, session.world.streams.Unfailing →
    Ends action session (fun result after =>
      session.world.streams.Continues after.world.streams ∧ after.steps = session.steps ∧
        condition result)
      fun _ _ => False

/-- The same of an action on the world. -/
def SmoothWorld {Result : Type} (action : WorldAction Result) : Prop :=
  ∀ world : World, world.streams.Unfailing →
    Ends action world (fun _ after => world.streams.Continues after.streams) fun _ _ => False

theorem smoothWorld_pure {Result : Type} (result : Result) :
    SmoothWorld (pure result : WorldAction Result) :=
  fun _ unfailing => Streams.continues_refl unfailing

theorem smoothWorld_bind {First Second : Type} {first : WorldAction First}
    {rest : First → WorldAction Second} (head : SmoothWorld first)
    (tail : ∀ value, SmoothWorld (rest value)) : SmoothWorld (first >>= rest) := by
  intro world unfailing
  rw [ends_bind]
  exact (head world unfailing).weaken
    (fun value middle before => (tail value middle before.unfailing).weaken
      (fun _ _ after => before.trans after) fun _ _ failed => failed)
    fun _ _ failed => failed

namespace World

theorem smooth_write (bytes : Bytes) : SmoothWorld (write bytes) := by
  intro world unfailing
  obtain ⟨out, granted, unfailingOut, written⟩ := Sink.write_eq_ok unfailing.out bytes
  unfold write onOutput Ends
  simp only [granted]
  refine ⟨⟨unfailingOut, unfailing.err, unfailing.input⟩, ?_, List.prefix_rfl⟩
  rw [written]
  exact List.prefix_append _ _

theorem smooth_flush : SmoothWorld flush := by
  intro world unfailing
  obtain ⟨out, granted, unfailingOut, written⟩ := Sink.flush_eq_ok unfailing.out
  unfold flush onOutput Ends
  simp only [granted]
  have same : out.written.bytes = world.streams.out.written.bytes := congrArg Text.bytes written
  exact ⟨⟨unfailingOut, unfailing.err, unfailing.input⟩, same ▸ List.prefix_rfl, List.prefix_rfl⟩

theorem smooth_complain (pieces : List String) : SmoothWorld (complain pieces) := by
  intro world unfailing
  obtain ⟨err, granted, unfailingErr, written⟩ :=
    Sink.writeAll_eq_ok unfailing.err (pieces.map encode)
  unfold complain Ends
  simp only [granted]
  refine ⟨⟨unfailing.out, unfailingErr, unfailing.input⟩, List.prefix_rfl, ?_⟩
  rw [written]
  exact List.prefix_append _ _

theorem smooth_readLine : SmoothWorld readLine := by
  intro world unfailing
  unfold readLine Source.readLine Ends
  simp only [unfailing.input]
  exact ⟨⟨unfailing.out, unfailing.err, unfailing.input⟩, List.prefix_rfl, List.prefix_rfl⟩

theorem smooth_settle (answer : Answer) : SmoothWorld (settle answer) :=
  fun _ unfailing => Streams.continues_refl unfailing

end World

/-- A builtin only fails when a stream refuses it something. -/
theorem Builtin.smooth_call (builtin : Builtin) (arguments : List Value) :
    SmoothWorld (builtin.call arguments) := by
  have asks (builtin : Builtin) : SmoothWorld (do
      World.settle (builtin.answer (← get).heap arguments) : WorldAction Value) :=
    fun _ unfailing => Streams.continues_refl unfailing
  have prints : SmoothWorld (Builtin.printCall arguments) := fun world unfailing =>
    smoothWorld_bind (World.smooth_write (Builtin.printedLine world.heap arguments))
      (fun _ => smoothWorld_pure Value.none) world unfailing
  have prompts : SmoothWorld (Builtin.prompt arguments) := by
    unfold Builtin.prompt
    split
    next => exact World.smooth_write _
    next => exact smoothWorld_bind (World.smooth_write _) fun _ => World.smooth_write _
    next => exact smoothWorld_pure ()
  cases builtin with
  | print => exact prints
  | input =>
    exact smoothWorld_bind prompts fun _ => smoothWorld_bind World.smooth_flush fun _ =>
      smoothWorld_bind World.smooth_readLine fun _ => smoothWorld_pure _
  | _ => exact asks _

section

variable {First Second : Type}

theorem smooth_pure {condition : First → Prop} {value : First} (holds : condition value) :
    Smooth condition (pure value) :=
  fun _ unfailing => ⟨Streams.continues_refl unfailing, rfl, holds⟩

theorem smooth_bind {condition : First → Prop} {goal : Second → Prop} {first : Run First}
    {rest : First → Run Second} (head : Smooth condition first)
    (tail : ∀ value, condition value → Smooth goal (rest value)) :
    Smooth goal (first >>= rest) := by
  intro session unfailing
  rw [ends_bind]
  refine (head session unfailing).weaken ?_ fun _ _ failed => failed
  rintro value middle ⟨before, counted, holds⟩
  refine (tail value holds middle before.unfailing).weaken ?_ fun _ _ failed => failed
  rintro result after ⟨later, same, last⟩
  exact ⟨before.trans later, same.trans counted, last⟩

theorem smooth_then {goal : Second → Prop} {first : Run First} {rest : First → Run Second}
    (head : Smooth (fun _ => True) first) (tail : ∀ value, Smooth goal (rest value)) :
    Smooth goal (first >>= rest) :=
  smooth_bind head fun value _ => tail value

end

namespace Run

theorem smooth_onWorld {Result : Type} {action : WorldAction Result}
    (smooth : SmoothWorld action) : Smooth (fun _ => True) (onWorld action) := by
  intro session unfailing
  rw [ends_onWorld]
  exact (smooth session.world unfailing).weaken (fun _ _ later => ⟨later, rfl, trivial⟩)
    fun _ _ failed => failed

theorem smooth_ask {Result : Type} (question : Session → Result) :
    Smooth (fun _ => True) (do return question (← get) : Run Result) :=
  fun _ unfailing => ⟨Streams.continues_refl unfailing, rfl, trivial⟩

theorem smooth_note (event : Event) : Smooth (fun _ => True) (note event) :=
  fun _ unfailing => ⟨Streams.continues_refl unfailing, rfl, trivial⟩

theorem smooth_report (diagnostic : Diagnostic) : Smooth (fun _ => True) (report diagnostic) :=
  smooth_then (smooth_note _) fun _ => smooth_onWorld (World.smooth_complain _)

theorem smooth_bindName (name : Name) (value : Value) :
    Smooth (fun _ => True) (bind name value) := by
  intro session unfailing
  rw [ends_bindName]
  cases defined : session.define name value with
  | ok after =>
    obtain ⟨-, world, steps⟩ := Session.eq_of_define defined
    refine ⟨?_, steps, trivial⟩
    rw [world]
    exact Streams.continues_refl unfailing
  | error cause => exact smooth_report _ session unfailing

theorem smooth_bindAll (names : List Name) (values : List Value) :
    Smooth (fun _ => True) (bindAll names values) := by
  induction names generalizing values with
  | nil => exact smooth_pure trivial
  | cons name names hypothesis =>
    cases values with
    | nil => exact smooth_pure trivial
    | cons value values =>
      exact smooth_then (smooth_bindName name value) fun _ => hypothesis values

theorem smooth_openCall (parameters : List Name) (values : List Value) :
    Smooth (fun _ => True) (openCall parameters values) := by
  have opening : Smooth (fun _ => True) (do
      bindAll parameters values
      modify Session.deepen : Run Unit) :=
    smooth_then (smooth_bindAll parameters values) fun _ _ unfailing =>
      ⟨Streams.continues_refl unfailing, rfl, trivial⟩
  exact fun session unfailing => opening session.enter unfailing

theorem smooth_register (function : Function) : Smooth (fun _ => True) (register function) := by
  have last : Smooth (fun _ => True) (do
      note (.registering function.name function.arity)
      modify fun session =>
        { session with functions := session.functions.register function }) :=
    smooth_then (smooth_note _) fun _ _ unfailing =>
      ⟨Streams.continues_refl unfailing, rfl, trivial⟩
  unfold register
  dsimp only
  split
  next => exact smooth_then (smooth_note _) fun _ => last
  next => exact last

theorem smooth_registerAll (functions : List Function) :
    Smooth (fun _ => True) (registerAll functions) := by
  induction functions with
  | nil => exact smooth_pure trivial
  | cons function rest hypothesis =>
    exact smooth_then (smooth_register function) fun _ => hypothesis

theorem smooth_announceAll (diagnostics : List Diagnostic) :
    Smooth (fun _ => True) (announceAll diagnostics) := by
  induction diagnostics with
  | nil => exact smooth_pure trivial
  | cons diagnostic rest hypothesis =>
    exact smooth_then (smooth_onWorld (World.smooth_complain _)) fun _ => hypothesis

theorem smooth_callee (limits : Limits) (span : Span) (name : Name) (given : Nat) :
    Smooth (fun _ => True) (callee limits span name given) := by
  intro session unfailing
  have refusal (diagnostic : Diagnostic) : Smooth (fun _ : Option Function => True) (do
      report diagnostic
      return none) :=
    smooth_then (smooth_report diagnostic) fun _ => smooth_pure trivial
  unfold callee
  rw [ends_bind, ends_get]
  cases session.functions.lookup name with
  | none => exact refusal _ session unfailing
  | some function =>
    dsimp only
    split
    next => exact refusal _ session unfailing
    next =>
      split
      next => exact refusal _ session unfailing
      next => exact smooth_pure trivial session unfailing

/-- The end of a run writes nothing but the message of what cut it short, in a line of its own. -/
theorem ends_finish (abort? : Option Abort) {session : Session}
    (unfailing : session.world.streams.Unfailing) :
    Ends (finish abort?) session (fun _ after =>
      after.world.streams.out.written = session.world.streams.out.written ∧
      after.world.streams.err.written.bytes = session.world.streams.err.written.bytes ++
        ((abort?.bind Abort.diagnostic?).elim [] fun diagnostic =>
          encode diagnostic.render ++ [Byte.newline]))
      fun _ _ => False := by
  obtain ⟨out, flushed, unfailingOut, same⟩ := Sink.flush_eq_ok unfailing.out
  unfold finish
  rw [ends_bind, ends_modify, ends_bind, ends_onWorld]
  unfold World.flush World.onOutput Ends
  simp only [Session.atTop, flushed]
  cases abort?.bind Abort.diagnostic? with
  | none =>
    refine ⟨same, ?_⟩
    rw [Option.elim_none, List.append_nil]
  | some diagnostic =>
    obtain ⟨err, written, -, message⟩ :=
      Sink.writeAll_eq_ok unfailing.err (diagnostic.pieces.map encode)
    rw [← List.flatMap_def, diagnostic.flatMap_pieces] at message
    unfold announce onWorld World.complain
    simp only [written]
    exact ⟨same, message⟩

end Run

end Scriptling
