/-
This file follows a run through the actions on its session that it is made of.
-/

import Scriptling.Proofs.Steps
import Scriptling.Session.Operations

namespace Scriptling

namespace Session

/-- A name is bound in the innermost frame, which is the top-level one if no call is open. -/
theorem define_eq_ok {session after : Session} {name : Name} {value : Value}
    (defined : session.define name value = .ok after) :
    (∃ globals, session.locals = [] ∧ session.globals.define name value = .ok globals ∧
      after = { session with globals }) ∨
    ∃ frame inner outer, session.locals = frame :: outer ∧ frame.define name value = .ok inner ∧
      after = { session with locals := inner :: outer } := by
  unfold define at defined
  split at defined
  next top =>
    cases bound : session.globals.define name value with
    | ok globals =>
      rw [bound] at defined
      cases defined
      exact .inl ⟨globals, top, rfl, rfl⟩
    | error cause =>
      rw [bound] at defined
      cases defined
  next frame outer inCall =>
    cases bound : frame.define name value with
    | ok inner =>
      rw [bound] at defined
      cases defined
      exact .inr ⟨frame, inner, outer, inCall, bound, rfl⟩
    | error cause =>
      rw [bound] at defined
      cases defined

theorem eq_of_define {session after : Session} {name : Name} {value : Value}
    (defined : session.define name value = .ok after) :
    after.functions = session.functions ∧ after.world = session.world ∧
      after.steps = session.steps := by
  obtain ⟨_, -, -, rfl⟩ | ⟨_, _, _, -, -, rfl⟩ := define_eq_ok defined
  · exact ⟨rfl, rfl, rfl⟩
  · exact ⟨rfl, rfl, rfl⟩

/-- No call begins or ends when a name is bound. -/
theorem calls_of_define {session after : Session} {name : Name} {value : Value}
    (defined : session.define name value = .ok after) :
    after.depth = session.depth ∧ after.locals.length = session.locals.length := by
  obtain ⟨_, -, -, rfl⟩ | ⟨_, _, _, inCall, -, rfl⟩ := define_eq_ok defined
  · exact ⟨rfl, rfl⟩
  · rw [inCall]
    exact ⟨rfl, rfl⟩

end Session

/-! ### Work that only talks -/

namespace World

/-- Some work on the world changes nothing but the streams, however it ends. -/
def Talks {Result : Type} (action : WorldAction Result) : Prop :=
  ∀ world : World, Ends action world (fun _ after => ∃ streams, after = { world with streams })
    fun _ after => ∃ streams, after = { world with streams }

theorem talks_pure {Result : Type} (result : Result) : Talks (pure result : WorldAction Result) :=
  fun world => ⟨world.streams, rfl⟩

theorem talks_bind {First Second : Type} {first : WorldAction First}
    {rest : First → WorldAction Second} (head : Talks first)
    (tail : ∀ value, Talks (rest value)) : Talks (first >>= rest) := by
  intro world
  rw [ends_bind]
  refine (head world).weaken ?_ fun _ _ talked => talked
  rintro value _ ⟨streams, rfl⟩
  exact tail value { world with streams }

theorem talks_onOutput (request : Sink → Except Fault Unit × Sink) : Talks (onOutput request) := by
  intro world
  unfold onOutput Ends
  dsimp only
  cases (request world.streams.out).1 with
  | ok granted => exact ⟨_, rfl⟩
  | error fault => exact ⟨_, rfl⟩

theorem talks_complain (pieces : List String) : Talks (complain pieces) := by
  intro world
  unfold complain Ends
  dsimp only
  cases (world.streams.err.writeAll (pieces.map encode)).1 with
  | ok granted => exact ⟨_, rfl⟩
  | error fault => exact ⟨_, rfl⟩

theorem talks_readLine : Talks readLine := by
  intro world
  unfold readLine Ends
  dsimp only
  cases world.streams.input.readLine.1 with
  | ok line => exact ⟨_, rfl⟩
  | error fault => exact ⟨_, rfl⟩

end World

/-! ### Actions of a run -/

namespace Run

variable {Result : Type} {session : Session} {failed : Abort → Session → Prop}

theorem ends_onWorld {action : WorldAction Result} {given : Result → Session → Prop} :
    Ends (onWorld action) session given failed ↔
      Ends action session.world (fun result world => given result { session with world })
        fun fault world => failed (.refused fault) { session with world } := by
  unfold onWorld Ends
  dsimp only
  cases action session.world with
  | ok result world => exact Iff.rfl
  | error fault world => exact Iff.rfl

theorem ends_bindName {name : Name} {value : Value} {given : Unit → Session → Prop} :
    Ends (bind name value) session given failed ↔
      match session.define name value with
      | .ok after => given () after
      | .error cause => Ends (report cause.unplaced) session given failed := by
  unfold bind
  rw [ends_bind, ends_get]
  cases session.define name value with
  | ok after => exact Iff.rfl
  | error cause => exact Iff.rfl

theorem bind_eq_ok_of_define {after : Session} {name : Name} {value : Value}
    (defined : session.define name value = .ok after) : bind name value session = .ok () after := by
  have looked : (get : Run Session) session = .ok session session := rfl
  unfold bind
  rw [bind_of_ok looked, defined]
  rfl

theorem bind_eq_report_of_define {name : Name} {value : Value} {cause : Cause}
    (refused : session.define name value = .error cause) :
    bind name value session = report cause.unplaced session := by
  have looked : (get : Run Session) session = .ok session session := rfl
  unfold bind
  rw [bind_of_ok looked, refused]

/-- A call goes ahead only for a registered function that takes as many arguments as are given, and
only as long as there may be one more call. Nothing is changed by looking it up. -/
theorem callee_eq_some {limits : Limits} {span : Span} {name : Name} {given : Nat}
    {function : Function} {after : Session}
    (found : callee limits span name given session = .ok (some function) after) :
    session.functions.lookup name = some function ∧ given = function.arity ∧
      session.depth < limits.callDepth ∧ after = session := by
  have refused (diagnostic : Diagnostic) :
      (do report diagnostic; return none : Run (Option Function)) session ≠
        .ok (some function) after := by
    intro same
    obtain ⟨_, _, -, last⟩ := bind_eq_ok.mp same
    cases last
  have looked : (get : Run Session) session = .ok session session := rfl
  unfold callee at found
  rw [bind_of_ok looked] at found
  cases known : session.functions.lookup name with
  | none =>
    rw [known] at found
    exact absurd found (refused _)
  | some other =>
    rw [known] at found
    dsimp only at found
    split at found
    next => exact absurd found (refused _)
    next fits =>
      split at found
      next => exact absurd found (refused _)
      next room =>
        cases found
        exact ⟨rfl, Decidable.not_not.mp fits, Nat.lt_of_not_le room, rfl⟩

/-- A statement is counted and let through if there is budget left. -/
theorem tick_eq_ok {limits : Limits} {span : Span}
    (left : ∀ most ∈ limits.steps, session.steps < most) :
    tick limits span session = .ok () { session with steps := session.steps + 1 } := by
  obtain ⟨depth, steps⟩ := limits
  cases steps with
  | none => rfl
  | some most =>
    show (if most < session.steps + 1 then throw (.stepLimit most span) else pure () : Run Unit)
      _ = _
    rw [if_neg (Nat.not_lt.mpr (left most rfl))]
    rfl

/-- A statement is counted and held up if the budget is used up. -/
theorem tick_eq_error {limits : Limits} {span : Span} {most : Nat}
    (limited : limits.steps = some most) (spent : most ≤ session.steps) :
    tick limits span session =
      .error (.stepLimit most span) { session with steps := session.steps + 1 } := by
  obtain ⟨depth, steps⟩ := limits
  cases limited
  show (if most < session.steps + 1 then throw (.stepLimit most span) else pure () : Run Unit)
    _ = _
  rw [if_pos (Nat.lt_succ_of_le spent)]
  rfl

/-- A statement is counted, and then it goes on or is held up by the budget. -/
theorem ends_tick {limits : Limits} {span : Span} {given : Unit → Session → Prop}
    (through : given () { session with steps := session.steps + 1 })
    (cut : ∀ limit, failed (.stepLimit limit span) { session with steps := session.steps + 1 }) :
    Ends (tick limits span) session given failed := by
  unfold tick
  rw [ends_bind, ends_modify]
  cases limits.steps with
  | none => exact through
  | some limit =>
    dsimp only
    rw [ends_bind, ends_get]
    split
    next => exact cut limit
    next => exact through

theorem ends_closing {work : Run Result} {given : Result → Session → Prop} :
    Ends (closing work) session given failed ↔
      Ends work session (fun result after => given result after.leave)
        fun abort after => failed abort after.leave := by
  unfold closing Ends
  dsimp only
  cases work session with
  | ok result after => exact Iff.rfl
  | error abort after => exact Iff.rfl

/-- A run with its end, followed through both. -/
theorem ends_finished {run : Run Result} {given : Result → Session → Prop} :
    Ends (finished run) session given failed ↔
      Ends run session
        (fun result after => Ends (finish none) after (fun _ last => given result last) failed)
        fun abort after => Ends (finish (some abort)) after (fun _ last => failed abort last)
          failed := by
  unfold finished Ends
  dsimp only
  cases run session with
  | ok result after => exact ends_bind
  | error abort after => exact ends_bind

/-- Runs that end alike have the same end. -/
theorem finished_congr {first second : Run Result} {start other : Session}
    (same : first start = second other) : finished first start = finished second other := by
  unfold finished
  rw [same]

/-! ### Programs -/

/-- To register a function always goes through, and only the log tells of it besides. -/
theorem register_eq_ok (function : Function) (session : Session) :
    ∃ log, register function session =
      .ok () { session with log, functions := session.functions.register function } := by
  unfold register
  dsimp only
  split
  next => exact ⟨_, rfl⟩
  next => exact ⟨_, rfl⟩

theorem registerAll_eq_ok (functions : List Function) (session : Session) :
    ∃ log, registerAll functions session = .ok ()
      { session with log, functions := functions.foldl Registry.register session.functions } := by
  induction functions generalizing session with
  | nil => exact ⟨session.log, rfl⟩
  | cons function rest hypothesis =>
    obtain ⟨log, first⟩ := register_eq_ok function session
    obtain ⟨last, others⟩ := hypothesis
      { session with log, functions := session.functions.register function }
    exact ⟨last, (bind_of_ok first).trans others⟩

/-- A session is prepared for a program by its functions, in order, and a fresh count. -/
theorem stateAfter_prepare (program : Program) (session : Session) :
    ∃ log, prepare program session = .ok () (stateAfter (prepare program) session) ∧
      stateAfter (prepare program) session =
        { session with
          log
          steps := 0
          functions := program.functions.foldl Registry.register session.functions } := by
  obtain ⟨log, registered⟩ := registerAll_eq_ok program.functions
    { session with log := session.log.push (.running program.items.length), steps := 0 }
  have through : prepare program session = .ok () _ := registered
  rw [stateAfter_of_ok through]
  exact ⟨log, through, rfl⟩

/-- What is done before a program is executed always goes through. -/
theorem prepare_eq_ok (program : Program) (session : Session) :
    prepare program session = .ok () (stateAfter (prepare program) session) := by
  obtain ⟨_, through, -⟩ := stateAfter_prepare program session
  exact through

/-- A program is executed in the session that has been prepared for it. -/
theorem program_eq_finished (limits : Limits) (fuel : Nat) (program : Program)
    (session : Session) :
    Run.program limits fuel program session =
      finished (executeAll limits fuel program.items) (stateAfter (prepare program) session) :=
  bind_of_ok (prepare_eq_ok program session)

end Run

end Scriptling
