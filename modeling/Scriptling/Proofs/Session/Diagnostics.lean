/-
This file proves that no run looks at what has been written to the diagnostic
stream. Two sessions that differ in nothing but that stream go through the same
run: it ends in the same way, and they differ in nothing else afterwards. To both
streams the same has been added.

All this is said of streams that refuse nothing. A sink decides on each request
by what was written to it before, and so one that may refuse can tell the two
apart.
-/

import Scriptling.Proofs.Session.Histories
import Scriptling.Proofs.Session.Unfailing

namespace Scriptling

/-! ### Work on the world -/

namespace World

def withDiagnostics (world : World) (err : Sink) : World :=
  { world with streams := { world.streams with err } }

/-- No stream refuses anything, and neither does another sink for diagnostics. After a beginning
that each of the two has, the same has been written to them. -/
structure Mirrored (own other : Bytes) (world : World) (err : Sink) : Prop where
  streams : world.streams.Unfailing
  twin : err.Unfailing
  written : ∃ added, world.streams.err.written.bytes = own ++ added ∧
    err.written.bytes = other ++ added

/-- Work goes through, and does the same with another sink for diagnostics. -/
def Indifferent {Result : Type} (own other : Bytes) (action : WorldAction Result) : Prop :=
  ∀ world err, Mirrored own other world err →
    Ends action world
      (fun result after => ∃ later,
        action (world.withDiagnostics err) = .ok result (after.withDiagnostics later) ∧
          Mirrored own other after later)
      fun _ _ => False

section

variable {own other : Bytes} {First Second : Type}

theorem indifferent_pure (result : First) :
    Indifferent own other (pure result : WorldAction First) :=
  fun _ err mirrored => ⟨err, rfl, mirrored⟩

theorem indifferent_bind {first : WorldAction First} {rest : First → WorldAction Second}
    (head : Indifferent own other first) (tail : ∀ value, Indifferent own other (rest value)) :
    Indifferent own other (first >>= rest) := by
  intro world err mirrored
  rw [ends_bind]
  refine (head world err mirrored).weaken ?_ fun _ _ failed => failed
  rintro value middle ⟨later, same, between⟩
  rw [bind_of_ok same]
  exact tail value middle later between

theorem indifferent_onOutput {request : Sink → Except Fault Unit × Sink}
    (grants : ∀ sink : Sink, sink.Unfailing → ∃ after, request sink = (.ok (), after) ∧
      after.Unfailing) : Indifferent own other (onOutput request) := by
  intro world err mirrored
  obtain ⟨out, granted, unfailing⟩ := grants world.streams.out mirrored.streams.out
  unfold onOutput withDiagnostics Ends
  simp only [granted]
  exact ⟨err, rfl, ⟨⟨unfailing, mirrored.streams.err, mirrored.streams.input⟩, mirrored.twin,
    mirrored.written⟩⟩

theorem indifferent_write (bytes : Bytes) : Indifferent own other (write bytes) := by
  refine indifferent_onOutput fun sink unfailing => ?_
  obtain ⟨after, granted, still, -⟩ := Sink.write_eq_ok unfailing bytes
  exact ⟨after, granted, still⟩

theorem indifferent_flush : Indifferent own other flush := by
  refine indifferent_onOutput fun sink unfailing => ?_
  obtain ⟨after, granted, still, -⟩ := Sink.flush_eq_ok unfailing
  exact ⟨after, granted, still⟩

/-- Pieces of text go to whichever sink there is. -/
theorem indifferent_complain (pieces : List String) :
    Indifferent own other (complain pieces) := by
  intro world err mirrored
  obtain ⟨added, here, there⟩ := mirrored.written
  obtain ⟨first, firstGranted, firstStill, firstWritten⟩ :=
    Sink.writeAll_eq_ok mirrored.streams.err (pieces.map encode)
  obtain ⟨second, secondGranted, secondStill, secondWritten⟩ :=
    Sink.writeAll_eq_ok mirrored.twin (pieces.map encode)
  unfold complain withDiagnostics Ends
  simp only [firstGranted, secondGranted]
  refine ⟨second, rfl, ⟨mirrored.streams.out, firstStill, mirrored.streams.input⟩, secondStill,
    added ++ (pieces.map encode).flatten, ?_, ?_⟩
  · rw [firstWritten, here, List.append_assoc]
  · rw [secondWritten, there, List.append_assoc]

theorem indifferent_readLine : Indifferent own other readLine := by
  intro world err mirrored
  unfold readLine withDiagnostics Source.readLine Ends
  simp only [mirrored.streams.input]
  exact ⟨err, rfl, ⟨mirrored.streams.out, mirrored.streams.err, mirrored.streams.input⟩,
    mirrored.twin, mirrored.written⟩

/-- An answer that is made up from the lists. -/
theorem indifferent_settle (answer : Heap → Answer) :
    Indifferent own other (do settle (answer (← get).heap)) :=
  fun _ err mirrored => ⟨err, rfl, mirrored.streams, mirrored.twin, mirrored.written⟩

end

end World

theorem Builtin.indifferent_call {own other : Bytes} (builtin : Builtin)
    (arguments : List Value) : World.Indifferent own other (builtin.call arguments) := by
  have asks (builtin : Builtin) : World.Indifferent own other (do
      World.settle (builtin.answer (← get).heap arguments) : WorldAction Value) :=
    World.indifferent_settle fun heap => builtin.answer heap arguments
  have prints : World.Indifferent own other (Builtin.printCall arguments) :=
    fun world err mirrored => World.indifferent_bind
      (World.indifferent_write (Builtin.printedLine world.heap arguments))
      (fun _ => World.indifferent_pure Value.none) world err mirrored
  have prompts : World.Indifferent own other (Builtin.prompt arguments) := by
    unfold Builtin.prompt
    split
    next => exact World.indifferent_write _
    next =>
      exact World.indifferent_bind (World.indifferent_write _) fun _ => World.indifferent_write _
    next => exact World.indifferent_pure ()
  cases builtin with
  | print => exact prints
  | input =>
    exact World.indifferent_bind prompts fun _ => World.indifferent_bind World.indifferent_flush
      fun _ => World.indifferent_bind World.indifferent_readLine fun _ =>
        World.indifferent_pure _
  | _ => exact asks _

/-! ### Work on the session -/

/-- What an operation may fail with where no stream refuses anything. -/
def Failure.IsOwn : Failure → Prop
  | .aborted (.refused _) => False
  | .aborted (.stepLimit ..) | .aborted .outOfFuel | .unreadable _ => True

/-- What a run may be cut short by where no stream refuses anything. -/
def Abort.IsOwn (abort : Abort) : Prop :=
  (Failure.aborted abort).IsOwn

/-- Work does the same with another sink for diagnostics. If it is cut short, no stream did that.
What it gives satisfies a condition. -/
def Indifferent {Fault Result : Type} (isOwn : Fault → Prop) (own other : Bytes)
    (condition : Result → Prop) (work : EStateM Fault Session Result) : Prop :=
  ∀ session err, World.Mirrored own other session.world err →
    Ends work session
      (fun result after => condition result ∧ ∃ later,
        work (session.withDiagnostics err) = .ok result (after.withDiagnostics later) ∧
          World.Mirrored own other after.world later)
      fun fault after => isOwn fault ∧ ∃ later,
        work (session.withDiagnostics err) = .error fault (after.withDiagnostics later) ∧
          World.Mirrored own other after.world later

section

variable {Fault First Second : Type} {isOwn : Fault → Prop} {own other : Bytes}

theorem indifferent_pure {condition : First → Prop} {value : First} (holds : condition value) :
    Indifferent isOwn own other condition (pure value : EStateM Fault Session First) :=
  fun _ err mirrored => ⟨holds, err, rfl, mirrored⟩

theorem indifferent_throw {condition : First → Prop} {fault : Fault} (allowed : isOwn fault) :
    Indifferent isOwn own other condition (throw fault : EStateM Fault Session First) :=
  fun _ err mirrored => ⟨allowed, err, rfl, mirrored⟩

theorem indifferent_bind {condition : First → Prop} {goal : Second → Prop}
    {first : EStateM Fault Session First} {rest : First → EStateM Fault Session Second}
    (head : Indifferent isOwn own other condition first)
    (tail : ∀ value, condition value → Indifferent isOwn own other goal (rest value)) :
    Indifferent isOwn own other goal (first >>= rest) := by
  intro session err mirrored
  rw [ends_bind]
  refine (head session err mirrored).weaken ?_ ?_
  · rintro value middle ⟨holds, later, same, between⟩
    rw [bind_of_ok same]
    exact tail value holds middle later between
  · rintro fault middle ⟨allowed, later, same, between⟩
    exact ⟨allowed, later, bind_of_error same, between⟩

theorem indifferent_then {goal : Second → Prop} {first : EStateM Fault Session First}
    {rest : First → EStateM Fault Session Second}
    (head : Indifferent isOwn own other (fun _ => True) first)
    (tail : ∀ value, Indifferent isOwn own other goal (rest value)) :
    Indifferent isOwn own other goal (first >>= rest) :=
  indifferent_bind head fun value _ => tail value

/-- A change to something else than the world. -/
theorem indifferent_modify {change : Session → Session}
    (alike : ∀ session err,
      change (session.withDiagnostics err) = (change session).withDiagnostics err)
    (apart : ∀ session, (change session).world = session.world) :
    Indifferent isOwn own other (fun _ => True)
      (modify change : EStateM Fault Session Unit) := by
  intro session err mirrored
  rw [ends_modify]
  refine ⟨trivial, err, ?_, apart session ▸ mirrored⟩
  show EStateM.Result.ok () (change (session.withDiagnostics err)) = _
  rw [alike]

/-- Work that depends on the session, but not on its sink for diagnostics. -/
theorem indifferent_get {condition : First → Prop} {rest : Session → EStateM Fault Session First}
    (alike : ∀ session err, rest (session.withDiagnostics err) = rest session)
    (each : ∀ session, Indifferent isOwn own other condition (rest session)) :
    Indifferent isOwn own other condition (get >>= rest) := by
  intro session err mirrored
  rw [ends_bind, ends_get]
  refine (each session session err mirrored).weaken ?_ ?_
  · rintro result after ⟨holds, later, same, still⟩
    exact ⟨holds, later, (congrFun (alike session err) _).trans same, still⟩
  · rintro fault after ⟨allowed, later, same, still⟩
    exact ⟨allowed, later, (congrFun (alike session err) _).trans same, still⟩

end

/-! ### Actions of a run -/

namespace Run

variable {own other : Bytes}

theorem indifferent_onWorld {Result : Type} {action : WorldAction Result}
    (indifferent : World.Indifferent own other action) :
    Indifferent Abort.IsOwn own other (fun _ => True) (onWorld action) := by
  intro session err mirrored
  rw [ends_onWorld]
  refine (indifferent session.world err mirrored).weaken ?_ fun _ _ failed => failed.elim
  rintro result world ⟨later, same, still⟩
  refine ⟨trivial, later, ?_, still⟩
  unfold onWorld
  rw [show (session.withDiagnostics err).world = session.world.withDiagnostics err from rfl, same]
  rfl

theorem indifferent_ask {Result : Type} (question : List Frame → Frame → Heap → Result) :
    Indifferent Abort.IsOwn own other (fun _ => True)
      (Machine.ask fun session => question session.locals session.globals session.world.heap) :=
  indifferent_get (fun _ _ => rfl) fun _ => indifferent_pure trivial

theorem indifferent_note (event : Event) :
    Indifferent Abort.IsOwn own other (fun _ => True) (note event) :=
  indifferent_modify (fun _ _ => rfl) fun _ => rfl

theorem indifferent_announce (diagnostic : Diagnostic) :
    Indifferent Abort.IsOwn own other (fun _ => True) (announce diagnostic) :=
  indifferent_onWorld (World.indifferent_complain _)

theorem indifferent_report (diagnostic : Diagnostic) :
    Indifferent Abort.IsOwn own other (fun _ => True) (report diagnostic) :=
  indifferent_then (indifferent_note _) fun _ => indifferent_announce diagnostic

theorem define_withDiagnostics (session : Session) (err : Sink) (name : Name) (value : Value) :
    (session.withDiagnostics err).define name value =
      (session.define name value).map fun after => after.withDiagnostics err := by
  unfold Session.define
  rw [show (session.withDiagnostics err).locals = session.locals from rfl,
    show (session.withDiagnostics err).globals = session.globals from rfl]
  cases session.locals with
  | nil =>
    dsimp only
    cases session.globals.define name value with
    | ok globals => rfl
    | error cause => rfl
  | cons frame outer =>
    dsimp only
    cases frame.define name value with
    | ok inner => rfl
    | error cause => rfl

theorem indifferent_bindName (name : Name) (value : Value) :
    Indifferent Abort.IsOwn own other (fun _ => True) (bind name value) := by
  intro session err mirrored
  have twin := define_withDiagnostics session err name value
  rw [ends_bindName]
  cases defined : session.define name value with
  | ok after =>
    rw [defined] at twin
    refine ⟨trivial, err, bind_eq_ok_of_define twin, ?_⟩
    rw [(Session.eq_of_define defined).2.1]
    exact mirrored
  | error cause =>
    rw [defined] at twin
    dsimp only
    rw [bind_eq_report_of_define twin]
    exact indifferent_report _ session err mirrored

theorem indifferent_bindAll (names : List Name) (values : List Value) :
    Indifferent Abort.IsOwn own other (fun _ => True) (bindAll names values) := by
  induction names generalizing values with
  | nil => exact indifferent_pure trivial
  | cons name names hypothesis =>
    cases values with
    | nil => exact indifferent_pure trivial
    | cons value values =>
      exact indifferent_then (indifferent_bindName name value) fun _ => hypothesis values

theorem indifferent_closing {Result : Type} {work : Run Result}
    (indifferent : Indifferent Abort.IsOwn own other (fun _ => True) work) :
    Indifferent Abort.IsOwn own other (fun _ => True) (closing work) := by
  intro session err mirrored
  rw [ends_closing]
  unfold closing
  refine (indifferent session err mirrored).weaken ?_ ?_
  · rintro result after ⟨-, later, same, still⟩
    rw [same]
    exact ⟨trivial, later, rfl, still⟩
  · rintro abort after ⟨allowed, later, same, still⟩
    rw [same]
    exact ⟨allowed, later, rfl, still⟩

theorem indifferent_inCall {Result : Type} {work : Run Result}
    (indifferent : Indifferent Abort.IsOwn own other (fun _ => True) work)
    (parameters : List Name) (values : List Value) :
    Indifferent Abort.IsOwn own other (fun _ => True) (inCall parameters values work) := by
  have opens : Indifferent Abort.IsOwn own other (fun _ => True) (openCall parameters values) :=
    indifferent_then (indifferent_modify (fun _ _ => rfl) fun _ => rfl) fun _ =>
      indifferent_then (indifferent_bindAll parameters values) fun _ =>
        indifferent_modify (fun _ _ => rfl) fun _ => rfl
  exact indifferent_then opens fun _ => indifferent_closing indifferent

theorem indifferent_register (function : Function) :
    Indifferent Abort.IsOwn own other (fun _ => True) (register function) := by
  have last : Indifferent Abort.IsOwn own other (fun _ => True) (do
      note (.registering function.name function.arity)
      modify fun session =>
        { session with functions := session.functions.register function } : Run Unit) :=
    indifferent_then (indifferent_note _) fun _ =>
      indifferent_modify (fun _ _ => rfl) fun _ => rfl
  unfold register
  dsimp only
  split
  next => exact indifferent_then (indifferent_note _) fun _ => last
  next => exact last

theorem indifferent_tick (limits : Limits) (span : Span) :
    Indifferent Abort.IsOwn own other (fun _ => True) (tick limits span) := by
  unfold tick
  refine indifferent_then (indifferent_modify (fun _ _ => rfl) fun _ => rfl) fun _ => ?_
  cases limits.steps with
  | none => exact indifferent_pure trivial
  | some limit =>
    refine indifferent_get (fun _ _ => rfl) fun session => ?_
    split
    next => exact indifferent_throw trivial
    next => exact indifferent_pure trivial

theorem indifferent_callee (limits : Limits) (span : Span) (name : Name) (given : Nat) :
    Indifferent Abort.IsOwn own other (fun found => ∀ function ∈ found, True)
      (callee limits span name given) := by
  have refusal (diagnostic : Diagnostic) :
      Indifferent Abort.IsOwn own other (fun found : Option Function => ∀ function ∈ found, True)
        (do report diagnostic; return none) :=
    indifferent_then (indifferent_report diagnostic) fun _ => indifferent_pure fun _ _ => trivial
  unfold callee
  refine indifferent_get (fun _ _ => rfl) fun session => ?_
  cases session.functions.lookup name with
  | none => exact refusal _
  | some function =>
    dsimp only
    split
    next => exact refusal _
    next =>
      split
      next => exact refusal _
      next => exact indifferent_pure fun _ _ => trivial

/-- The coupling of work with itself that is indifferent. -/
def indifference (own other : Bytes) : Coupling Run Run where
  holds condition work _ := Indifferent Abort.IsOwn own other condition work
  pure _ := indifferent_pure
  bind := indifferent_bind

theorem coupled_indifference (limits : Limits) :
    Coupled (fun _ => True) limits limits 0 (indifference own other) (indifference own other) where
  widen := id
  exhausted _ _ := indifferent_throw trivial
  ask := indifferent_ask
  visit _ := indifferent_pure trivial
  builtin builtin values := indifferent_onWorld (builtin.indifferent_call values)
  settle answer := indifferent_onWorld (World.indifferent_settle fun _ => answer)
  callee := indifferent_callee limits
  inCall function values _ indifferent := indifferent_inCall indifferent function.parameters values
  opening statement := indifferent_then (indifferent_pure trivial) fun _ =>
    indifferent_tick limits statement.span
  bind := indifferent_bindName
  register function _ := indifferent_register function
  ignore _ := indifferent_note _

/-! ### Whole runs -/

theorem indifferent_registerAll (functions : List Function) :
    Indifferent Abort.IsOwn own other (fun _ => True) (registerAll functions) := by
  induction functions with
  | nil => exact indifferent_pure trivial
  | cons function rest hypothesis =>
    exact indifferent_then (indifferent_register function) fun _ => hypothesis

theorem indifferent_announceAll (diagnostics : List Diagnostic) :
    Indifferent Abort.IsOwn own other (fun _ => True) (announceAll diagnostics) := by
  induction diagnostics with
  | nil => exact indifferent_pure trivial
  | cons diagnostic rest hypothesis =>
    exact indifferent_then (indifferent_announce diagnostic) fun _ => hypothesis

theorem indifferent_finish (abort? : Option Abort) :
    Indifferent Abort.IsOwn own other (fun _ => True) (finish abort?) := by
  unfold finish
  refine indifferent_then (indifferent_modify (fun _ _ => rfl) fun _ => rfl) fun _ =>
    indifferent_then (indifferent_onWorld World.indifferent_flush) fun _ => ?_
  cases abort?.bind Abort.diagnostic? with
  | none => exact indifferent_pure trivial
  | some diagnostic => exact indifferent_announce diagnostic

theorem indifferent_finished {Result : Type} {run : Run Result}
    (indifferent : Indifferent Abort.IsOwn own other (fun _ => True) run) :
    Indifferent Abort.IsOwn own other (fun _ => True) (finished run) := by
  intro session err mirrored
  rw [ends_finished]
  unfold finished
  refine (indifferent session err mirrored).weaken ?_ ?_
  · rintro result middle ⟨-, later, same, between⟩
    rw [same]
    refine (indifferent_finish none middle later between).weaken ?_ ?_
    · rintro _ after ⟨-, last, ended, still⟩
      exact ⟨trivial, last, bind_of_ok ended, still⟩
    · rintro abort after ⟨allowed, last, ended, still⟩
      exact ⟨allowed, last, bind_of_error ended, still⟩
  · rintro abort middle ⟨allowed, later, same, between⟩
    rw [same]
    refine (indifferent_finish (some abort) middle later between).weaken ?_ ?_
    · rintro _ after ⟨-, last, ended, still⟩
      exact ⟨allowed, last, bind_of_ok ended, still⟩
    · rintro other after ⟨otherAllowed, last, ended, still⟩
      exact ⟨otherAllowed, last, bind_of_error ended, still⟩

theorem indifferent_program (limits : Limits) (fuel : Nat) (program : Program) :
    Indifferent Abort.IsOwn own other (fun _ => True) (Run.program limits fuel program) := by
  have executes : Indifferent Abort.IsOwn own other (fun _ => True)
      (executeAll limits fuel program.items) :=
    (coupled_indifference limits).executeAll
      (fun function _ => function.body.eachFunction_of_forall fun _ => trivial) fuel program.items
      fun statement _ => statement.eachFunction_of_forall fun _ => trivial
  have prepares : Indifferent Abort.IsOwn own other (fun _ => True) (prepare program) :=
    indifferent_then (indifferent_note _) fun _ =>
      indifferent_then (indifferent_modify (fun _ _ => rfl) fun _ => rfl) fun _ =>
        indifferent_registerAll program.functions
  exact indifferent_then prepares fun _ => indifferent_finished executes

end Run

namespace Session

variable {own other : Bytes}

theorem indifferent_operation {Result : Type} {run : Run Result}
    (indifferent : Indifferent Abort.IsOwn own other (fun _ => True) run) :
    Indifferent Failure.IsOwn own other (fun _ => True) run.operation := by
  intro session err mirrored
  have ends := indifferent session err mirrored
  unfold Run.operation Ends at *
  dsimp only at *
  cases ended : run session with
  | ok result after =>
    rw [ended] at ends
    obtain ⟨-, later, same, still⟩ := ends
    rw [same]
    exact ⟨trivial, later, rfl, still⟩
  | error abort after =>
    rw [ended] at ends
    obtain ⟨allowed, later, same, still⟩ := ends
    rw [same]
    exact ⟨allowed, later, rfl, still⟩

/-- No source looks at the diagnostic stream when it is run, and what is written there is the same
wherever it goes. -/
theorem indifferent_run (limits : Limits) (source : Bytes) :
    Indifferent Failure.IsOwn own other (fun _ => True) (Session.run limits source) := by
  unfold Session.run readOrReport
  cases Program.ofSource source with
  | ok program => exact indifferent_operation (Run.indifferent_program limits ampleFuel program)
  | error diagnostics =>
    exact indifferent_then (indifferent_operation (Run.indifferent_announceAll diagnostics))
      fun _ => indifferent_throw trivial

/-- What cannot be read is only reported. -/
theorem run_of_unreadable (limits : Limits) {source : Bytes} {diagnostics : List Diagnostic}
    (read : Program.ofSource source = .error diagnostics) {session : Session}
    (unfailing : session.world.streams.Unfailing) :
    ∃ after, Session.run limits source session = .error (.unreadable diagnostics) after := by
  have announces := Run.smooth_announceAll diagnostics session unfailing
  have operates : Session.run limits source session = (do
      (Run.announceAll diagnostics).operation
      throw (.unreadable diagnostics) : Operation Unit) session := by
    unfold Session.run readOrReport
    rw [read]
  unfold Ends at announces
  cases ended : Run.announceAll diagnostics session with
  | ok _ after =>
    have through : (Run.announceAll diagnostics).operation session = .ok () after := by
      unfold Run.operation
      rw [ended]
    exact ⟨after, operates.trans (bind_of_ok through)⟩
  | error abort after =>
    rw [ended] at announces
    exact announces.elim

/-- What can be read is run, and then it is not reported to be unreadable. -/
theorem run_of_readable (limits : Limits) {source : Bytes} {program : Program}
    (read : Program.ofSource source = .ok program) (session : Session)
    (diagnostics : List Diagnostic) (after : Session) :
    Session.run limits source session ≠ .error (.unreadable diagnostics) after := by
  unfold Session.run readOrReport Run.operation
  rw [read]
  dsimp only
  cases Run.program limits ampleFuel program session with
  | ok result last => exact nofun
  | error abort last => exact nofun

end Session

end Scriptling
