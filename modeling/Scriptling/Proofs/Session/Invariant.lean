/-
This file carries an invariant of sessions through whatever a session does. It
is enough to look at the few ways in which a session is ever changed: a stream
answers, an event is noted, a function is registered; lists are made, a name is
bound, a call begins or ends; a statement is counted. What each of them keeps,
every evaluation keeps, however it ends, and it holds of the session at every
node on the way.

An invariant need not stand all of these changes to be of use. Those that only
speak of frames or of lists are carried through single actions here, and through
evaluations where the theory of frames or of lists is.
-/

import Scriptling.Proofs.Session.Actions
import Scriptling.Proofs.Session.Watched

namespace Scriptling

/-- The name under which an event says that a function is being registered. -/
def Event.registered? : Event → Option Name
  | .registering name _ => some name
  | .running _ | .shadowed _ | .reported _ | .importIgnored _ => none

/-- A property of sessions is kept by each change that leaves the frames, the lists and the count of
statements as they are, if the functions that are registered are known; and the functions that are
found are known. -/
structure ActionInvariant (known : Function → Prop) (invariant : Session → Prop) : Prop where
  streams {session : Session} (streams : Streams) :
    invariant session → invariant { session with world := { session.world with streams } }
  note {session : Session} {event : Event} : event.registered? = none → invariant session →
    invariant { session with log := session.log.push event }
  register {session : Session} {function : Function} : known function → invariant session →
    invariant { session with
      log := session.log.push (.registering function.name function.arity)
      functions := session.functions.register function }
  lookup {session : Session} {name : Name} {function : Function} :
    session.functions.lookup name = some function → invariant session → known function

/-- A property of sessions is kept as well by each change to the lists and to the frames. -/
structure CallInvariant (known : Function → Prop) (invariant : Session → Prop) : Prop
    extends ActionInvariant known invariant where
  heap {session : Session} (heap : Heap) :
    invariant session → invariant { session with world := { session.world with heap } }
  enter {session : Session} : invariant session → invariant session.enter
  deepen {session : Session} : invariant session → invariant session.deepen
  leave {session : Session} : invariant session → invariant session.leave
  define {session after : Session} {name : Name} {value : Value} :
    session.define name value = .ok after → invariant session → invariant after

/-- A property of sessions is kept by each change that is made to a session. -/
structure SessionInvariant (known : Function → Prop) (invariant : Session → Prop) : Prop
    extends CallInvariant known invariant where
  steps {session : Session} (steps : Nat) :
    invariant session → invariant { session with steps }
  atTop {session : Session} : invariant session → invariant session.atTop

/-! ### The functions of a session -/

/-- Every function that is registered has a property. -/
def Session.EachFunction (property : Function → Prop) (session : Session) : Prop :=
  ∀ function ∈ session.functions.functions, property function

/-- What the registered functions have, they keep if only such functions are registered. -/
theorem sessionInvariant_eachFunction (property : Function → Prop) :
    SessionInvariant property (Session.EachFunction property) where
  streams _ holds := holds
  note _ holds := holds
  register own holds other member := by
    rcases Registry.mem_register member with rfl | old
    · exact own
    · exact holds other old
  lookup found holds := holds _ (List.mem_of_find?_eq_some found)
  heap _ holds := holds
  enter holds := holds
  deepen holds := holds
  leave holds := holds
  define defined holds := by
    unfold Session.EachFunction
    rw [(Session.eq_of_define defined).1]
    exact holds
  steps _ holds := holds
  atTop holds := holds

/-! ### The frames of a session -/

/-- Every frame has a property. -/
def Session.EachFrame (property : Frame → Prop) (session : Session) : Prop :=
  ∀ frame ∈ session.chain, property frame

namespace Session.EachFrame

variable {property : Frame → Prop} {session : Session}

theorem enter (holds : session.EachFrame property) (fresh : property Frame.empty) :
    session.enter.EachFrame property := by
  intro frame member
  rcases List.mem_cons.mp member with rfl | old
  · exact fresh
  · exact holds frame old

theorem leave (holds : session.EachFrame property) : session.leave.EachFrame property := by
  intro frame member
  rcases List.mem_append.mp member with inner | top
  · exact holds frame (List.mem_append_left _ (List.mem_of_mem_tail inner))
  · exact holds frame (List.mem_append_right _ top)

theorem atTop (holds : session.EachFrame property) : session.atTop.EachFrame property :=
  fun frame member => holds frame (List.mem_append_right _ member)

/-- If a frame keeps its property when a name is bound in it, all frames do. -/
theorem define (holds : session.EachFrame property) {after : Session} {name : Name} {value : Value}
    (kept : ∀ frame result, property frame → frame.define name value = .ok result → property result)
    (defined : session.define name value = .ok after) : after.EachFrame property := by
  obtain ⟨globals, top, bound, rfl⟩ | ⟨frame, inner, outer, inCall, bound, rfl⟩ :=
    define_eq_ok defined
  · intro frame member
    rcases List.mem_append.mp member with call | new
    · exact holds frame (List.mem_append_left _ call)
    · rw [List.mem_singleton.mp new]
      exact kept _ _ (holds session.globals (List.mem_append_right _ List.mem_cons_self)) bound
  · have innermost : frame ∈ session.locals := inCall ▸ List.mem_cons_self
    intro other member
    rcases List.mem_cons.mp member with rfl | old
    · exact kept _ _ (holds frame (List.mem_append_left _ innermost)) bound
    · refine holds other ?_
      unfold chain
      rw [inCall]
      exact List.mem_cons_of_mem _ old

end Session.EachFrame

/-! ### Work that keeps a property -/

/-- Some work keeps a property of the state, however it ends, and what it gives satisfies a
condition. -/
def Keeps {Fault State Result : Type} (invariant : State → Prop) (condition : Result → Prop)
    (work : EStateM Fault State Result) : Prop :=
  ∀ start, invariant start →
    Ends work start (fun result final => invariant final ∧ condition result)
      fun _ final => invariant final

section

variable {Fault State First Second : Type} {invariant : State → Prop}

theorem keeps_bind {condition : First → Prop} {goal : Second → Prop}
    {first : EStateM Fault State First} {rest : First → EStateM Fault State Second}
    (head : Keeps invariant condition first)
    (tail : ∀ value, condition value → Keeps invariant goal (rest value)) :
    Keeps invariant goal (first >>= rest) := by
  intro start holds
  rw [ends_bind]
  exact (head start holds).weaken
    (fun value middle kept => tail value kept.2 middle kept.1) fun _ _ kept => kept

theorem keeps_then {goal : Second → Prop} {first : EStateM Fault State First}
    {rest : First → EStateM Fault State Second} (head : Keeps invariant (fun _ => True) first)
    (tail : ∀ value, Keeps invariant goal (rest value)) :
    Keeps invariant goal (first >>= rest) :=
  keeps_bind head fun value _ => tail value

theorem keeps_pure {condition : First → Prop} {value : First} (holds : condition value) :
    Keeps invariant condition (pure value : EStateM Fault State First) :=
  fun _ kept => ⟨kept, holds⟩

theorem keeps_throw {condition : First → Prop} {fault : Fault} :
    Keeps invariant condition (throw fault : EStateM Fault State First) :=
  fun _ kept => kept

theorem keeps_modify {change : State → State}
    (keeps : ∀ state, invariant state → invariant (change state)) :
    Keeps invariant (fun _ => True) (modify change : EStateM Fault State Unit) :=
  fun state kept => ⟨keeps state kept, trivial⟩

theorem stateAfter_of_keeps {property : State → Prop} {work : EStateM Fault State First}
    (keeps : Keeps property (fun _ => True) work) {start : State} (holds : property start) :
    property (stateAfter work start) :=
  ((keeps start holds).weaken (fun _ _ kept => kept.1) fun _ _ kept => kept).stateAfter

/-- The coupling of work with itself that keeps a property. -/
def keeping (invariant : State → Prop) :
    Coupling (EStateM Fault State) (EStateM Fault State) where
  holds condition work _ := Keeps invariant condition work
  pure _ holds := keeps_pure holds
  bind := keeps_bind

end

/-! ### Actions of a run -/

/-- An action keeps a property of sessions, and nothing but a stream ever cuts it short. What it
gives satisfies a condition. -/
def Acts {Result : Type} (invariant : Session → Prop) (condition : Result → Prop)
    (action : Run Result) : Prop :=
  ∀ session, invariant session →
    Ends action session (fun result after => invariant after ∧ condition result)
      fun abort after => invariant after ∧ ∃ fault, abort = .refused fault

section

variable {First Second : Type} {known : Function → Prop} {invariant : Session → Prop}

theorem Acts.keeps {condition : First → Prop} {action : Run First}
    (acts : Acts invariant condition action) : Keeps invariant condition action :=
  fun session holds => (acts session holds).weaken (fun _ _ kept => kept) fun _ _ kept => kept.1

/-- An action never ends for lack of fuel. -/
theorem Acts.ends_fuelled {condition : First → Prop} {action : Run First}
    (acts : Acts invariant condition action) {session : Session} (holds : invariant session) :
    Ends action session (fun result after => invariant after ∧ condition result)
      fun abort _ => abort ≠ .outOfFuel := by
  refine (acts session holds).weaken (fun _ _ kept => kept) fun abort _ cut => ?_
  obtain ⟨fault, rfl⟩ := cut.2
  exact Abort.noConfusion

theorem acts_pure {condition : First → Prop} {value : First} (holds : condition value) :
    Acts invariant condition (pure value) :=
  fun _ kept => ⟨kept, holds⟩

theorem acts_then {goal : Second → Prop} {first : Run First} {rest : First → Run Second}
    (head : Acts invariant (fun _ => True) first)
    (tail : ∀ value, Acts invariant goal (rest value)) :
    Acts invariant goal (first >>= rest) := by
  intro session holds
  rw [ends_bind]
  exact (head session holds).weaken (fun value middle kept => tail value middle kept.1)
    fun _ _ kept => kept

theorem acts_modify {change : Session → Session}
    (keeps : ∀ session, invariant session → invariant (change session)) :
    Acts invariant (fun _ => True) (modify change) :=
  fun session kept => ⟨keeps session kept, trivial⟩

theorem acts_onWorld
    (world : ∀ {session : Session} (world : World), invariant session →
      invariant { session with world })
    (action : WorldAction First) : Acts invariant (fun _ => True) (Run.onWorld action) := by
  intro session holds
  rw [Run.ends_onWorld]
  unfold Ends
  cases action session.world with
  | ok result after => exact ⟨world after holds, trivial⟩
  | error fault after => exact ⟨world after holds, fault, rfl⟩

theorem keeps_tick
    (counted : ∀ {session : Session} (steps : Nat), invariant session →
      invariant { session with steps })
    (limits : Limits) (span : Span) : Keeps invariant (fun _ => True) (Run.tick limits span) :=
  fun _ holds => Run.ends_tick ⟨counted _ holds, trivial⟩ fun _ => counted _ holds

end

namespace ActionInvariant

variable {known : Function → Prop} {invariant : Session → Prop}

theorem acts_talking (kept : ActionInvariant known invariant) {Result : Type}
    {action : WorldAction Result} (talks : World.Talks action) :
    Acts invariant (fun _ => True) (Run.onWorld action) := by
  intro session holds
  rw [Run.ends_onWorld]
  refine (talks session.world).weaken ?_ ?_
  · rintro result _ ⟨streams, rfl⟩
    exact ⟨kept.streams streams holds, trivial⟩
  · rintro fault _ ⟨streams, rfl⟩
    exact ⟨kept.streams streams holds, fault, rfl⟩

theorem acts_announce (kept : ActionInvariant known invariant) (diagnostic : Diagnostic) :
    Acts invariant (fun _ => True) (Run.announce diagnostic) :=
  kept.acts_talking (World.talks_complain _)

theorem acts_note (kept : ActionInvariant known invariant) {event : Event}
    (other : event.registered? = none) : Acts invariant (fun _ => True) (Run.note event) :=
  acts_modify fun _ => kept.note other

theorem acts_report (kept : ActionInvariant known invariant) (diagnostic : Diagnostic) :
    Acts invariant (fun _ => True) (Run.report diagnostic) :=
  acts_then (kept.acts_note rfl) fun _ => kept.acts_announce diagnostic

theorem acts_register (kept : ActionInvariant known invariant) {function : Function}
    (isKnown : known function) : Acts invariant (fun _ => True) (Run.register function) := by
  have last : Acts invariant (fun _ => True) (do
      Run.note (.registering function.name function.arity)
      modify fun session =>
        { session with functions := session.functions.register function }) :=
    fun _ holds => ⟨kept.register isKnown holds, trivial⟩
  unfold Run.register
  dsimp only
  split
  next => exact acts_then (kept.acts_note rfl) fun _ => last
  next => exact last

theorem acts_callee (kept : ActionInvariant known invariant) (limits : Limits) (span : Span)
    (name : Name) (given : Nat) :
    Acts invariant (fun found => ∀ function ∈ found, known function)
      (Run.callee limits span name given) := by
  intro session holds
  have refusal (diagnostic : Diagnostic) :
      Acts invariant (fun found : Option Function => ∀ function ∈ found, known function) (do
        Run.report diagnostic
        return none) :=
    acts_then (kept.acts_report diagnostic) fun _ => acts_pure fun _ found => nomatch found
  unfold Run.callee
  rw [ends_bind, ends_get]
  cases found : session.functions.lookup name with
  | none => exact refusal _ session holds
  | some function =>
    dsimp only
    split
    next => exact refusal _ session holds
    next =>
      split
      next => exact refusal _ session holds
      next =>
        refine ⟨holds, fun other same => ?_⟩
        rw [← Option.some.inj same]
        exact kept.lookup found holds

/-- A name is bound, or it is reported that it cannot be. -/
theorem acts_bindName (kept : ActionInvariant known invariant) {name : Name} {value : Value}
    (define : ∀ {session after : Session}, session.define name value = .ok after →
      invariant session → invariant after) :
    Acts invariant (fun _ => True) (Run.bind name value) := by
  intro session holds
  rw [Run.ends_bindName]
  cases defined : session.define name value with
  | ok after => exact ⟨define defined holds, trivial⟩
  | error cause => exact kept.acts_report _ session holds

/-- Names are bound one after another, as long as the streams take the reports of those that cannot
be. -/
theorem acts_bindAll (kept : ActionInvariant known invariant) (names : List Name)
    {values : List Value}
    (define : ∀ name, ∀ value ∈ values, ∀ {session after : Session},
      session.define name value = .ok after → invariant session → invariant after) :
    Acts invariant (fun _ => True) (Run.bindAll names values) := by
  induction names generalizing values with
  | nil => exact acts_pure trivial
  | cons name names hypothesis =>
    cases values with
    | nil => exact acts_pure trivial
    | cons value values =>
      exact acts_then (kept.acts_bindName (define name value List.mem_cons_self)) fun _ =>
        hypothesis fun name other member => define name other (List.mem_cons_of_mem _ member)

/-- A call is counted once its frame stands and its parameters are bound there. -/
theorem ends_openCall (kept : ActionInvariant known invariant) (parameters : List Name)
    (values : List Value)
    (define : ∀ name, ∀ value ∈ values, ∀ {session after : Session},
      session.define name value = .ok after → invariant session → invariant after)
    {session : Session} (entered : invariant session.enter) :
    Ends (Run.openCall parameters values) session
      (fun _ after => ∃ inside : Session, invariant inside ∧ after = inside.deepen)
      fun abort after => invariant after ∧ ∃ fault, abort = .refused fault := by
  unfold Run.openCall
  rw [ends_bind, ends_modify, ends_bind]
  exact (kept.acts_bindAll parameters define session.enter entered).weaken
    (fun _ inside held => ⟨inside, held.1, rfl⟩) fun _ _ cut => cut

theorem acts_registerAll (kept : ActionInvariant known invariant) (functions : List Function)
    (allKnown : ∀ function ∈ functions, known function) :
    Acts invariant (fun _ => True) (Run.registerAll functions) := by
  induction functions with
  | nil => exact acts_pure trivial
  | cons function rest hypothesis =>
    exact acts_then (kept.acts_register (allKnown function List.mem_cons_self)) fun _ =>
      hypothesis fun other member => allKnown other (List.mem_cons_of_mem _ member)

theorem acts_announceAll (kept : ActionInvariant known invariant)
    (diagnostics : List Diagnostic) :
    Acts invariant (fun _ => True) (Run.announceAll diagnostics) := by
  induction diagnostics with
  | nil => exact acts_pure trivial
  | cons diagnostic rest hypothesis =>
    exact acts_then (kept.acts_announce diagnostic) fun _ => hypothesis

/-- At the end of a run only the frames of its calls are gone. -/
theorem ends_finish (kept : ActionInvariant known invariant) (abort? : Option Abort)
    {session : Session} (holds : invariant session.atTop) :
    Ends (Run.finish abort?) session (fun _ after => invariant after)
      fun abort after => invariant after ∧ ∃ fault, abort = .refused fault := by
  have flushed : Acts invariant (fun _ => True) (Run.onWorld World.flush) :=
    kept.acts_talking (World.talks_onOutput _)
  unfold Run.finish
  rw [ends_bind, ends_modify, ends_bind]
  refine (flushed session.atTop holds).weaken (fun _ after held => ?_) fun _ _ last => last
  cases abort?.bind Abort.diagnostic? with
  | none => exact held.1
  | some diagnostic =>
    exact (kept.acts_announce diagnostic after held.1).weaken (fun _ _ last => last.1)
      fun _ _ last => last

/-- A run is prepared by notes, by a fresh count of statements and by the functions of its
program. -/
theorem keeps_prepare (kept : ActionInvariant known invariant)
    (counted : ∀ {session : Session} (steps : Nat), invariant session →
      invariant { session with steps })
    (program : Program) (allKnown : ∀ function ∈ program.functions, known function) :
    Keeps invariant (fun _ => True) (Run.prepare program) :=
  keeps_then (kept.acts_note rfl).keeps fun _ => keeps_then (keeps_modify fun _ => counted 0)
    fun _ => (kept.acts_registerAll program.functions allKnown).keeps

/-- What holds at the top when a run is over holds after its end. -/
theorem stateAfter_finished (kept : ActionInvariant known invariant) {Result : Type}
    {run : Run Result} {session : Session} (holds : invariant (stateAfter run session).atTop) :
    invariant (stateAfter (Run.finished run) session) := by
  refine Ends.stateAfter ?_
  rw [Run.ends_finished]
  refine (ends_stateAfter run session).weaken ?_ ?_
  · rintro _ _ rfl
    exact (kept.ends_finish none holds).weaken (fun _ _ last => last) fun _ _ cut => cut.1
  · rintro abort _ rfl
    exact (kept.ends_finish (some abort) holds).weaken (fun _ _ last => last) fun _ _ cut => cut.1

/-- A run with its end keeps what the run keeps. -/
theorem keeps_finished (kept : ActionInvariant known invariant)
    (top : ∀ {session : Session}, invariant session → invariant session.atTop) {Result : Type}
    {run : Run Result} (keeps : Keeps invariant (fun _ => True) run) :
    Keeps invariant (fun _ => True) (Run.finished run) := by
  intro session holds
  rw [Run.ends_finished]
  refine (keeps session holds).weaken (fun _ after before => ?_) fun _ after before => ?_
  · exact (kept.ends_finish none (top before.1)).weaken (fun _ _ last => ⟨last, trivial⟩)
      fun _ _ last => last.1
  · exact (kept.ends_finish _ (top before)).weaken (fun _ _ last => last)
      fun _ _ last => last.1

end ActionInvariant

namespace CallInvariant

variable {known : Function → Prop} {invariant : Session → Prop}

theorem world (kept : CallInvariant known invariant) {session : Session} (world : World)
    (holds : invariant session) : invariant { session with world } :=
  kept.heap world.heap (kept.streams world.streams holds)

theorem acts_openCall (kept : CallInvariant known invariant) (parameters : List Name)
    (values : List Value) : Acts invariant (fun _ => True) (Run.openCall parameters values) := by
  intro session holds
  refine (kept.ends_openCall parameters values (fun _ _ _ => kept.define)
    (kept.enter holds)).weaken ?_ fun _ _ cut => cut
  rintro _ _ ⟨inside, held, rfl⟩
  exact ⟨kept.deepen held, trivial⟩

end CallInvariant

namespace SessionInvariant

variable {known : Function → Prop} {invariant : Session → Prop}

/-! ### Evaluation -/

/-- An invariant holds of the session now, and held of it at every visit. -/
def upheld (invariant : Session → Prop) (watch : Watch) : Prop :=
  invariant watch.session ∧ ∀ visit ∈ watch.visits, invariant visit.session

/-- Before the first visit an invariant need only hold now. -/
theorem upheld_start {session : Session} (holds : invariant session) :
    upheld invariant ⟨session, []⟩ :=
  ⟨holds, fun _ member => absurd member List.not_mem_nil⟩

theorem keeps_act {Result : Type} {condition : Result → Prop} {action : Run Result}
    (keeps : Keeps invariant condition action) :
    Keeps (upheld invariant) condition (Watched.act action) := by
  intro watch holds
  rw [Watched.ends_act]
  exact (keeps watch.session holds.1).weaken
    (fun _ _ kept => ⟨⟨kept.1, holds.2⟩, kept.2⟩) fun _ _ kept => ⟨kept, holds.2⟩

theorem keeps_visit (node : Node) :
    Keeps (upheld invariant) (fun _ => True) (Watched.visit node) := by
  intro watch holds
  rw [Watched.ends_visit]
  refine ⟨⟨holds.1, fun visit member => ?_⟩, trivial⟩
  rcases List.mem_append.mp member with old | new
  · exact holds.2 visit old
  · rw [List.mem_singleton.mp new]
    exact holds.1

theorem keeps_closing (kept : SessionInvariant known invariant) {Result : Type}
    {condition : Result → Prop} {work : Watched Result}
    (keeps : Keeps (upheld invariant) condition work) :
    Keeps (upheld invariant) condition (Watched.closing work) := by
  intro watch holds
  rw [Watched.ends_closing]
  exact (keeps watch holds).weaken
    (fun _ _ after => ⟨⟨kept.leave after.1.1, after.1.2⟩, after.2⟩)
    fun _ _ after => ⟨kept.leave after.1, after.2⟩

theorem keeps_inCall (kept : SessionInvariant known invariant) {Result : Type}
    {condition : Result → Prop} {work : Watched Result}
    (keeps : Keeps (upheld invariant) condition work) (parameters : List Name)
    (values : List Value) :
    Keeps (upheld invariant) condition (Watched.inCall parameters values work) :=
  keeps_then (keeps_act (kept.acts_openCall parameters values).keeps) fun _ =>
    kept.keeps_closing keeps

theorem coupled (kept : SessionInvariant known invariant) (limits : Limits) :
    Coupled known limits limits 0 (keeping (upheld invariant) : Coupling Watched Watched)
      (keeping (upheld invariant)) where
  widen := id
  exhausted _ _ := keeps_throw
  ask _ := fun _ holds => ⟨holds, trivial⟩
  visit _ := keeps_visit _
  builtin _ _ := keeps_act (acts_onWorld kept.world _).keeps
  settle _ := keeps_act (acts_onWorld kept.world _).keeps
  callee _ _ _ := keeps_act (kept.acts_callee _ _ _ _).keeps
  inCall function values _ keeps := kept.keeps_inCall keeps function.parameters values
  opening _ := keeps_then (keeps_visit _) fun _ => keeps_act (keeps_tick kept.steps _ _)
  bind _ _ := keeps_act (kept.acts_bindName kept.define).keeps
  register _ isKnown := keeps_act (kept.acts_register isKnown).keeps
  ignore _ := keeps_act (kept.acts_note rfl).keeps

/-- What is upheld under watch is kept by the plain run. -/
theorem keeps_of_forget {Result : Type} {condition : Result → Prop} {watched : Watched Result}
    {run : Run Result} (keeps : Keeps (upheld invariant) condition watched)
    (same : ∀ watch, Watched.forget (watched watch) = run watch.session) :
    Keeps invariant condition run := by
  intro session holds
  exact Watched.ends_of_forget same ((keeps ⟨session, []⟩ (upheld_start holds)).weaken
    (fun _ _ kept => ⟨kept.1.1, kept.2⟩) fun _ _ kept => kept.1)

/-! ### Whole runs -/

theorem allKnown_of_fit {program : Program}
    (fit : ∀ statement ∈ program.items, statement.EachFunction known) :
    ∀ function ∈ program.functions, known function := by
  intro function member
  obtain ⟨statement, inside, found⟩ := List.mem_filterMap.mp member
  cases statement <;> cases found
  exact (fit _ inside).1

section

variable (kept : SessionInvariant known invariant)
  (closed : ∀ function, known function → function.body.EachFunction known)

include kept closed

theorem keeps_executeAll (limits : Limits) (fuel : Nat) (statements : List Stmt)
    (fit : ∀ statement ∈ statements, statement.EachFunction known) :
    Keeps (upheld invariant) (fun _ => True)
      (Machine.executeAll limits fuel statements : Watched Unit) :=
  (kept.coupled limits).executeAll closed fuel statements fit

theorem keeps_evaluate (limits : Limits) (fuel : Nat) (expr : Expr) :
    Keeps (upheld invariant) (fun _ => True)
      (Machine.evaluate limits fuel expr : Watched Value) :=
  ((kept.coupled limits).evaluate_execute closed fuel).1 expr

theorem keeps_execute (limits : Limits) (fuel : Nat) {statement : Stmt}
    (fit : statement.EachFunction known) :
    Keeps invariant (fun _ => True) (Run.execute limits fuel statement) :=
  keeps_of_forget (((kept.coupled limits).evaluate_execute closed fuel).2 statement fit)
    (Watched.forget_execute limits fuel statement)

theorem keeps_program (limits : Limits) (fuel : Nat) (program : Program)
    (fit : ∀ statement ∈ program.items, statement.EachFunction known) :
    Keeps invariant (fun _ => True) (Run.program limits fuel program) := by
  refine keeps_then (kept.keeps_prepare kept.steps program (allKnown_of_fit fit)) fun _ =>
    kept.keeps_finished kept.atTop ?_
  exact keeps_of_forget (kept.keeps_executeAll closed limits fuel program.items fit)
    (Watched.forget_executeAll limits fuel program.items)

theorem keeps_expression (limits : Limits) (fuel : Nat) (expr : Expr) :
    Keeps invariant (fun _ => True) (Run.expression limits fuel expr) := by
  refine keeps_then (keeps_modify fun _ => kept.steps 0) fun _ =>
    kept.keeps_finished kept.atTop ?_
  exact keeps_of_forget (kept.keeps_evaluate closed limits fuel expr)
    (Watched.forget_evaluate limits fuel expr)

end

end SessionInvariant

end Scriptling
