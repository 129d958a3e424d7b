/-
This file follows the lists through an evaluation. A value that an evaluation
has at hand is a list that was made before, if it is a list at all; so what a
new list is made of is older than the list. And an evaluation only ever makes new
lists, by writing them down or through a builtin.

How many lists there are grows meanwhile, and what is at hand stays valid. So
work is followed from every heap that can have come about before it, and what it
gives is bounded by the lists there are at that moment.
-/

import Scriptling.Proofs.Heap.Answers
import Scriptling.Proofs.Session.Invariant

namespace Scriptling

/-! ### Sessions whose lists were all made -/

theorem Frame.mem_of_define {frame after : Frame} {name : Name} {value : Value}
    (defined : frame.define name value = .ok after) {binding : Name × Value}
    (member : binding ∈ after.bindings) : binding ∈ frame.bindings ∨ binding = (name, value) := by
  rw [(Frame.define_eq_ok.mp defined).2] at member
  exact (Entries.mem_insert member).symm

/-- A frame binds names to lists that are among the first so many. -/
def Frame.Below (bound : Nat) (frame : Frame) : Prop :=
  ∀ binding ∈ frame.bindings, binding.2.Below bound

theorem Frame.Below.mono {frame : Frame} {bound more : Nat} (below : frame.Below bound)
    (le : bound ≤ more) : frame.Below more :=
  fun binding member => (below binding member).mono le

theorem Frame.Below.define {frame after : Frame} {name : Name} {value : Value} {bound : Nat}
    (below : frame.Below bound) (valid : value.Below bound)
    (defined : frame.define name value = .ok after) : after.Below bound := by
  intro binding member
  rcases Frame.mem_of_define defined member with old | rfl
  · exact below binding old
  · exact valid

namespace Session

/-- How many lists there are. -/
abbrev lists (session : Session) : Nat :=
  session.world.heap.size

/-- All lists that the session can come by were made. -/
structure Closed (session : Session) : Prop where
  heap : session.world.heap.Closed
  frames : session.EachFrame (Frame.Below session.lists)

theorem Closed.below_lookup {session : Session} (closed : session.Closed) (name : Name) :
    ((session.lookup name).getD .none).Below session.lists := by
  rw [lookup_eq]
  cases found : Frame.lookup session.chain name with
  | none => trivial
  | some value =>
    obtain ⟨frame, member, bound⟩ := List.exists_of_findSome?_eq_some found
    unfold Frame.find? at bound
    obtain ⟨binding, inside, rfl⟩ := Option.map_eq_some_iff.mp bound
    exact closed.frames frame member binding (List.mem_of_find?_eq_some inside)

/-- With more lists than before, what was made before is still there. -/
theorem Closed.extend {session : Session} (closed : session.Closed) {heap : Heap}
    (extended : session.world.heap.Extends heap) :
    Session.Closed { session with world := { session.world with heap } } where
  heap := extended.closed closed.heap
  frames frame member := (closed.frames frame member).mono extended.size

/-- A closed session with the lists of an earlier heap and younger ones. -/
structure ClosedSince (base : Heap) (session : Session) : Prop where
  closed : session.Closed
  extended : base.Extends session.world.heap

theorem ClosedSince.of_extends {base : Heap} {session : Session} (holds : session.ClosedSince base)
    {heap : Heap} (extended : session.world.heap.Extends heap) :
    Session.ClosedSince base { session with world := { session.world with heap } } :=
  ⟨holds.closed.extend extended, holds.extended.trans extended⟩

/-- Without a change to the lists only the frames are to be looked at. -/
theorem ClosedSince.of_frames {base : Heap} {session after : Session}
    (holds : session.ClosedSince base) (same : after.world.heap = session.world.heap)
    (frames : after.EachFrame (Frame.Below session.lists)) : after.ClosedSince base := by
  refine ⟨⟨?_, ?_⟩, ?_⟩
  · rw [same]
    exact holds.closed.heap
  · unfold lists
    rw [same]
    exact frames
  · rw [same]
    exact holds.extended

theorem ClosedSince.define {base : Heap} {session after : Session} {name : Name} {value : Value}
    (valid : value.Below base.size) (defined : session.define name value = .ok after)
    (holds : session.ClosedSince base) : after.ClosedSince base :=
  holds.of_frames (congrArg World.heap (eq_of_define defined).2.1)
    (holds.closed.frames.define
      (fun _ _ below bound => below.define (valid.mono holds.extended.size) bound) defined)

end Session

theorem actionInvariant_closedSince (base : Heap) :
    ActionInvariant (fun _ => True) (Session.ClosedSince base) where
  streams _ holds := holds.of_frames rfl holds.closed.frames
  note _ holds := holds.of_frames rfl holds.closed.frames
  register _ holds := holds.of_frames rfl holds.closed.frames
  lookup _ _ := trivial

/-! ### Work that makes lists -/

/-- From any session that has the lists of an earlier heap and younger ones, an action gets to
another such session, however it ends. What it gives is valid for as many lists as there are
then. -/
def Makes {Result : Type} (base : Heap) (valid : Nat → Result → Prop) (action : Run Result) :
    Prop :=
  ∀ session : Session, session.ClosedSince base →
    Ends action session (fun result after => after.ClosedSince base ∧ valid after.lists result)
      fun _ after => after.ClosedSince base

/-- The session is closed, with the lists of an earlier heap and younger ones. At every visit it was
closed, and its lists were ordered if those of the earlier heap are. -/
structure Watch.ClosedSince (base : Heap) (watch : Watch) : Prop where
  now : watch.session.ClosedSince base
  visits : ∀ visit ∈ watch.visits,
    visit.session.Closed ∧ (base.Ordered → visit.session.world.heap.Ordered)

/-- The same of work under watch. -/
def Grows {Result : Type} (base : Heap) (valid : Nat → Result → Prop) (work : Watched Result) :
    Prop :=
  ∀ watch : Watch, watch.ClosedSince base →
    Ends work watch (fun result after => after.ClosedSince base ∧ valid after.session.lists result)
      fun _ after => after.ClosedSince base

section

variable {First Second : Type} {base : Heap}

/-- Where some lists have been made, work may rely on them from then on. -/
theorem grows_bind {valid : Nat → First → Prop} {goal : Nat → Second → Prop}
    {first : Watched First} {rest : First → Watched Second} (head : Grows base valid first)
    (tail : ∀ middle : Heap, base.Extends middle → ∀ value, valid middle.size value →
      Grows middle goal (rest value)) : Grows base goal (first >>= rest) := by
  intro watch holds
  rw [ends_bind]
  refine (head watch holds).weaken (fun value middle kept => ?_) fun _ _ kept => kept
  obtain ⟨⟨⟨closed, extended⟩, visits⟩, below⟩ := kept
  -- The rest begins with the lists there are now, so that it may rely on what it is given.
  have now : middle.session.ClosedSince middle.session.world.heap :=
    ⟨closed, middle.session.world.heap.extends_refl⟩
  have since : middle.ClosedSince middle.session.world.heap :=
    ⟨now, fun visit member => (visits visit member).imp_right fun ordered later =>
      ordered (extended.ordered_iff.mpr later)⟩
  have sooner {after : Watch} (later : after.ClosedSince middle.session.world.heap) :
      after.ClosedSince base :=
    ⟨⟨later.now.closed, extended.trans later.now.extended⟩, fun visit member =>
      (later.visits visit member).imp_right fun ordered sooner =>
        ordered (extended.ordered_iff.mp sooner)⟩
  exact (tail middle.session.world.heap extended value below middle since).weaken
    (fun _ _ after => ⟨sooner after.1, after.2⟩) fun _ _ after => sooner after

theorem grows_pure {valid : Nat → First → Prop} {value : First}
    (holds : ∀ more ≥ base.size, valid more value) : Grows base valid (pure value) :=
  fun _ kept => ⟨kept, holds _ kept.now.extended.size⟩

theorem grows_value {value : Value} (below : value.Below base.size) :
    Grows base Value.Below (pure value) :=
  grows_pure fun _ le => below.mono le

theorem grows_ask {valid : Nat → First → Prop} {question : Session → First}
    (answer : ∀ session : Session, session.ClosedSince base →
      valid session.lists (question session)) :
    Grows base valid (Machine.ask question : Watched First) :=
  fun _ kept => ⟨kept, answer _ kept.now⟩

/-- All that is made one after another is valid in the end. -/
theorem grows_mapM {Item : Type} {work : Item → Watched Value}
    (each : ∀ base item, Grows base Value.Below (work item)) (items : List Item) :
    Grows base (fun bound values => ∀ value ∈ values, value.Below bound) (items.mapM work) := by
  induction items generalizing base with
  | nil =>
    rw [List.mapM_nil]
    exact grows_pure fun _ _ _ member => nomatch member
  | cons item rest hypothesis =>
    rw [List.mapM_cons]
    refine grows_bind (each base item) fun middle _ first below => ?_
    refine grows_bind hypothesis fun last grown others all => ?_
    refine grows_pure fun more le value member => ?_
    rcases List.mem_cons.mp member with rfl | inside
    · exact below.mono (Nat.le_trans grown.size le)
    · exact (all value inside).mono le

theorem grows_act {valid : Nat → First → Prop} {action : Run First}
    (makes : Makes base valid action) : Grows base valid (Watched.act action) := by
  intro watch holds
  rw [Watched.ends_act]
  exact (makes watch.session holds.now).weaken
    (fun _ _ kept => ⟨⟨kept.1, holds.visits⟩, kept.2⟩) fun _ _ kept => ⟨kept, holds.visits⟩

/-- An action that makes no list and gives nothing that could be one. -/
theorem grows_keeping {condition : First → Prop} {action : Run First}
    (keeps : Keeps (Session.ClosedSince base) condition action) :
    Grows base (fun _ => condition) (Watched.act action) :=
  grows_act keeps

theorem grows_visit (node : Node) : Grows base (fun _ _ => True) (Watched.visit node) := by
  intro watch holds
  rw [Watched.ends_visit]
  refine ⟨⟨holds.now, fun visit member => ?_⟩, trivial⟩
  rcases List.mem_append.mp member with old | new
  · exact holds.visits visit old
  · rw [List.mem_singleton.mp new]
    exact ⟨holds.now.closed, holds.now.extended.ordered_iff.mp⟩

end

/-! ### Actions -/

section

variable {base : Heap}

theorem makes_talking {action : WorldAction Value} (talks : World.Talks action)
    (gives : Gives (fun value => ∀ bound, value.Below bound) action) :
    Makes base Value.Below (Run.onWorld action) := by
  intro session holds
  have ends := (actionInvariant_closedSince base).acts_talking talks session holds
  rw [Run.ends_onWorld] at ends ⊢
  unfold Ends at ends ⊢
  cases ended : action session.world with
  | ok value world =>
    rw [ended] at ends
    exact ⟨ends.1, (gives session.world).of_ok ended _⟩
  | error fault world =>
    rw [ended] at ends
    exact ends.1

/-- An action that makes a list of what exists, if it makes one. -/
theorem makes_settling {action : WorldAction Value}
    (settles : ∀ world : World, world.heap.Closed → base.size ≤ world.heap.size →
      ∃ answer : Answer, answer.Below world.heap.size ∧ action world = World.settle answer world) :
    Makes base Value.Below (Run.onWorld action) := by
  intro session holds
  obtain ⟨answer, below, same⟩ :=
    settles session.world holds.closed.heap holds.extended.size
  rw [Run.ends_onWorld]
  unfold Ends
  rw [same]
  cases answer with
  | value known => exact ⟨holds, below⟩
  | list elements =>
    exact ⟨holds.of_extends (Heap.extends_allocate below), Heap.below_allocate _ _⟩

theorem World.talks_prompt (arguments : List Value) : World.Talks (Builtin.prompt arguments) := by
  unfold Builtin.prompt
  split
  next => exact talks_onOutput _
  next => exact talks_bind (talks_onOutput _) fun _ => talks_onOutput _
  next => exact talks_pure ()

theorem makes_builtin (builtin : Builtin) {arguments : List Value}
    (below : ∀ argument ∈ arguments, argument.Below base.size) :
    Makes base Value.Below (Run.onWorld (builtin.call arguments)) := by
  have answers (builtin : Builtin) : Makes base Value.Below (Run.onWorld (do
      World.settle (builtin.answer (← get).heap arguments))) :=
    makes_settling fun world closed le =>
      ⟨_, Builtin.below_answer closed builtin fun _ member => (below _ member).mono le, rfl⟩
  cases builtin with
  | print =>
    refine makes_talking (fun world => ?_) (gives_bind fun _ => gives_bind fun _ =>
      gives_pure fun _ => trivial)
    exact World.talks_bind (World.talks_onOutput _) (fun _ => World.talks_pure _) world
  | input =>
    refine makes_talking ?_ (gives_bind fun _ => gives_bind fun _ => gives_bind fun _ =>
      gives_pure fun _ => trivial)
    exact World.talks_bind (World.talks_prompt arguments) fun _ =>
      World.talks_bind (World.talks_onOutput _) fun _ =>
        World.talks_bind World.talks_readLine fun _ => World.talks_pure _
  | _ => exact answers _

theorem keeps_openCall (parameters : List Name) {values : List Value}
    (below : ∀ value ∈ values, value.Below base.size) :
    Keeps (Session.ClosedSince base) (fun _ => True) (Run.openCall parameters values) := by
  have fresh {bound : Nat} : Frame.empty.Below bound := fun _ member => nomatch member
  intro session holds
  have entered : session.enter.ClosedSince base :=
    holds.of_frames rfl (holds.closed.frames.enter fresh)
  refine ((actionInvariant_closedSince base).ends_openCall parameters _
    (fun _ value member _ _ defined kept => kept.define (below value member) defined)
    entered).weaken ?_ fun _ _ cut => cut.1
  rintro _ _ ⟨inside, held, rfl⟩
  exact ⟨held.of_frames rfl held.closed.frames, trivial⟩

/-- What a statement returns is one of the first so many lists, if it is a list. -/
def Flow.Below (bound : Nat) : Flow → Prop
  | .returns value => value.Below bound
  | .done | .breaks | .continues => True

theorem Flow.below_result {flow : Flow} {bound : Nat} (below : flow.Below bound) :
    flow.result.Below bound := by
  cases flow with
  | returns value => exact below
  | done => trivial
  | breaks => trivial
  | continues => trivial

theorem grows_inCall (parameters : List Name) {values : List Value} {work : Watched Flow}
    (below : ∀ value ∈ values, value.Below base.size)
    (body : ∀ base, Grows base Flow.Below work) :
    Grows base Flow.Below (Watched.inCall parameters values work) := by
  refine grows_bind (grows_keeping (keeps_openCall parameters below)) fun middle _ _ _ => ?_
  have left {after : Watch} (holds : after.ClosedSince middle) :
      Watch.ClosedSince middle { after with session := after.session.leave } :=
    ⟨holds.now.of_frames rfl holds.now.closed.frames.leave, holds.visits⟩
  intro watch holds
  rw [Watched.ends_closing]
  exact (body middle watch holds).weaken (fun flow after kept => ⟨left kept.1, kept.2⟩)
    fun _ after kept => left kept

end

/-! ### Evaluation -/

namespace Machine

variable {base : Heap}

theorem grows_forEach {body : Value → Watched Flow}
    (each : ∀ base value, value.Below base.size → Grows base Flow.Below (body value))
    {values : List Value} (below : ∀ value ∈ values, value.Below base.size) :
    Grows base Flow.Below (forEach body values) := by
  induction values generalizing base with
  | nil => exact grows_pure fun _ _ => trivial
  | cons value rest hypothesis =>
    refine grows_bind (each base value (below value List.mem_cons_self))
      fun middle grown flow returned => ?_
    have others : ∀ value ∈ rest, value.Below middle.size := fun other member =>
      (below other (List.mem_cons_of_mem _ member)).mono grown.size
    cases flow with
    | done => exact hypothesis others
    | continues => exact hypothesis others
    | breaks => exact grows_pure fun _ _ => trivial
    | returns result => exact grows_pure fun _ le => Value.Below.mono returned le

theorem grows_whileTrue {test : Watched Bool} {body : Watched Flow}
    (tests : ∀ base, Grows base (fun _ _ => True) test)
    (bodies : ∀ base, Grows base Flow.Below body) (rounds : Nat) :
    Grows base Flow.Below (whileTrue test body rounds) := by
  induction rounds generalizing base with
  | zero => exact fun _ kept => kept
  | succ rounds hypothesis =>
    refine grows_bind (tests base) fun middle _ holds _ => ?_
    cases holds with
    | false => exact grows_pure fun _ _ => trivial
    | true =>
      refine grows_bind (bodies middle) fun later _ flow returned => ?_
      cases flow with
      | done => exact hypothesis
      | continues => exact hypothesis
      | breaks => exact grows_pure fun _ _ => trivial
      | returns result => exact grows_pure fun _ le => Value.Below.mono returned le

theorem grows_follow {test : Expr → Watched Bool} {run : Stmt → Watched Flow}
    (tests : ∀ base condition, Grows base (fun _ _ => True) (test condition))
    (runs : ∀ base body, Grows base Flow.Below (run body)) :
    ∀ (branches : Branches) (base : Heap), Grows base Flow.Below (follow test run branches)
  | .arm condition body others, base => by
    refine grows_bind (tests base condition) fun middle _ holds _ => ?_
    cases holds with
    | true => exact runs middle body
    | false => exact grows_follow tests runs others middle
  | .otherwise body, base => runs base body
  | .done, _ => grows_pure fun _ _ => trivial

/-- One level of an expression, if the levels below it only make lists. -/
theorem grows_evaluate_step {limits : Limits} {fuel : Nat}
    (expressions : ∀ base expr, Grows base Value.Below (evaluate limits fuel expr : Watched Value))
    (statements : ∀ base statement,
      Grows base Flow.Below (execute limits fuel statement : Watched Flow))
    (expr : Expr) : Grows base Value.Below (evaluate limits (fuel + 1) expr : Watched Value) := by
  simp only [evaluate]
  refine grows_bind (grows_visit (.expr expr)) fun base _ _ _ => ?_
  cases expr with
  | number span value => exact grows_value trivial
  | string span text => exact grows_value trivial
  | name span name => exact grows_ask fun _ holds => holds.closed.below_lookup name
  | binary span operator left right =>
    exact grows_bind (expressions base left) fun middle _ _ _ =>
      grows_bind (expressions middle right) fun _ _ _ _ =>
        grows_ask fun _ _ => operator.below_apply _ _ _ _
  | unary span operator operand =>
    exact grows_bind (expressions base operand) fun _ _ _ _ =>
      grows_value (operator.below_apply _ _)
  | call span name arguments =>
    dsimp only
    cases Builtin.ofName? name with
    | some builtin =>
      exact grows_bind (grows_mapM expressions arguments) fun _ _ _ below =>
        grows_act (makes_builtin builtin below)
    | none =>
      refine grows_bind (grows_keeping ((actionInvariant_closedSince base).acts_callee
        limits span name arguments.length).keeps) fun middle _ found _ => ?_
      cases found with
      | none => exact grows_value trivial
      | some function =>
        refine grows_bind (grows_mapM expressions arguments) fun later _ values below => ?_
        refine grows_bind (grows_inCall function.parameters below fun base =>
          statements base function.body) fun _ _ flow returned => ?_
        exact grows_value (Flow.below_result returned)
  | paren span inner => exact expressions base inner
  | list span items =>
    refine grows_bind (grows_mapM expressions items) fun middle _ values below => ?_
    exact grows_act (makes_settling fun _ _ le =>
      ⟨.list values, fun _ member => (below _ member).mono le, rfl⟩)
  | subscript span target index =>
    exact grows_bind (expressions base target) fun middle _ _ _ =>
      grows_bind (expressions middle index) fun _ _ _ _ =>
        grows_ask fun _ holds => Heap.below_subscript holds.closed.heap _ _

/-- One level of a statement, if the levels below it only make lists. -/
theorem grows_execute_step {limits : Limits} {fuel : Nat}
    (expressions : ∀ base expr, Grows base Value.Below (evaluate limits fuel expr : Watched Value))
    (statements : ∀ base statement,
      Grows base Flow.Below (execute limits fuel statement : Watched Flow))
    (statement : Stmt) :
    Grows base Flow.Below (execute limits (fuel + 1) statement : Watched Flow) := by
  have test (base : Heap) (condition : Expr) : Grows base (fun _ _ => True) (do
      isTruthy (← evaluate limits fuel condition) : Watched Bool) :=
    grows_bind (expressions base condition) fun _ _ _ _ => grows_ask fun _ _ => trivial
  have binds {base : Heap} (name : Name) {value : Value} (below : value.Below base.size) :
      Grows base (fun _ _ => True) (Watched.act (Run.bind name value)) :=
    grows_keeping ((actionInvariant_closedSince base).acts_bindName
      fun defined holds => holds.define below defined).keeps
  simp only [execute]
  refine grows_bind (grows_visit (.statement statement)) fun base _ _ _ => ?_
  refine grows_bind (grows_keeping (keeps_tick (fun _ holds =>
    holds.of_frames rfl holds.closed.frames) limits statement.span)) fun base _ _ _ => ?_
  cases statement with
  | expr value =>
    exact grows_bind (expressions base value) fun _ _ _ _ => grows_pure fun _ _ => trivial
  | returns span result =>
    cases result with
    | none => exact grows_pure fun _ _ => trivial
    | some value =>
      exact grows_bind (expressions base value) fun _ _ _ below =>
        grows_pure fun _ le => Value.Below.mono below le
  | define span name parameters body =>
    exact grows_bind (grows_keeping
      ((actionInvariant_closedSince base).acts_register trivial).keeps) fun _ _ _ _ =>
        grows_pure fun _ _ => trivial
  | assign span name value =>
    exact grows_bind (expressions base value) fun _ _ _ below =>
      grows_bind (binds name below) fun _ _ _ _ => grows_pure fun _ _ => trivial
  | forLoop span name iterable body =>
    refine grows_bind (expressions base iterable) fun middle _ value _ => ?_
    cases value with
    | list handle =>
      have elements : Grows middle (fun bound values => ∀ value ∈ values, value.Below bound)
          (ask fun session => session.world.heap.items handle : Watched (List Value)) :=
        grows_ask fun _ holds => holds.closed.heap handle
      exact grows_bind elements fun later _ values below => grows_forEach (fun _ _ valid =>
        grows_bind (binds name valid) fun inner _ _ _ => statements inner body) below
    | none => exact grows_pure fun _ _ => trivial
    | int number => exact grows_pure fun _ _ => trivial
    | str text => exact grows_pure fun _ _ => trivial
  | branch span condition body others =>
    exact grows_follow test statements (.arm condition body others) base
  | whileLoop span condition body =>
    exact grows_whileTrue (fun base => test base condition) (fun base => statements base body) fuel
  | pass span => exact grows_pure fun _ _ => trivial
  | breaks span => exact grows_pure fun _ _ => trivial
  | continues span => exact grows_pure fun _ _ => trivial
  | imports span name =>
    exact grows_bind (grows_keeping ((actionInvariant_closedSince base).acts_note rfl).keeps)
      fun _ _ _ _ => grows_pure fun _ _ => trivial

/-- No expression and no statement changes a list. -/
theorem grows_evaluate_execute (limits : Limits) (fuel : Nat) :
    (∀ base expr, Grows base Value.Below (evaluate limits fuel expr : Watched Value)) ∧
    ∀ base statement, Grows base Flow.Below (execute limits fuel statement : Watched Flow) := by
  induction fuel with
  | zero =>
    constructor
    · intro base expr
      rw [evaluate]
      exact fun _ kept => kept
    · intro base statement
      rw [execute]
      exact fun _ kept => kept
  | succ fuel hypothesis =>
    exact ⟨fun _ => grows_evaluate_step hypothesis.1 hypothesis.2,
      fun _ => grows_execute_step hypothesis.1 hypothesis.2⟩

theorem grows_executeAll (limits : Limits) (fuel : Nat) (statements : List Stmt) :
    Grows base (fun _ _ => True) (executeAll limits fuel statements : Watched Unit) := by
  induction statements generalizing base with
  | nil => exact grows_pure fun _ _ => trivial
  | cons statement rest hypothesis =>
    refine grows_bind ((grows_evaluate_execute limits fuel).2 base statement)
      fun middle _ flow _ => ?_
    cases flow with
    | done => exact hypothesis
    | continues => exact grows_pure fun _ _ => trivial
    | breaks => exact grows_pure fun _ _ => trivial
    | returns result => exact grows_pure fun _ _ => trivial

end Machine

/-- What only makes lists under watch does so in the plain run. -/
theorem keeps_of_grows {Result : Type} {valid : Nat → Result → Prop} {watched : Watched Result}
    {run : Run Result} {base : Heap} (grows : Grows base valid watched)
    (same : ∀ watch, Watched.forget (watched watch) = run watch.session) :
    Keeps (Session.ClosedSince base) (fun _ => True) run := by
  intro session holds
  have start : Watch.ClosedSince base ⟨session, []⟩ :=
    ⟨holds, fun _ member => absurd member List.not_mem_nil⟩
  exact Watched.ends_of_forget same ((grows ⟨session, []⟩ start).weaken
    (fun _ _ kept => ⟨kept.1.now, trivial⟩) fun _ _ kept => kept.now)

end Scriptling
