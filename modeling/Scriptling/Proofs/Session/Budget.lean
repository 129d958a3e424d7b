/-
This file proves that the budget of statements is exact and otherwise invisible.
Two runs are compared that differ in their budgets only. As long as the first one
has budget left they do the same. When it has none left it is cut short at the
next statement that it comes to, while the second one begins that statement and
goes on from there; and then it only adds to what has been written and begun.

The record of the statements that a run comes to is made apart from the count of
those that have begun. That the two agree is the invariant of all this.
-/

import Scriptling.Proofs.Session.Fatal
import Scriptling.Proofs.Session.Fuel
import Scriptling.Proofs.Session.Unfailing

namespace Scriptling

/-! ### Watched runs and their budget -/

namespace Watch

/-- The statements that have been come to, in order. -/
def arrivals (watch : Watch) : List Stmt :=
  watch.visits.filterMap Visit.statement?

/-- On streams that refuse nothing, the run has come to no more statements than the budget allows,
and the session has counted each of them. -/
structure InBudget (budget : Nat) (watch : Watch) : Prop where
  unfailing : watch.session.world.streams.Unfailing
  counted : watch.session.steps = watch.arrivals.length
  within : watch.arrivals.length ≤ budget

/-- What has been written and come to stays, and something may have been added. -/
structure Continues (earlier later : Watch) : Prop where
  streams : earlier.session.world.streams.Continues later.session.world.streams
  arrivals : earlier.arrivals <+: later.arrivals

/-- Just as many statements as the budget allows have been begun, and the run has come to the next
one, which stands in the given place. -/
def Overdrawn (budget : Nat) (span : Span) (watch : Watch) : Prop :=
  ∃ begun next, watch.arrivals = begun ++ [next] ∧ begun.length = budget ∧ next.span = span

theorem continues_of_session {watch : Watch} {session : Session}
    (continues : watch.session.world.streams.Continues session.world.streams) :
    watch.Continues { watch with session } :=
  ⟨continues, List.prefix_rfl⟩

theorem Continues.trans {first second third : Watch} (head : first.Continues second)
    (tail : second.Continues third) : first.Continues third :=
  ⟨head.streams.trans tail.streams, head.arrivals.trans tail.arrivals⟩

theorem arrivals_statement (watch : Watch) (statement : Stmt) (session : Session) :
    arrivals ⟨session, watch.visits ++ [⟨.statement statement, watch.session⟩]⟩ =
      watch.arrivals ++ [statement] :=
  List.filterMap_append

theorem arrivals_expr (watch : Watch) (expr : Expr) :
    arrivals { watch with visits := watch.visits ++ [⟨.expr expr, watch.session⟩] } =
      watch.arrivals := by
  unfold arrivals
  rw [List.filterMap_append]
  exact List.append_nil _

end Watch

namespace Watched

variable {Result : Type}

theorem stateAfter_closing (work : Watched Result) (watch : Watch) :
    stateAfter (closing work) watch =
      let after := stateAfter work watch
      { after with session := after.session.leave } := by
  unfold closing stateAfter
  dsimp only
  cases work watch with
  | ok result after => rfl
  | error abort after => rfl

section

variable {limits : Limits} (statement : Stmt) {watch : Watch}

/-- A statement begins if there is budget left. -/
theorem opening_eq_ok (left : ∀ most ∈ limits.steps, watch.session.steps < most) :
    (Machine.opening limits statement : Watched Unit) watch =
      .ok () ⟨{ watch.session with steps := watch.session.steps + 1 },
        watch.visits ++ [⟨.statement statement, watch.session⟩]⟩ := by
  let arrived : Watch :=
    { watch with visits := watch.visits ++ [⟨.statement statement, watch.session⟩] }
  show act (Run.tick limits statement.span) arrived = _
  unfold act
  rw [Run.tick_eq_ok left]

/-- A statement that is come to does not begin if the budget is used up. -/
theorem opening_eq_error {most : Nat} (limited : limits.steps = some most)
    (spent : most ≤ watch.session.steps) :
    (Machine.opening limits statement : Watched Unit) watch =
      .error (.stepLimit most statement.span)
        ⟨{ watch.session with steps := watch.session.steps + 1 },
          watch.visits ++ [⟨.statement statement, watch.session⟩]⟩ := by
  let arrived : Watch :=
    { watch with visits := watch.visits ++ [⟨.statement statement, watch.session⟩] }
  show act (Run.tick limits statement.span) arrived = _
  unfold act
  rw [Run.tick_eq_error limited spent]

end

/-! ### Work that only adds -/

/-- Where the streams refuse nothing, some work only adds to what has been written and come to. -/
def Adds (condition : Result → Prop) (work : Watched Result) : Prop :=
  ∀ watch : Watch, watch.session.world.streams.Unfailing →
    Ends work watch (fun result after => watch.Continues after ∧ condition result)
      fun _ after => watch.Continues after

theorem adds_pure {condition : Result → Prop} {value : Result} (holds : condition value) :
    Adds condition (pure value) :=
  fun _ unfailing => ⟨Watch.continues_of_session (Streams.continues_refl unfailing), holds⟩

theorem adds_bind {First Second : Type} {condition : First → Prop} {goal : Second → Prop}
    {first : Watched First} {rest : First → Watched Second} (head : Adds condition first)
    (tail : ∀ value, condition value → Adds goal (rest value)) : Adds goal (first >>= rest) := by
  intro watch unfailing
  rw [ends_bind]
  refine (head watch unfailing).weaken ?_ fun _ _ continues => continues
  rintro value middle ⟨before, holds⟩
  exact (tail value holds middle before.streams.unfailing).weaken
    (fun _ _ later => ⟨before.trans later.1, later.2⟩) fun _ _ later => before.trans later

theorem adds_act {condition : Result → Prop} {action : Run Result}
    (smooth : Smooth condition action) : Adds condition (act action) := by
  intro watch unfailing
  rw [ends_act]
  refine (smooth watch.session unfailing).weaken ?_ fun _ _ failed => failed.elim
  rintro result after ⟨continues, -, holds⟩
  exact ⟨Watch.continues_of_session continues, holds⟩

theorem adds_visit (expr : Expr) : Adds (fun _ => True) (visit (.expr expr)) := by
  intro watch unfailing
  rw [ends_visit]
  have same := watch.arrivals_expr expr
  exact ⟨⟨Streams.continues_refl unfailing, same ▸ List.prefix_rfl⟩, trivial⟩

theorem adds_closing {work : Watched Result} (adds : Adds (fun _ => True) work) :
    Adds (fun _ => True) (closing work) := by
  intro watch unfailing
  rw [ends_closing]
  exact (adds watch unfailing).weaken
    (fun _ _ continues => ⟨⟨continues.1.streams, continues.1.arrivals⟩, trivial⟩)
    fun _ _ continues => ⟨continues.streams, continues.arrivals⟩

theorem adds_inCall {work : Watched Result} (adds : Adds (fun _ => True) work)
    (parameters : List Name) (values : List Value) :
    Adds (fun _ => True) (inCall parameters values work) :=
  adds_bind (adds_act (Run.smooth_openCall parameters values)) fun _ _ => adds_closing adds

theorem adds_opening (limits : Limits) (statement : Stmt) :
    Adds (fun _ => True) (Machine.opening limits statement : Watched Unit) := by
  intro watch unfailing
  unfold Ends
  have added (session : Session) : watch.arrivals <+:
      Watch.arrivals ⟨session, watch.visits ++ [⟨.statement statement, watch.session⟩]⟩ := by
    rw [watch.arrivals_statement statement session]
    exact List.prefix_append _ _
  by_cases left : ∀ most ∈ limits.steps, watch.session.steps < most
  · rw [opening_eq_ok statement left]
    exact ⟨⟨Streams.continues_refl unfailing, added _⟩, trivial⟩
  · cases limited : limits.steps with
    | none =>
      rw [limited] at left
      exact absurd (fun _ member => nomatch member) left
    | some most =>
      rw [limited] at left
      have spent : most ≤ watch.session.steps :=
        Nat.not_lt.mp fun less => left fun _ same => Option.some.inj same ▸ less
      rw [opening_eq_error statement limited spent]
      exact ⟨Streams.continues_refl unfailing, added _⟩

/-- Each piece of work belongs with itself if it only adds. -/
def adding : Coupling Watched Watched where
  holds condition work _ := Adds condition work
  pure _ := adds_pure
  bind := adds_bind

/-- A call is looked up alike, whatever is known of functions. -/
theorem smooth_callee_known (limits : Limits) (span : Span) (name : Name) (given : Nat) :
    Smooth (fun found : Option Function => ∀ function ∈ found, True)
      (Run.callee limits span name given) := fun session unfailing =>
  (Run.smooth_callee limits span name given session unfailing).weaken
    (fun _ _ after => ⟨after.1, after.2.1, fun _ _ => trivial⟩) fun _ _ failed => failed

theorem coupled_adding (limits : Limits) :
    Coupled (fun _ => True) limits limits 0 adding adding where
  widen := id
  exhausted _ _ := fun _ unfailing =>
    Watch.continues_of_session (Streams.continues_refl unfailing)
  ask question := adds_act (Run.smooth_ask fun session =>
    question session.locals session.globals session.world.heap)
  visit := adds_visit
  builtin builtin values := adds_act (Run.smooth_onWorld (builtin.smooth_call values))
  settle answer := adds_act (Run.smooth_onWorld (World.smooth_settle answer))
  callee span name given := adds_act (smooth_callee_known limits span name given)
  inCall function values _ adds := adds_inCall adds function.parameters values
  opening := adds_opening limits
  bind name value := adds_act (Run.smooth_bindName name value)
  register function _ := adds_act (Run.smooth_register function)
  ignore _ := adds_act (Run.smooth_note _)

theorem adds_executeAll (limits : Limits) (fuel : Nat) (statements : List Stmt) :
    Adds (fun _ => True) (Machine.executeAll limits fuel statements : Watched Unit) :=
  (coupled_adding limits).executeAll
    (fun function _ => function.body.eachFunction_of_forall fun _ => trivial) fuel statements
      fun statement _ => statement.eachFunction_of_forall fun _ => trivial

/-! ### Work on two budgets -/

/-- How the second work ends when the first one is cut short. If that is for the budget, the second
one goes on from there; for anything else it is cut short in the same way. -/
inductive CutShort (budget : Nat) (second : Watched Result) (watch : Watch) :
    Abort → Watch → Prop
  | spent {span : Span} {after : Watch} (overdrawn : after.Overdrawn budget span)
    (goesOn : after.Continues (stateAfter second watch)) :
    CutShort budget second watch (.stepLimit budget span) after
  | alike {abort : Abort} {after : Watch} (other : ∀ limit span, abort ≠ .stepLimit limit span)
    (same : second watch = .error abort after) (still : after.InBudget budget) :
    CutShort budget second watch abort after

theorem CutShort.of_eq {budget : Nat} {second other : Watched Result} {watch start after : Watch}
    {abort : Abort} (cut : CutShort budget second watch abort after)
    (same : other start = second watch) : CutShort budget other start abort after := by
  cases cut with
  | spent overdrawn goesOn => exact .spent overdrawn (stateAfter_congr same ▸ goesOn)
  | alike differs ended still => exact .alike differs (same.trans ended) still

theorem CutShort.of_stepLimit {budget limit : Nat} {second : Watched Result} {watch after : Watch}
    {span : Span} (cut : CutShort budget second watch (.stepLimit limit span) after) :
    limit = budget ∧ after.Overdrawn budget span ∧ after.Continues (stateAfter second watch) := by
  cases cut with
  | spent overdrawn goesOn => exact ⟨rfl, overdrawn, goesOn⟩
  | alike other => exact absurd rfl (other limit span)

/-- The first work has a budget and the second one a larger budget. They do the same until that
of the first one is used up, and whatever the second one does, it adds to what there is. -/
structure Budgeted (budget : Nat) (condition : Result → Prop) (first second : Watched Result) :
    Prop where
  limited (watch : Watch) : watch.InBudget budget →
    Ends first watch (fun result after =>
      second watch = .ok result after ∧ after.InBudget budget ∧ condition result)
      (CutShort budget second watch)
  adds : Adds condition second

/-- Work that its budget does not cut short is the same on the larger one. -/
theorem Budgeted.same_of_uncut {budget : Nat} {condition : Result → Prop}
    {first second : Watched Result} (budgeted : Budgeted budget condition first second)
    {watch : Watch} (fine : watch.InBudget budget)
    (uncut : ∀ limit span after, first watch ≠ .error (.stepLimit limit span) after) :
    second watch = first watch ∧ (stateAfter first watch).InBudget budget := by
  have limited := budgeted.limited watch fine
  cases ended : first watch with
  | ok result after =>
    obtain ⟨same, still, -⟩ := limited.of_ok ended
    exact ⟨same, stateAfter_of_ok ended ▸ still⟩
  | error abort after =>
    cases limited.of_error ended with
    | spent => exact absurd ended (uncut budget _ after)
    | alike _ same still => exact ⟨same, stateAfter_of_error ended ▸ still⟩

section

variable {budget : Nat}

theorem budgeted_pure {condition : Result → Prop} {value : Result} (holds : condition value) :
    Budgeted budget condition (pure value) (pure value) where
  limited _ fine := ⟨rfl, fine, holds⟩
  adds := adds_pure holds

theorem budgeted_bind {First Second : Type} {condition : First → Prop} {goal : Second → Prop}
    {first second : Watched First} {firstRest secondRest : First → Watched Second}
    (head : Budgeted budget condition first second)
    (tail : ∀ value, condition value → Budgeted budget goal (firstRest value) (secondRest value)) :
    Budgeted budget goal (first >>= firstRest) (second >>= secondRest) where
  limited watch fine := by
    rw [ends_bind]
    refine (head.limited watch fine).weaken ?_ ?_
    · rintro value middle ⟨same, still, holds⟩
      have whole : (second >>= secondRest) watch = secondRest value middle := bind_of_ok same
      exact ((tail value holds).limited middle still).weaken
        (fun _ _ kept => ⟨whole.trans kept.1, kept.2⟩) fun _ _ cut => cut.of_eq whole
    · intro abort middle cut
      cases cut with
      | alike other same still => exact .alike other (bind_of_error same) still
      | spent overdrawn goesOn =>
        refine .spent overdrawn ?_
        have before := head.adds watch fine.unfailing
        cases ended : second watch with
        | error abort last =>
          rw [stateAfter_of_error ended] at goesOn
          rw [stateAfter_of_error (bind_of_error ended)]
          exact goesOn
        | ok value last =>
          rw [stateAfter_of_ok ended] at goesOn
          obtain ⟨continues, holds⟩ := before.of_ok ended
          have rest := (tail value holds).adds last continues.streams.unfailing
          have added : last.Continues (stateAfter (secondRest value) last) :=
            (rest.weaken (fun _ _ kept => kept.1) fun _ _ kept => kept).stateAfter
          have later := goesOn.trans added
          unfold stateAfter at later ⊢
          rw [bind_of_ok ended]
          exact later
  adds := adds_bind head.adds fun value holds => (tail value holds).adds

/-- An action that goes through leaves the budget alone. -/
theorem budgeted_act {condition : Result → Prop} {action : Run Result}
    (smooth : Smooth condition action) : Budgeted budget condition (act action) (act action) where
  limited watch fine := by
    rw [ends_act]
    refine (smooth watch.session fine.unfailing).withEnd.weaken ?_ fun _ _ failed => failed.2.elim
    rintro result after ⟨ended, continues, counted, holds⟩
    refine ⟨?_, ⟨continues.unfailing, counted.trans fine.counted, fine.within⟩, holds⟩
    unfold act
    rw [ended]
  adds := adds_act smooth

theorem budgeted_visit (expr : Expr) :
    Budgeted budget (fun _ => True) (visit (.expr expr)) (visit (.expr expr)) where
  limited watch fine := by
    rw [ends_visit]
    refine ⟨rfl, ⟨fine.unfailing, ?_, ?_⟩, trivial⟩
    · rw [watch.arrivals_expr expr]
      exact fine.counted
    · rw [watch.arrivals_expr expr]
      exact fine.within
  adds := adds_visit expr

theorem budgeted_closing {first second : Watched Result}
    (paired : Budgeted budget (fun _ => True) first second) :
    Budgeted budget (fun _ => True) (closing first) (closing second) where
  limited watch fine := by
    rw [ends_closing]
    refine (paired.limited watch fine).weaken ?_ ?_
    · rintro result after ⟨same, still, -⟩
      refine ⟨?_, ⟨still.unfailing, still.counted, still.within⟩, trivial⟩
      unfold closing
      rw [same]
    · intro abort after cut
      cases cut with
      | spent overdrawn goesOn =>
        refine .spent overdrawn ?_
        rw [stateAfter_closing]
        exact ⟨goesOn.streams, goesOn.arrivals⟩
      | alike other same still =>
        refine .alike other ?_ ⟨still.unfailing, still.counted, still.within⟩
        unfold closing
        rw [same]
  adds := adds_closing paired.adds

theorem budgeted_inCall {first second : Watched Result}
    (paired : Budgeted budget (fun _ => True) first second) (parameters : List Name)
    (values : List Value) :
    Budgeted budget (fun _ => True) (inCall parameters values first)
      (inCall parameters values second) :=
  budgeted_bind (budgeted_act (Run.smooth_openCall parameters values))
    fun _ _ => budgeted_closing paired

/-- The first statement that is over the budget is where the two part. -/
theorem budgeted_opening {callDepth : Nat} {larger : Option Nat}
    (more : ∀ most ∈ larger, budget < most) (statement : Stmt) :
    Budgeted budget (fun _ => True) (Machine.opening ⟨callDepth, some budget⟩ statement)
      (Machine.opening ⟨callDepth, larger⟩ statement) where
  limited watch fine := by
    have counted := fine.counted
    have within := fine.within
    have leftOfLarger : ∀ most ∈ (⟨callDepth, larger⟩ : Limits).steps,
        watch.session.steps < most := fun most member =>
      Nat.lt_of_le_of_lt (counted ▸ within) (more most member)
    have goesOn := opening_eq_ok statement leftOfLarger
    unfold Ends
    by_cases left : watch.session.steps < budget
    · have leftOfBudget : ∀ most ∈ (⟨callDepth, some budget⟩ : Limits).steps,
          watch.session.steps < most := fun most same => Option.some.inj same ▸ left
      rw [opening_eq_ok statement leftOfBudget]
      refine ⟨goesOn, ⟨fine.unfailing, ?_, ?_⟩, trivial⟩
      · rw [Watch.arrivals_statement, List.length_append, ← counted]
        rfl
      · rw [Watch.arrivals_statement, List.length_append, ← counted]
        exact left
    · have spent : budget ≤ watch.session.steps := Nat.not_lt.mp left
      have limited : (⟨callDepth, some budget⟩ : Limits).steps = some budget := rfl
      rw [opening_eq_error statement limited spent]
      refine .spent ⟨watch.arrivals, statement, Watch.arrivals_statement .., ?_, rfl⟩ ?_
      · exact Nat.le_antisymm within (counted ▸ spent)
      · rw [stateAfter_of_ok goesOn]
        exact ⟨Streams.continues_refl fine.unfailing, List.prefix_rfl⟩
  adds := adds_opening _ statement

/-- Work on a budget belongs with the same work on a larger one. -/
def budgeting (budget : Nat) : Coupling Watched Watched where
  holds := Budgeted budget
  pure _ := budgeted_pure
  bind := budgeted_bind

theorem coupled_budgeting {callDepth : Nat} {larger : Option Nat}
    (more : ∀ most ∈ larger, budget < most) :
    Coupled (fun _ => True) ⟨callDepth, some budget⟩ ⟨callDepth, larger⟩ 0 (budgeting budget)
      (budgeting budget) where
  widen := id
  exhausted _ same := by
    rw [same rfl]
    exact ⟨fun _ fine => .alike (fun _ _ => Abort.noConfusion) rfl fine, fun _ unfailing =>
      Watch.continues_of_session (Streams.continues_refl unfailing)⟩
  ask question := budgeted_act (Run.smooth_ask fun session =>
    question session.locals session.globals session.world.heap)
  visit := budgeted_visit
  builtin builtin values := budgeted_act (Run.smooth_onWorld (builtin.smooth_call values))
  settle answer := budgeted_act (Run.smooth_onWorld (World.smooth_settle answer))
  callee span name given := budgeted_act (smooth_callee_known ⟨callDepth, larger⟩ span name given)
  inCall function values _ paired := budgeted_inCall paired function.parameters values
  opening := budgeted_opening more
  bind name value := budgeted_act (Run.smooth_bindName name value)
  register function _ := budgeted_act (Run.smooth_register function)
  ignore _ := budgeted_act (Run.smooth_note _)

theorem budgeted_executeAll (callDepth : Nat) {larger : Option Nat}
    (more : ∀ most ∈ larger, budget < most) (fuel : Nat) (statements : List Stmt) :
    Budgeted budget (fun _ => True)
      (Machine.executeAll ⟨callDepth, some budget⟩ fuel statements : Watched Unit)
      (Machine.executeAll ⟨callDepth, larger⟩ fuel statements) :=
  (coupled_budgeting more).executeAll
    (fun function _ => function.body.eachFunction_of_forall fun _ => trivial) fuel statements
      fun statement _ => statement.eachFunction_of_forall fun _ => trivial

end

end Watched

/-! ### Whole runs -/

/-- A watched run and the plain one leave the same session. -/
theorem Watched.session_stateAfter {Result : Type} {watched : Watched Result} {run : Run Result}
    (same : ∀ watch, forget (watched watch) = run watch.session) (session : Session) :
    (stateAfter watched ⟨session, []⟩).session = stateAfter run session := by
  have plain := same ⟨session, []⟩
  unfold stateAfter
  dsimp only at plain
  rw [← plain]
  cases watched ⟨session, []⟩ with
  | ok result after => rfl
  | error abort after => rfl

/-- Where the plain run is cut short, the watched one is. -/
theorem Watched.error_of_forget {Result : Type} {watched : Watched Result} {run : Run Result}
    (same : ∀ watch, forget (watched watch) = run watch.session) {session after : Session}
    {abort : Abort} (cut : run session = .error abort after) :
    ∃ watch, watched ⟨session, []⟩ = .error abort watch ∧ watch.session = after := by
  have plain := same ⟨session, []⟩
  dsimp only at plain
  rw [cut] at plain
  cases ended : watched ⟨session, []⟩ with
  | ok result watch =>
    rw [ended] at plain
    cases plain
  | error other watch =>
    rw [ended] at plain
    cases plain
    exact ⟨watch, rfl, rfl⟩

namespace Run

/-- The statements that a run of a program comes to, in order. -/
def arrivals (limits : Limits) (fuel : Nat) (program : Program) (session : Session) :
    List Stmt :=
  (Watched.visits (Machine.executeAll limits fuel program.items)
    (stateAfter (prepare program) session)).filterMap Visit.statement?

/-- The statements that a run of a program begins, in order. Those are all that it comes to, but for
the one at which its budget cuts it short. -/
def begun (limits : Limits) (fuel : Nat) (program : Program) (session : Session) : List Stmt :=
  match Run.program limits fuel program session with
  | .error (.stepLimit _ _) _ => (arrivals limits fuel program session).dropLast
  | _ => arrivals limits fuel program session

section

variable {limits : Limits} {fuel : Nat} {program : Program} {session : Session}

theorem begun_of_uncut (uncut : ∀ limit span after,
    Run.program limits fuel program session ≠ .error (.stepLimit limit span) after) :
    begun limits fuel program session = arrivals limits fuel program session := by
  unfold begun
  split
  next cut => exact absurd cut (uncut _ _ _)
  next => rfl

theorem begun_of_cut {limit : Nat} {span : Span} {after : Session}
    (cut : Run.program limits fuel program session = .error (.stepLimit limit span) after) :
    begun limits fuel program session = (arrivals limits fuel program session).dropLast := by
  unfold begun
  rw [cut]

end

/-- What is done before a program is executed cannot fail, and no statement has been counted when
it is done. -/
theorem ends_prepare (program : Program) {session : Session}
    (unfailing : session.world.streams.Unfailing) :
    Ends (prepare program) session
      (fun _ start => start.world.streams.Unfailing ∧ start.steps = 0) fun _ _ => False := by
  let counting : Session :=
    { session with log := session.log.push (.running program.items.length), steps := 0 }
  have registers : Ends (prepare program) session _ _ :=
    smooth_registerAll program.functions counting unfailing
  exact registers.weaken (fun _ _ after => ⟨after.1.unfailing, after.2.1⟩) fun _ _ failed => failed

section

variable {Result : Type} {run : Run Result} {session after : Session}

/-- The end of a run that has gone through. -/
theorem finished_of_ok {result : Result} (through : run session = .ok result after)
    (unfailing : after.world.streams.Unfailing) :
    ∃ last, finished run session = .ok result last ∧
      last.world.streams.out.written = after.world.streams.out.written ∧
      last.world.streams.err.written.bytes = after.world.streams.err.written.bytes := by
  have ends := ends_finish none unfailing
  unfold Ends at ends
  unfold finished
  rw [through]
  cases ended : finish none after with
  | error abort last =>
    rw [ended] at ends
    exact ends.elim
  | ok _ last =>
    rw [ended] at ends
    refine ⟨last, bind_of_ok ended, ends.1, ?_⟩
    rw [ends.2]
    exact List.append_nil _

/-- The end of a run that was cut short. -/
theorem finished_of_error {abort : Abort} (cut : run session = .error abort after)
    (unfailing : after.world.streams.Unfailing) :
    ∃ last, finished run session = .error abort last ∧
      last.world.streams.out.written = after.world.streams.out.written ∧
      last.world.streams.err.written.bytes = after.world.streams.err.written.bytes ++
        (abort.diagnostic?.elim [] fun diagnostic =>
          encode diagnostic.render ++ [Byte.newline]) := by
  have ends := ends_finish (some abort) unfailing
  unfold Ends at ends
  unfold finished
  rw [cut]
  cases ended : finish (some abort) after with
  | error _ last =>
    rw [ended] at ends
    exact ends.elim
  | ok _ last =>
    rw [ended] at ends
    exact ⟨last, bind_of_ok ended, ends.1, ends.2⟩

/-- A run with its end is cut short by what cut short the run. -/
theorem error_of_finished {abort : Abort}
    (unfailing : (stateAfter run session).world.streams.Unfailing)
    (cut : finished run session = .error abort after) :
    ∃ middle, run session = .error abort middle ∧
      after.world.streams.out.written = middle.world.streams.out.written ∧
      after.world.streams.err.written.bytes = middle.world.streams.err.written.bytes ++
        (abort.diagnostic?.elim [] fun diagnostic =>
          encode diagnostic.render ++ [Byte.newline]) := by
  cases ended : run session with
  | ok result middle =>
    rw [stateAfter_of_ok ended] at unfailing
    obtain ⟨last, same, -⟩ := finished_of_ok ended unfailing
    rw [same] at cut
    cases cut
  | error other middle =>
    rw [stateAfter_of_error ended] at unfailing
    obtain ⟨last, same, written⟩ := finished_of_error ended unfailing
    rw [same] at cut
    cases cut
    exact ⟨middle, rfl, written⟩

/-- Whatever the end of a run writes comes after what the run has written. -/
theorem stateAfter_finished
    (unfailing : (stateAfter run session).world.streams.Unfailing) :
    (stateAfter (finished run) session).world.streams.out.written =
        (stateAfter run session).world.streams.out.written ∧
      (stateAfter run session).world.streams.err.written.bytes <+:
        (stateAfter (finished run) session).world.streams.err.written.bytes := by
  cases ended : run session with
  | ok result after =>
    rw [stateAfter_of_ok ended] at unfailing ⊢
    obtain ⟨last, same, out, err⟩ := finished_of_ok ended unfailing
    rw [stateAfter_of_ok same, err]
    exact ⟨out, List.prefix_rfl⟩
  | error abort after =>
    rw [stateAfter_of_error ended] at unfailing ⊢
    obtain ⟨last, same, out, err⟩ := finished_of_error ended unfailing
    rw [stateAfter_of_error same, err]
    exact ⟨out, List.prefix_append _ _⟩

end

/-- Streams that refuse nothing still refuse nothing when some statements have been executed. -/
theorem unfailing_executeAll (limits : Limits) (fuel : Nat) (statements : List Stmt)
    {session : Session} (unfailing : session.world.streams.Unfailing) :
    (stateAfter (executeAll limits fuel statements) session).world.streams.Unfailing := by
  have adds := Watched.adds_executeAll limits fuel statements ⟨session, []⟩ unfailing
  rw [← Watched.session_stateAfter (Watched.forget_executeAll limits fuel statements)]
  have continues := (adds.weaken (fun _ _ kept => kept.1) fun _ _ kept => kept).stateAfter
  exact continues.streams.unfailing

section

variable {session : Session} (unfailing : session.world.streams.Unfailing) (program : Program)

include unfailing

theorem unfailing_prepare :
    (stateAfter (prepare program) session).world.streams.Unfailing :=
  ((ends_prepare program unfailing).weaken (fun _ _ after => after.1)
    fun _ _ failed => failed.elim).stateAfter

theorem steps_prepare : (stateAfter (prepare program) session).steps = 0 :=
  ((ends_prepare program unfailing).weaken (fun _ _ after => after.2)
    fun _ _ failed => failed.elim).stateAfter

/-- A program that does not lack fuel does not lack it inside. -/
theorem enough_inside {limits : Limits} {fuel : Nat}
    (enough : ¬Exhausted (Run.program limits fuel program session)) :
    ¬Exhausted (executeAll limits fuel program.items
      (stateAfter (prepare program) session)) := by
  rintro ⟨after, ended⟩
  have unfailingAfter := unfailing_executeAll limits fuel program.items
    (unfailing_prepare unfailing program)
  rw [stateAfter_of_error ended] at unfailingAfter
  obtain ⟨last, same, -⟩ := finished_of_error ended unfailingAfter
  rw [program_eq_finished] at enough
  exact enough ⟨last, same⟩

/-- A program that has fuel enough runs in the same way with more of it. -/
theorem program_of_le {limits : Limits} {fuel more : Nat} (le : fuel ≤ more)
    (enough : ¬Exhausted (Run.program limits fuel program session)) :
    Run.program limits more program session = Run.program limits fuel program session := by
  rw [program_eq_finished, program_eq_finished]
  exact finished_congr (executeAll_of_le le (enough_inside unfailing program enough))

/-- A program that has fuel enough comes to the same statements with more of it. -/
theorem arrivals_of_le {limits : Limits} {fuel more : Nat} (le : fuel ≤ more)
    (enough : ¬Exhausted (Run.program limits fuel program session)) :
    arrivals limits more program session = arrivals limits fuel program session := by
  have inside := enough_inside unfailing program enough
  unfold executeAll at inside
  have watched : ¬Exhausted ((Machine.executeAll limits fuel program.items : Watched Unit)
      ⟨stateAfter (prepare program) session, []⟩) := by
    rw [← exhausted_forget, Watched.forget_executeAll]
    exact inside
  unfold arrivals Watched.visits
  rw [stateAfter_congr (Watched.executeAll_of_le le watched)]

/-- A program that has fuel enough begins the same statements with more of it. -/
theorem begun_of_le {limits : Limits} {fuel more : Nat} (le : fuel ≤ more)
    (enough : ¬Exhausted (Run.program limits fuel program session)) :
    begun limits more program session = begun limits fuel program session := by
  unfold begun
  rw [program_of_le unfailing program le enough, arrivals_of_le unfailing program le enough]

/-- A program is cut short by no other budget than its own. -/
theorem steps_eq_of_cut {limits : Limits} {fuel limit : Nat} {span : Span} {after : Session}
    (cut : Run.program limits fuel program session = .error (.stepLimit limit span) after) :
    limits.steps = some limit := by
  have unfailingAfter := unfailing_executeAll limits fuel program.items
    (unfailing_prepare unfailing program)
  rw [program_eq_finished] at cut
  obtain ⟨middle, ended, -⟩ := error_of_finished unfailingAfter cut
  exact (heldTo_executeAll limits fuel program.items _).of_error ended limit span rfl

variable {callDepth budget : Nat} {larger : Option Nat} (more : ∀ most ∈ larger, budget < most)
  (fuel : Nat)

include more

/-- A program that does not use up its budget runs in the same way with a larger one. -/
theorem program_of_larger
    (uncut : ∀ limit span after,
      Run.program ⟨callDepth, some budget⟩ fuel program session ≠
        .error (.stepLimit limit span) after) :
    Run.program ⟨callDepth, larger⟩ fuel program session =
        Run.program ⟨callDepth, some budget⟩ fuel program session ∧
      arrivals ⟨callDepth, larger⟩ fuel program session =
        arrivals ⟨callDepth, some budget⟩ fuel program session ∧
      (arrivals ⟨callDepth, some budget⟩ fuel program session).length ≤ budget := by
  have whole (limits : Limits) := program_eq_finished limits fuel program session
  have unfailingStart := unfailing_prepare unfailing program
  have plain (limits : Limits) :=
    Watched.forget_executeAll limits fuel program.items ⟨stateAfter (prepare program) session, []⟩
  have inside : ∀ limit span after,
      (Machine.executeAll ⟨callDepth, some budget⟩ fuel program.items : Watched Unit)
        ⟨stateAfter (prepare program) session, []⟩ ≠ .error (.stepLimit limit span) after := by
    intro limit span after ended
    have cut := plain ⟨callDepth, some budget⟩
    rw [ended] at cut
    have unfailingAfter := unfailing_executeAll ⟨callDepth, some budget⟩ fuel program.items
      unfailingStart
    rw [stateAfter_of_error cut.symm] at unfailingAfter
    obtain ⟨last, same, -⟩ := finished_of_error cut.symm unfailingAfter
    exact uncut limit span last ((whole _).trans same)
  obtain ⟨same, still⟩ :=
    (Watched.budgeted_executeAll callDepth more fuel program.items).same_of_uncut
      ⟨unfailingStart, steps_prepare unfailing program, Nat.zero_le _⟩ inside
  refine ⟨?_, ?_, still.within⟩
  · rw [whole, whole]
    refine finished_congr ?_
    rw [← plain, ← plain, same]
  · unfold arrivals Watched.visits
    rw [stateAfter_congr same]

/-- A program that uses up its budget is cut short where a larger budget lets it go on. -/
theorem program_cut_short {limit : Nat} {span : Span} {after : Session}
    (cut : Run.program ⟨callDepth, some budget⟩ fuel program session =
      .error (.stepLimit limit span) after) :
    let other := stateAfter (Run.program ⟨callDepth, larger⟩ fuel program) session
    limit = budget ∧
    (begun ⟨callDepth, some budget⟩ fuel program session).length = budget ∧
    (∃ next, next.span = span ∧ arrivals ⟨callDepth, some budget⟩ fuel program session =
      begun ⟨callDepth, some budget⟩ fuel program session ++ [next]) ∧
    arrivals ⟨callDepth, some budget⟩ fuel program session <+:
      arrivals ⟨callDepth, larger⟩ fuel program session ∧
    after.world.streams.out.written.bytes <+: other.world.streams.out.written.bytes ∧
    ∃ shown, shown <+: other.world.streams.err.written.bytes ∧
      after.world.streams.err.written.bytes =
        shown ++ (encode ((Cause.stepLimit budget).placed span).render ++ [Byte.newline]) := by
  have whole (limits : Limits) := program_eq_finished limits fuel program session
  have plain (limits : Limits) := Watched.forget_executeAll limits fuel program.items
  have unfailingAfter (limits : Limits) :=
    unfailing_executeAll limits fuel program.items (unfailing_prepare unfailing program)
  obtain ⟨middle, ended, out, err⟩ :=
    error_of_finished (unfailingAfter _) ((whole _).symm.trans cut)
  obtain ⟨watch, watched, rfl⟩ := Watched.error_of_forget (plain _) ended
  have limited := (Watched.budgeted_executeAll callDepth more fuel program.items).limited
    ⟨stateAfter (prepare program) session, []⟩
      ⟨unfailing_prepare unfailing program, steps_prepare unfailing program, Nat.zero_le _⟩
  obtain ⟨rfl, ⟨first, next, come, spent, placed⟩, goesOn⟩ :=
    (limited.of_error watched).of_stepLimit
  have finish := stateAfter_finished (unfailingAfter ⟨callDepth, larger⟩)
  have streams := goesOn.streams
  rw [Watched.session_stateAfter (plain _)] at streams
  have otherEnd : stateAfter (Run.program ⟨callDepth, larger⟩ fuel program) session =
      stateAfter (finished (executeAll ⟨callDepth, larger⟩ fuel program.items))
        (stateAfter (prepare program) session) := stateAfter_congr (whole _)
  have came : arrivals ⟨callDepth, some limit⟩ fuel program session = first ++ [next] := by
    unfold arrivals Watched.visits
    rw [stateAfter_of_error watched]
    exact come
  have began : begun ⟨callDepth, some limit⟩ fuel program session = first := by
    rw [begun_of_cut cut, came, List.dropLast_concat]
  dsimp only
  rw [otherEnd, out, finish.1, began, came]
  refine ⟨rfl, spent, ⟨next, placed, rfl⟩, ?_, streams.out, _, streams.err.trans finish.2, err⟩
  rw [← come]
  exact goesOn.arrivals

/-- A run with a larger budget begins what the shorter one has begun, and then the statement at
which that one was cut short. -/
theorem begun_of_larger {limit : Nat} {span : Span} {after : Session}
    (cut : Run.program ⟨callDepth, some budget⟩ fuel program session =
      .error (.stepLimit limit span) after) {next : Stmt}
    (came : arrivals ⟨callDepth, some budget⟩ fuel program session =
      begun ⟨callDepth, some budget⟩ fuel program session ++ [next]) :
    ∃ later, begun ⟨callDepth, larger⟩ fuel program session =
      begun ⟨callDepth, some budget⟩ fuel program session ++ next :: later := by
  obtain ⟨-, spent, -, ⟨rest, whole⟩, -⟩ := program_cut_short unfailing program more fuel cut
  rw [came, List.append_assoc, List.singleton_append] at whole
  by_cases uncut : ∀ limit span after, Run.program ⟨callDepth, larger⟩ fuel program session ≠
      .error (.stepLimit limit span) after
  · exact ⟨rest, (begun_of_uncut uncut).trans whole.symm⟩
  · simp only [ne_eq, Classical.not_forall, Classical.not_not] at uncut
    obtain ⟨most, place, last, otherCut⟩ := uncut
    have limited : larger = some most := steps_eq_of_cut unfailing program otherCut
    subst limited
    have unlimited : ∀ limit ∈ (none : Option Nat), most < limit := fun _ member => nomatch member
    obtain ⟨-, spentToo, ⟨final, -, cameToo⟩, -⟩ :=
      program_cut_short unfailing program unlimited fuel otherCut
    -- The larger budget allows at least one statement more, so the last arrival comes after it.
    have longer := congrArg List.length (whole.trans cameToo)
    rw [List.length_append, List.length_append, spent, spentToo, List.length_cons,
      List.length_singleton] at longer
    have less := more most rfl
    rw [begun_of_cut otherCut, ← whole]
    refine ⟨rest.dropLast, ?_⟩
    cases rest with
    | nil =>
      rw [List.length_nil] at longer
      omega
    | cons head tail => simp

end

end Run

/-- The budget of statements is exact and otherwise invisible, for a program that runs on streams
that refuse nothing. A run that does not use up its budget begins no more statements than that, and
does the same with a larger one. A run that does is cut short when it has begun just as many
statements as the budget allows. The place that is reported is that of the statement which it comes
to then, and which a run with a larger budget begins next. Until then both have written the same,
and only the message about the budget is written after that. -/
theorem budget_is_exact {session : Session} (unfailing : session.world.streams.Unfailing)
    (program : Program) {callDepth budget : Nat} {larger : Option Nat}
    (atLeast : ∀ most ∈ larger, budget ≤ most) {fuel : Nat}
    (enough : ¬Exhausted (Run.program ⟨callDepth, some budget⟩ fuel program session)) :
    ((∀ limit span after, Run.program ⟨callDepth, some budget⟩ fuel program session ≠
        .error (.stepLimit limit span) after) →
      (Run.begun ⟨callDepth, some budget⟩ fuel program session).length ≤ budget ∧
      ∀ more, fuel ≤ more →
        Run.program ⟨callDepth, larger⟩ more program session =
          Run.program ⟨callDepth, some budget⟩ fuel program session ∧
        Run.begun ⟨callDepth, larger⟩ more program session =
          Run.begun ⟨callDepth, some budget⟩ fuel program session) ∧
    ∀ limit span after, Run.program ⟨callDepth, some budget⟩ fuel program session =
        .error (.stepLimit limit span) after →
      limit = budget ∧
      (Run.begun ⟨callDepth, some budget⟩ fuel program session).length = budget ∧
      (∃ next, next.span = span ∧
        Run.arrivals ⟨callDepth, some budget⟩ fuel program session =
          Run.begun ⟨callDepth, some budget⟩ fuel program session ++ [next] ∧
        (larger ≠ some budget → ∀ more, fuel ≤ more → ∃ later,
          Run.begun ⟨callDepth, larger⟩ more program session =
            Run.begun ⟨callDepth, some budget⟩ fuel program session ++ next :: later)) ∧
      ∀ other, ¬Exhausted (Run.program ⟨callDepth, larger⟩ other program session) →
        let whole := stateAfter (Run.program ⟨callDepth, larger⟩ other program) session
        after.world.streams.out.written.bytes <+: whole.world.streams.out.written.bytes ∧
        ∃ shown, shown <+: whole.world.streams.err.written.bytes ∧
          after.world.streams.err.written.bytes =
            shown ++ (encode ((Cause.stepLimit budget).placed span).render ++ [Byte.newline]) := by
  have withMore {more : Nat} (le : fuel ≤ more) := Run.program_of_le unfailing program le enough
  have sameBegun {more : Nat} (le : fuel ≤ more) := Run.begun_of_le unfailing program le enough
  have unlimited : ∀ most ∈ (none : Option Nat), budget < most := fun _ member => nomatch member
  have inBudget (uncut : ∀ limit span after,
      Run.program ⟨callDepth, some budget⟩ fuel program session ≠
        .error (.stepLimit limit span) after) :
      (Run.begun ⟨callDepth, some budget⟩ fuel program session).length ≤ budget := by
    rw [Run.begun_of_uncut uncut]
    exact (Run.program_of_larger unfailing program unlimited fuel uncut).2.2
  by_cases same : larger = some budget
  · rw [same]
    refine ⟨fun uncut => ⟨inBudget uncut, fun more le => ⟨withMore le, sameBegun le⟩⟩,
      fun limit span after cut => ?_⟩
    obtain ⟨limited, spent, ⟨next, placed, came⟩, -, -, shown, before, written⟩ :=
      Run.program_cut_short unfailing program unlimited fuel cut
    refine ⟨limited, spent, ⟨next, placed, came, fun differs => absurd rfl differs⟩,
      fun other ended => ?_⟩
    have otherEnd : Run.program ⟨callDepth, some budget⟩ other program session =
        .error (.stepLimit limit span) after := by
      rw [← Run.program_of_le unfailing program (Nat.le_max_right fuel other) ended,
        withMore (Nat.le_max_left fuel other), cut]
    rw [stateAfter_of_error otherEnd]
    refine ⟨List.prefix_rfl, shown, ?_, written⟩
    rw [written]
    exact List.prefix_append _ _
  · have more : ∀ most ∈ larger, budget < most := by
      intro most member
      refine Nat.lt_of_le_of_ne (atLeast most member) fun equal => same ?_
      rw [equal]
      exact member
    constructor
    · intro uncut
      refine ⟨inBudget uncut, fun later le => ?_⟩
      rw [← withMore le] at uncut ⊢
      obtain ⟨whole, came, -⟩ := Run.program_of_larger unfailing program more later uncut
      refine ⟨whole, ?_⟩
      rw [← sameBegun le, Run.begun_of_uncut uncut, Run.begun_of_uncut (whole ▸ uncut), came]
    · intro limit span after cut
      have cutShort {fuelToo : Nat} (le : fuel ≤ fuelToo) := Run.program_cut_short unfailing
        program more fuelToo ((withMore le).trans cut)
      obtain ⟨limited, spent, ⟨next, placed, came⟩, -⟩ := cutShort (Nat.le_refl fuel)
      refine ⟨limited, spent, ⟨next, placed, came, fun _ fuelToo le => ?_⟩, fun other ended => ?_⟩
      · have cameToo := Run.arrivals_of_le unfailing program le enough
        rw [came, ← sameBegun le] at cameToo
        rw [← sameBegun le]
        exact Run.begun_of_larger unfailing program more fuelToo ((withMore le).trans cut) cameToo
      · obtain ⟨-, -, -, -, written⟩ := cutShort (Nat.le_max_left fuel other)
        rw [stateAfter_congr
          (Run.program_of_le unfailing program (Nat.le_max_right fuel other) ended)] at written
        exact written

/-- In `for x in [4, 5]: if x: print(x)`, the loop, its body and the body of that are statements, in
each round anew. A budget of four stops the second `print`. -/
theorem budget_of_four_stops_second_print :
    let session := Session.start (Streams.reliable [])
    let name (start : Nat) : Expr := .name ⟨start, start + 1, 1, start + 1⟩ (ascii "x")
    let number (start : Nat) : Int64 → Expr := .number ⟨start, start + 1, 1, start + 1⟩
    let print : Stmt := .expr (.call ⟨23, 31, 1, 24⟩ (ascii "print") [name 29])
    let test : Stmt := .branch ⟨17, 31, 1, 18⟩ (name 20) print .done
    let loop : Stmt := .forLoop ⟨0, 31, 1, 1⟩ (ascii "x")
      (.list ⟨9, 15, 1, 10⟩ [number 10 4, number 13 5]) test
    let program : Program := ⟨[loop]⟩
    ¬Exhausted (Run.program ⟨200, some 4⟩ 9 program session) ∧
    (Run.begun ⟨200, some 4⟩ 9 program session).length = 4 ∧
    (Run.begun ⟨200, some 4⟩ 9 program session).map Stmt.span =
      [loop, test, print, test].map Stmt.span ∧
    ∃ after, Run.program ⟨200, some 4⟩ 9 program session =
        .error (.stepLimit 4 print.span) after ∧
      after.world.streams.out.written.bytes = ascii "4\n" ∧
      after.world.streams.out.written.bytes <+:
        (stateAfter (Run.program ⟨200, none⟩ 9 program)
          session).world.streams.out.written.bytes := by
  intro session name number print test loop program
  have cut : ∃ after, Run.program ⟨200, some 4⟩ 9 program session =
      .error (.stepLimit 4 print.span) after := ⟨_, rfl⟩
  obtain ⟨after, cut⟩ := cut
  have enough : ¬Exhausted (Run.program ⟨200, some 4⟩ 9 program session) := by
    rintro ⟨final, ended⟩
    rw [cut] at ended
    cases ended
  have through : (match Run.program ⟨200, none⟩ 9 program session with
      | .ok _ _ => true
      | .error _ _ => false) = true := by decide +kernel
  have ended : ¬Exhausted (Run.program ⟨200, none⟩ 9 program session) := by
    rintro ⟨final, lacking⟩
    rw [lacking] at through
    cases through
  have unlimited : ∀ most ∈ (none : Option Nat), 4 ≤ most := fun _ member => nomatch member
  obtain ⟨-, cutShort⟩ :=
    budget_is_exact (Streams.unfailing_reliable []) program unlimited enough
  obtain ⟨-, spent, -, written⟩ := cutShort 4 print.span after cut
  refine ⟨enough, spent, by decide +kernel, after, cut, ?_, (written 9 ended).1⟩
  rw [← stateAfter_of_error cut]
  decide +kernel

end Scriptling
