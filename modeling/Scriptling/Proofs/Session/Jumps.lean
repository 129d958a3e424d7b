/-
This file proves that jumps never escape their construct. A `break` or
`continue` is caught by a loop and a `return` by a call, so how a statement ends
is bounded by what surrounds it. The reader puts every jump in its place, and all
functions of a session were read, so a statement at the top level always ends
normally and the body of a function never with a `break` or a `continue`.
-/

import Mathlib
import Scriptling.Proofs.Session.Reachable
import Scriptling.Proofs.Tree.Scope

namespace Scriptling

/-! ### How a statement can end -/

/-- What surrounds a statement allows it to end in a certain way. -/
def Flow.FitsIn (surroundings : Surroundings) : Flow → Prop
  | .done => True
  | .returns _ => surroundings.inFunction
  | .breaks | .continues => surroundings.inLoop

namespace Machine

variable {surroundings : Surroundings}

theorem fits_forEach {body : Value → Run Flow}
    (fits : ∀ value, Gives (Flow.FitsIn surroundings.loopBody) (body value))
    (values : List Value) : Gives (Flow.FitsIn surroundings) (forEach body values) := by
  induction values with
  | nil => exact gives_pure trivial
  | cons value rest hypothesis =>
    refine gives_bind_of (fits value) fun flow fit => ?_
    cases flow with
    | done => exact hypothesis
    | continues => exact hypothesis
    | breaks => exact gives_pure trivial
    | returns result => exact gives_pure fit

theorem fits_whileTrue {test : Run Bool} {body : Run Flow}
    (fits : Gives (Flow.FitsIn surroundings.loopBody) body) (rounds : Nat) :
    Gives (Flow.FitsIn surroundings) (whileTrue test body rounds) := by
  induction rounds with
  | zero => exact fun _ => trivial
  | succ rounds hypothesis =>
    refine gives_bind fun holds => ?_
    cases holds with
    | false => exact gives_pure trivial
    | true =>
      refine gives_bind_of fits fun flow fit => ?_
      cases flow with
      | done => exact hypothesis
      | continues => exact hypothesis
      | breaks => exact gives_pure trivial
      | returns result => exact gives_pure fit

theorem fits_follow {test : Expr → Run Bool} {run : Stmt → Run Flow}
    (fits : ∀ body : Stmt, body.Scoped surroundings →
      Gives (Flow.FitsIn surroundings) (run body))
    (branches : Branches) (placed : branches.Scoped surroundings) :
    Gives (Flow.FitsIn surroundings) (follow test run branches) := by
  cases branches with
  | arm condition body others =>
    refine gives_bind fun holds => ?_
    cases holds with
    | true => exact fits body placed.1
    | false => exact fits_follow fits others placed.2
  | otherwise body => exact fits body placed
  | done => exact gives_pure trivial

/-- A statement whose jumps are in their place ends in a way that fits where it stands. -/
theorem fits_execute (limits : Limits) (fuel : Nat) {statement : Stmt}
    (placed : statement.Scoped surroundings) :
    Gives (Flow.FitsIn surroundings) (execute limits fuel statement : Run Flow) := by
  induction fuel generalizing statement surroundings with
  | zero => exact fun _ => trivial
  | succ fuel hypothesis =>
    simp only [execute]
    refine gives_bind fun _ => gives_bind fun _ => ?_
    cases statement with
    | expr value => exact gives_bind fun _ => gives_pure trivial
    | returns span value =>
      cases value with
      | none => exact gives_pure placed
      | some expr => exact gives_bind fun _ => gives_pure placed
    | define span name parameters body => exact gives_bind fun _ => gives_pure trivial
    | assign span name value => exact gives_bind fun _ => gives_bind fun _ => gives_pure trivial
    | forLoop span name iterable body =>
      refine gives_bind fun value => ?_
      cases value with
      | list handle =>
        refine gives_bind fun values => fits_forEach (fun item => ?_) values
        exact gives_bind fun _ => hypothesis placed
      | none => exact gives_pure trivial
      | int number => exact gives_pure trivial
      | str text => exact gives_pure trivial
    | branch span condition body others =>
      exact fits_follow (fun _ inside => hypothesis inside) (.arm condition body others) placed
    | whileLoop span condition body => exact fits_whileTrue (hypothesis placed) fuel
    | pass span => exact gives_pure trivial
    | breaks span => exact gives_pure placed
    | continues span => exact gives_pure placed
    | imports span name => exact gives_bind fun _ => gives_pure trivial

end Machine

/-! ### The functions of a session -/

/-- The functions of a session keep their jumps in their place. -/
def Session.FunctionsScoped (session : Session) : Prop :=
  ∀ function ∈ session.functions.functions, function.Scoped

/-- In every session there can be, the functions keep their jumps in their place. -/
theorem Session.Reachable.functionsScoped {session : Session} (reached : session.Reachable) :
    session.FunctionsScoped :=
  fun function member => (reached.functionsReadable function member).scoped

/-! ### Programs -/

namespace Run

/-- Some statements are executed one after another, each of them to its normal end. -/
inductive Executes (limits : Limits) (fuel : Nat) : List Stmt → Session → Session → Prop
  | none (session : Session) : Executes limits fuel [] session session
  | next {statement : Stmt} {rest : List Stmt} {session middle after : Session} :
    execute limits fuel statement session = .ok .done middle →
      Executes limits fuel rest middle after →
        Executes limits fuel (statement :: rest) session after

/-- At the top level there is nothing that a jump would fit into. -/
theorem done_of_execute {limits : Limits} {fuel : Nat} {statement : Stmt} {session after : Session}
    {flow : Flow} (placed : statement.Scoped .topLevel)
    (ended : execute limits fuel statement session = .ok flow after) : flow = .done := by
  have fit := (Machine.fits_execute limits fuel placed session).of_ok ended
  cases flow with
  | done => rfl
  | returns value => cases fit
  | breaks => cases fit
  | continues => cases fit

/-- Statements that stand at the top level are executed as if nothing could stop them. -/
theorem executeAll_eq_forM {limits : Limits} {fuel : Nat} {statements : List Stmt}
    (placed : ∀ statement ∈ statements, statement.Scoped .topLevel) :
    executeAll limits fuel statements = statements.forM fun statement => do
      let _ ← execute limits fuel statement
      return := by
  induction statements with
  | nil => rfl
  | cons statement rest hypothesis =>
    have same := hypothesis fun other member => placed other (List.mem_cons_of_mem _ member)
    show executeAll limits fuel (statement :: rest) = (do
      let _ ← execute limits fuel statement
      return) >>= fun _ => rest.forM _
    rw [← same, bind_assoc]
    funext session
    show EStateM.bind (execute limits fuel statement) _ session = EStateM.bind _ _ session
    unfold EStateM.bind
    cases ended : execute limits fuel statement session with
    | ok flow after =>
      rw [done_of_execute (placed statement List.mem_cons_self) ended]
      rfl
    | error abort after => rfl

/-- Statements that stand at the top level have all been executed when they have gone through. -/
theorem executes_of_executeAll {limits : Limits} {fuel : Nat} {statements : List Stmt}
    {session after : Session} (placed : ∀ statement ∈ statements, statement.Scoped .topLevel)
    (ended : executeAll limits fuel statements session = .ok () after) :
    Executes limits fuel statements session after := by
  induction statements generalizing session with
  | nil =>
    cases ended
    exact .none _
  | cons statement rest hypothesis =>
    obtain ⟨flow, middle, first, ended⟩ := bind_eq_ok.mp ended
    have done := done_of_execute (placed statement List.mem_cons_self) first
    rw [done] at first ended
    exact .next first
      (hypothesis (fun other member => placed other (List.mem_cons_of_mem _ member)) ended)

/-- A run that has gone through with its end went through before. -/
theorem finished_eq_ok {Result : Type} {run : Run Result} {session after : Session}
    {result : Result} (ended : finished run session = .ok result after) :
    ∃ last, run session = .ok result last ∧ finish none last = .ok () after := by
  unfold finished at ended
  cases through : run session with
  | ok value last =>
    rw [through] at ended
    obtain ⟨_, final, finish, same⟩ := bind_eq_ok.mp ended
    cases same
    exact ⟨last, rfl, finish⟩
  | error abort last =>
    rw [through] at ended
    obtain ⟨_, final, _, cut⟩ := bind_eq_ok.mp ended
    cases cut

end Run

/-- Jumps never escape their construct. In every session there can be, a statement of a readable
program ends normally if it goes through, and the body of a registered function ends normally or
with a `return`. So a program is executed as if no statement could stop it early, and when it has
gone through, each of its statements has been executed to its end, in order. -/
theorem jumps_stay_inside {source : Bytes} {program : Program} {session : Session}
    (read : Program.ofSource source = .ok program) (reached : session.Reachable)
    (limits : Limits) (fuel : Nat) :
    (∀ statement ∈ program.items, ∀ flow after,
      Run.execute limits fuel statement session = .ok flow after → flow = .done) ∧
    (∀ function ∈ session.functions.functions, ∀ flow after,
      Run.execute limits fuel function.body session = .ok flow after →
        flow = .done ∨ ∃ value, flow = .returns value) ∧
    (Run.executeAll limits fuel program.items = program.items.forM fun statement => do
      let _ ← Run.execute limits fuel statement
      return) ∧
    ∀ after, Run.program limits fuel program session = .ok () after →
      ∃ last, Run.Executes limits fuel program.items
          (stateAfter (Run.prepare program) session) last ∧
        Run.finish none last = .ok () after := by
  have placed := Program.scoped_of_ofSource read
  refine ⟨?_, ?_, Run.executeAll_eq_forM placed, ?_⟩
  · intro statement member flow after ended
    exact Run.done_of_execute (placed statement member) ended
  · intro function member flow after ended
    have fit := (Machine.fits_execute limits fuel (reached.functionsScoped function member)
      session).of_ok ended
    cases flow with
    | done => exact Or.inl rfl
    | returns value => exact Or.inr ⟨value, rfl⟩
    | breaks => cases fit
    | continues => cases fit
  · intro after ended
    obtain ⟨_, prepared, before, ended⟩ := bind_eq_ok.mp ended
    obtain ⟨last, through, finish⟩ := Run.finished_eq_ok ended
    rw [stateAfter_of_ok before]
    exact ⟨last, Run.executes_of_executeAll placed through, finish⟩

set_option maxRecDepth 2000 in
/-- A session has run a program whose function returns from a loop, and runs one that breaks out of
a loop. -/
theorem broken_loop_stays_inside :
    let session := stateAfter
      (Session.run Limits.standard (ascii "def f():\n while 1:\n  return"))
      (Session.start (Streams.reliable []))
    let loop := Stmt.whileLoop ⟨0, 14, 1, 1⟩ (.number ⟨6, 7, 1, 7⟩ 1) (.breaks ⟨9, 14, 1, 10⟩)
    Program.ofSource (ascii "while 1: break") = .ok ⟨[loop]⟩ ∧
    (∀ flow after, Run.execute Limits.standard 9 loop session = .ok flow after → flow = .done) ∧
    ∃ function ∈ session.functions.functions, ∀ flow after,
      Run.execute Limits.standard 9 function.body session = .ok flow after →
        flow = .done ∨ ∃ value, flow = .returns value := by
  intro session loop
  have read : Program.ofSource (ascii "while 1: break") = .ok ⟨[loop]⟩ := by cbv
  have reached : session.Reachable := .idle (.run _ _ (.start _))
  obtain ⟨top, bodies, -⟩ := jumps_stay_inside read reached Limits.standard 9
  refine ⟨read, top loop List.mem_cons_self, ?_⟩
  let function : Function := ⟨ascii "f", [], .whileLoop ⟨10, 27, 2, 2⟩
    (.number ⟨16, 17, 2, 8⟩ 1) (.returns ⟨21, 27, 3, 3⟩ none), ⟨0, 27, 1, 1⟩⟩
  have before : Program.ofSource (ascii "def f():\n while 1:\n  return") =
      .ok ⟨[.define function.span function.name [] function.body]⟩ := by cbv
  have defined : session.functions.functions = [function] := by
    unfold session Session.run
    rw [before]
    rfl
  have member : function ∈ session.functions.functions := by
    rw [defined]
    exact List.mem_singleton_self function
  exact ⟨function, member, bodies function member⟩

end Scriptling
