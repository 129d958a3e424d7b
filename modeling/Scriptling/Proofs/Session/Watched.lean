/-
This file watches an evaluation. A watched run does what a run does, and besides
it writes down every node that it comes to, with the session as it is at that
moment. A statement is written down when the run comes to it, before it is
counted. The record is the only difference: forgetting it gives back the plain
run.

The record is what statements about the course of a run are about, such as how
many statements it comes to, and in which order.
-/

import Scriptling.Proofs.Session.Coupling
import Scriptling.Proofs.Steps
import Scriptling.Session.Operations

namespace Scriptling

/-- A node that an evaluation has come to, and the session as it was then. -/
structure Visit where
  node : Node
  session : Session

/-- The statement that a visit came to, if the node is one. -/
def Visit.statement? (visit : Visit) : Option Stmt :=
  match visit.node with
  | .statement statement => some statement
  | .expr _ => none

/-- A session, and the visits so far in the order in which they were made. -/
structure Watch where
  session : Session
  visits : List Visit

/-- A part of a run that is watched. -/
abbrev Watched := EStateM Abort Watch

namespace Watched

/-- Acts on the session and leaves the record alone. -/
def act {Result : Type} (action : Run Result) : Watched Result := fun watch =>
  match action watch.session with
  | .ok result session => .ok result { watch with session }
  | .error abort session => .error abort { watch with session }

/-- Writes down a visit. -/
def visit (node : Node) : Watched Unit :=
  modify fun watch => { watch with visits := watch.visits ++ [⟨node, watch.session⟩] }

/-- Works inside the innermost call, which is over afterwards. -/
def closing {Result : Type} (work : Watched Result) : Watched Result := fun watch =>
  match work watch with
  | .ok result watch => .ok result { watch with session := watch.session.leave }
  | .error abort watch => .error abort { watch with session := watch.session.leave }

/-- Works in a frame of its own, in which the parameters of a call are bound. -/
def inCall {Result : Type} (parameters : List Name) (values : List Value)
    (work : Watched Result) : Watched Result := do
  act (Run.openCall parameters values)
  closing work

instance : Machine Watched where
  act := act
  visit := visit
  inCall := inCall

section

variable {Result : Type} {watch : Watch} {failed : Abort → Watch → Prop}

theorem ends_act {action : Run Result} {given : Result → Watch → Prop} :
    Ends (act action) watch given failed ↔
      Ends action watch.session (fun result session => given result { watch with session })
        fun abort session => failed abort { watch with session } := by
  unfold act Ends
  dsimp only
  cases action watch.session with
  | ok result session => exact Iff.rfl
  | error abort session => exact Iff.rfl

theorem ends_visit {node : Node} {given : Unit → Watch → Prop} :
    Ends (visit node) watch given failed ↔
      given () { watch with visits := watch.visits ++ [⟨node, watch.session⟩] } :=
  Iff.rfl

theorem ends_closing {work : Watched Result} {given : Result → Watch → Prop} :
    Ends (closing work) watch given failed ↔
      Ends work watch
        (fun result after => given result { after with session := after.session.leave })
        fun abort after => failed abort { after with session := after.session.leave } := by
  unfold closing Ends
  dsimp only
  cases work watch with
  | ok result after => exact Iff.rfl
  | error abort after => exact Iff.rfl

end

/-! ### Forgetting the record -/

/-- The end of a run without its record. -/
def forget {Result : Type} :
    EStateM.Result Abort Watch Result → EStateM.Result Abort Session Result
  | .ok result watch => .ok result watch.session
  | .error abort watch => .error abort watch.session

theorem forget_act {Result : Type} (action : Run Result) (watch : Watch) :
    forget (act action watch) = action watch.session := by
  unfold act
  cases action watch.session with
  | ok result session => rfl
  | error abort session => rfl

theorem forget_bind {First Second : Type} {condition : First → Prop} {watched : Watched First}
    {run : Run First} {watchedRest : First → Watched Second} {rest : First → Run Second}
    (first : ∀ watch, forget (watched watch) = run watch.session) (gives : Gives condition run)
    (second : ∀ value, condition value →
      ∀ watch, forget (watchedRest value watch) = rest value watch.session) (watch : Watch) :
    forget ((watched >>= watchedRest) watch) = (run >>= rest) watch.session := by
  show forget (EStateM.bind watched watchedRest watch) = EStateM.bind run rest watch.session
  unfold EStateM.bind
  have same := first watch
  cases ended : watched watch with
  | ok value middle =>
    rw [ended] at same
    rw [← same]
    exact second value ((gives watch.session).of_ok same.symm) middle
  | error abort middle =>
    rw [ended] at same
    rw [← same]
    rfl

theorem forget_closing {Result : Type} {watched : Watched Result} {run : Run Result}
    (same : ∀ watch, forget (watched watch) = run watch.session) (watch : Watch) :
    forget (closing watched watch) = Run.closing run watch.session := by
  unfold closing Run.closing
  rw [← same]
  cases watched watch with
  | ok result final => rfl
  | error abort final => rfl

theorem forget_inCall {Result : Type} (parameters : List Name) (values : List Value)
    {watched : Watched Result} {run : Run Result}
    (same : ∀ watch, forget (watched watch) = run watch.session) (watch : Watch) :
    forget (inCall parameters values watched watch) =
      Run.inCall parameters values run watch.session :=
  forget_bind (forget_act (Run.openCall parameters values)) (gives_of_forall fun _ => trivial)
    (fun _ _ => forget_closing same) watch

/-- A watched run and a plain one belong together if the plain one is what is left of the other
without its record. -/
def forgetting : Coupling Watched Run where
  holds condition watched run :=
    (∀ watch, forget (watched watch) = run watch.session) ∧ Gives condition run
  pure _ holds := ⟨fun _ => rfl, gives_pure holds⟩
  bind first rest :=
    ⟨forget_bind first.1 first.2 fun value holds => (rest value holds).1,
      gives_bind_of first.2 fun value holds => (rest value holds).2⟩

/-- Every action is the same under watch. -/
theorem pairs_act {Result : Type} (action : Run Result) :
    forgetting.pairs (act action) action :=
  ⟨forget_act action, (gives_of_forall fun _ => trivial)⟩

theorem coupled_forgetting (limits : Limits) :
    Coupled (fun _ => True) limits limits 0 forgetting forgetting where
  widen := id
  exhausted _ same := by
    rw [same rfl]
    exact pairs_act (throw .outOfFuel)
  ask question := pairs_act do
    let session ← get
    return question session.locals session.globals session.world.heap
  visit _ := ⟨fun _ => rfl, (gives_of_forall fun _ => trivial)⟩
  builtin _ _ := pairs_act _
  settle _ := pairs_act _
  callee _ _ _ := ⟨forget_act _, gives_of_forall fun _ _ _ => trivial⟩
  inCall function values _ paired :=
    ⟨forget_inCall function.parameters values paired.1, (gives_of_forall fun _ => trivial)⟩
  opening _ :=
    Coupling.pairs_bind ⟨fun _ => rfl, (gives_of_forall fun _ => trivial)⟩ fun _ => pairs_act _
  bind _ _ := pairs_act _
  register _ _ := pairs_act _
  ignore _ := pairs_act _

/-- What is said of a session at the end of a watched run holds at the end of the plain one. -/
theorem ends_of_forget {Result : Type} {watched : Watched Result} {run : Run Result}
    (same : ∀ watch, forget (watched watch) = run watch.session) {session : Session}
    {given : Result → Session → Prop} {failed : Abort → Session → Prop}
    (ends : Ends watched ⟨session, []⟩ (fun result watch => given result watch.session)
      fun abort watch => failed abort watch.session) : Ends run session given failed := by
  have plain := same ⟨session, []⟩
  unfold Ends at ends ⊢
  dsimp only at plain
  rw [← plain]
  cases ended : watched ⟨session, []⟩ with
  | ok result watch =>
    rw [ended] at ends
    exact ends
  | error abort watch =>
    rw [ended] at ends
    exact ends

/-! ### The plain run in a watched one -/

theorem forget_evaluate (limits : Limits) (fuel : Nat) (expr : Expr) (watch : Watch) :
    forget ((Machine.evaluate limits fuel expr : Watched Value) watch) =
      Run.evaluate limits fuel expr watch.session :=
  (((coupled_forgetting limits).evaluate_execute
    (fun function _ => function.body.eachFunction_of_forall fun _ => trivial) fuel).1 expr).1 watch

theorem forget_execute (limits : Limits) (fuel : Nat) (statement : Stmt) (watch : Watch) :
    forget ((Machine.execute limits fuel statement : Watched Flow) watch) =
      Run.execute limits fuel statement watch.session :=
  (((coupled_forgetting limits).evaluate_execute
    (fun function _ => function.body.eachFunction_of_forall fun _ => trivial) fuel).2 statement
      (statement.eachFunction_of_forall fun _ => trivial)).1 watch

theorem forget_executeAll (limits : Limits) (fuel : Nat) (statements : List Stmt)
    (watch : Watch) :
    forget ((Machine.executeAll limits fuel statements : Watched Unit) watch) =
      Run.executeAll limits fuel statements watch.session :=
  ((coupled_forgetting limits).executeAll
    (fun function _ => function.body.eachFunction_of_forall fun _ => trivial) fuel statements
      fun statement _ => statement.eachFunction_of_forall fun _ => trivial).1 watch

/-! ### The course of a run -/

/-- The nodes that some work comes to when it begins in a session. -/
def visits {Result : Type} (work : Watched Result) (session : Session) : List Visit :=
  (stateAfter work ⟨session, []⟩).visits

end Watched

end Scriptling
