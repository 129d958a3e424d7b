/-
This file proves once how a property of two evaluations is carried through the
whole of them. The evaluator is written for any monad that can act on a session,
so two evaluations may differ in the monad, in the limits they are held to and in
their fuel. A coupling says which pieces of work of the one belong with which of
the other. If it holds of results, is kept by putting work one after another, and
holds of the few actions that the evaluator is made of, then it holds of the
evaluation of every expression and of the execution of every statement.

Expressions and statements have a coupling each, because a statement may do to
the frame it runs in what an expression may not. A call is the place where the
two meet: the body of a function is a statement, but its frame is gone when the
call is over.

An execution can register the functions that its text defines, and no others. A
property of those is assumed of the text and handed on to every function that is
called.
-/

import Scriptling.Proofs.Tree.Height
import Scriptling.Session.Evaluation

namespace Scriptling

/-! ### Couplings -/

/-- Which work of one monad belongs with which work of another. The two give the same result
when both give one, and it satisfies the condition that is named first. -/
structure Coupling (M N : Type → Type) [Monad M] [Monad N] where
  holds {Result : Type} : (Result → Prop) → M Result → N Result → Prop
  pure {Result : Type} {condition : Result → Prop} (value : Result) :
    condition value → holds condition (pure value) (pure value)
  bind {First Second : Type} {condition : First → Prop} {goal : Second → Prop}
    {first : M First} {second : N First} {firstRest : First → M Second}
    {secondRest : First → N Second} :
    holds condition first second →
      (∀ value, condition value → holds goal (firstRest value) (secondRest value)) →
        holds goal (first >>= firstRest) (second >>= secondRest)

namespace Coupling

variable {M N : Type → Type} [Monad M] [Monad N] (coupling : Coupling M N)

/-- Work is coupled, whatever its result. -/
abbrev pairs {Result : Type} (first : M Result) (second : N Result) : Prop :=
  coupling.holds (fun _ => True) first second

variable {coupling}

theorem pairs_pure {Result : Type} (value : Result) :
    coupling.pairs (Pure.pure value) (Pure.pure value) :=
  coupling.pure value trivial

theorem pairs_bind {First Second : Type} {first : M First} {second : N First}
    {firstRest : First → M Second} {secondRest : First → N Second}
    (paired : coupling.pairs first second)
    (rest : ∀ value, coupling.pairs (firstRest value) (secondRest value)) :
    coupling.pairs (first >>= firstRest) (second >>= secondRest) :=
  coupling.bind paired fun value _ => rest value

theorem pairs_mapM [LawfulMonad M] [LawfulMonad N] {Item Result : Type}
    {first : Item → M Result} {second : Item → N Result} {items : List Item}
    (paired : ∀ item ∈ items, coupling.pairs (first item) (second item)) :
    coupling.pairs (items.mapM first) (items.mapM second) := by
  induction items with
  | nil =>
    rw [List.mapM_nil, List.mapM_nil]
    exact pairs_pure []
  | cons item rest hypothesis =>
    obtain ⟨head, tail⟩ := List.forall_mem_cons.mp paired
    rw [List.mapM_cons, List.mapM_cons]
    exact pairs_bind head fun value => pairs_bind (hypothesis tail) fun values =>
      pairs_pure (value :: values)

theorem pairs_forEach {first : Value → M Flow} {second : Value → N Flow}
    (paired : ∀ value, coupling.pairs (first value) (second value)) (values : List Value) :
    coupling.pairs (Machine.forEach first values) (Machine.forEach second values) := by
  induction values with
  | nil => exact pairs_pure Flow.done
  | cons value rest hypothesis =>
    refine pairs_bind (paired value) fun flow => ?_
    cases flow with
    | done => exact hypothesis
    | continues => exact hypothesis
    | breaks => exact pairs_pure Flow.done
    | returns result => exact pairs_pure (Flow.returns result)

/-- Two chains are followed alike. The conditions and the bodies need only be coupled if they
stand in the chain. -/
theorem pairs_follow {firstTest : Expr → M Bool} {secondTest : Expr → N Bool}
    {firstRun : Stmt → M Flow} {secondRun : Stmt → N Flow} {height : Nat} (branches : Branches)
    (low : branches.height ≤ height)
    (tests : ∀ condition : Expr, condition.height ≤ height →
      coupling.pairs (firstTest condition) (secondTest condition))
    (runs : ∀ body ∈ branches.parts, body.height ≤ height →
      coupling.pairs (firstRun body) (secondRun body)) :
    coupling.pairs (Machine.follow firstTest firstRun branches)
      (Machine.follow secondTest secondRun branches) := by
  cases branches with
  | arm condition body others =>
    rw [Branches.height] at low
    refine pairs_bind (tests condition (by omega)) fun holds => ?_
    cases holds with
    | true => exact runs body (List.mem_append_left _ body.mem_parts_self) (by omega)
    | false =>
      exact pairs_follow others (by omega) tests fun part inside =>
        runs part (List.mem_append_right _ inside)
  | otherwise body => exact runs body body.mem_parts_self low
  | done => exact pairs_pure Flow.done

variable [Machine M] [Machine N]

theorem pairs_whileTrue {firstTest : M Bool} {secondTest : N Bool} {firstBody : M Flow}
    {secondBody : N Flow} (tests : coupling.pairs firstTest secondTest)
    (bodies : coupling.pairs firstBody secondBody) (extra : Nat)
    (exhausted : ∀ second : N Flow, (extra = 0 → second = Machine.giveUp) →
      coupling.pairs Machine.giveUp second) (rounds : Nat) :
    coupling.pairs (Machine.whileTrue firstTest firstBody rounds)
      (Machine.whileTrue secondTest secondBody (rounds + extra)) := by
  induction rounds with
  | zero =>
    refine exhausted _ fun none => ?_
    rw [none]
    rfl
  | succ rounds hypothesis =>
    rw [Nat.add_right_comm]
    refine pairs_bind tests fun holds => ?_
    cases holds with
    | false => exact pairs_pure Flow.done
    | true =>
      refine pairs_bind bodies fun flow => ?_
      cases flow with
      | done => exact hypothesis
      | continues => exact hypothesis
      | breaks => exact pairs_pure Flow.done
      | returns result => exact pairs_pure (Flow.returns result)

/-- Programs are executed statement by statement, so what holds of statements holds of them. -/
theorem pairs_executeAll {firstLimits secondLimits : Limits} {fuel more : Nat}
    {statements : List Stmt}
    (paired : ∀ statement ∈ statements, coupling.pairs
      (Machine.execute firstLimits fuel statement) (Machine.execute secondLimits more statement)) :
    coupling.pairs (Machine.executeAll firstLimits fuel statements)
      (Machine.executeAll secondLimits more statements) := by
  induction statements with
  | nil => exact pairs_pure ()
  | cons statement rest hypothesis =>
    obtain ⟨head, tail⟩ := List.forall_mem_cons.mp paired
    refine pairs_bind head fun flow => ?_
    cases flow with
    | done => exact hypothesis tail
    | continues => exact pairs_pure ()
    | breaks => exact pairs_pure ()
    | returns result => exact pairs_pure ()

end Coupling

/-! ### Coupled actions -/

/-- How every statement begins: the evaluation comes to it, and then counts it. -/
def Machine.opening {M : Type → Type} [Monad M] [Machine M] (limits : Limits) (statement : Stmt) :
    M Unit := do
  visit (.statement statement)
  act (Run.tick limits statement.span)

/-- A coupling for expressions and one for statements hold of the single actions that the evaluator
takes. The first evaluation is held to `firstLimits` and the second to `secondLimits`, all functions
that are ever registered are `known`, and those that are found for a call are `called`. -/
structure CoupledActions {M N : Type → Type} [Monad M] [Monad N] [Machine M] [Machine N]
    (known called : Function → Prop) (firstLimits secondLimits : Limits)
    (inner outer : Coupling M N) : Prop where
  /-- What an expression may do, a statement may do as well. -/
  widen {Result : Type} {condition : Result → Prop} {first : M Result} {second : N Result} :
    inner.holds condition first second → outer.holds condition first second
  /-- All that is ever asked of a session is answered by its frames and its lists. -/
  ask {Result : Type} (question : List Frame → Frame → Heap → Result) :
    inner.pairs
      (Machine.ask fun session => question session.locals session.globals session.world.heap)
      (Machine.ask fun session => question session.locals session.globals session.world.heap)
  visit (expr : Expr) : inner.pairs (Machine.visit (.expr expr)) (Machine.visit (.expr expr))
  builtin (builtin : Builtin) (values : List Value) :
    inner.pairs (Machine.act (Run.onWorld (builtin.call values)))
      (Machine.act (Run.onWorld (builtin.call values)))
  settle (answer : Answer) :
    inner.pairs (Machine.act (Run.onWorld (World.settle answer)))
      (Machine.act (Run.onWorld (World.settle answer)))
  callee (span : Span) (name : Name) (given : Nat) :
    inner.holds (fun found => ∀ function ∈ found, called function)
      (Machine.act (Run.callee firstLimits span name given))
      (Machine.act (Run.callee secondLimits span name given))
  opening (statement : Stmt) :
    outer.pairs (Machine.opening firstLimits statement) (Machine.opening secondLimits statement)
  bind (name : Name) (value : Value) :
    outer.pairs (Machine.act (Run.bind name value)) (Machine.act (Run.bind name value))
  register (function : Function) : known function →
    outer.pairs (Machine.act (Run.register function)) (Machine.act (Run.register function))
  ignore (name : Name) :
    outer.pairs (Machine.act (Run.note (.importIgnored name)))
      (Machine.act (Run.note (.importIgnored name)))

namespace CoupledActions

variable {M N : Type → Type} [Monad M] [Monad N] [Machine M] [Machine N]
  {known called : Function → Prop} {firstLimits secondLimits : Limits} {fuel more : Nat}
  {inner outer : Coupling M N}

open Coupling

/-- One level of an expression, if the levels below it are coupled and so are the calls that come
about. -/
theorem evaluate_step [LawfulMonad M] [LawfulMonad N]
    (coupled : CoupledActions known called firstLimits secondLimits inner outer) (expr : Expr)
    (expressions : ∀ part : Expr, part.height < expr.height →
      inner.pairs (Machine.evaluate firstLimits fuel part)
        (Machine.evaluate secondLimits more part))
    (calls : ∀ function values, called function →
      inner.pairs
        (Machine.inCall function.parameters values
          (Machine.execute firstLimits fuel function.body))
        (Machine.inCall function.parameters values
          (Machine.execute secondLimits more function.body))) :
    inner.pairs (Machine.evaluate firstLimits (fuel + 1) expr)
      (Machine.evaluate secondLimits (more + 1) expr) := by
  have all (items : List Expr) (lower : Expr.allHeight items < expr.height) :
      inner.pairs (items.mapM (Machine.evaluate firstLimits fuel))
        (items.mapM (Machine.evaluate secondLimits more)) :=
    pairs_mapM fun item member =>
      expressions item (Nat.lt_of_le_of_lt (Expr.height_le_allHeight member) lower)
  simp only [Machine.evaluate]
  refine pairs_bind (coupled.visit expr) fun _ => ?_
  cases expr with
  | number span value => exact pairs_pure _
  | string span text => exact pairs_pure _
  | name span name =>
    exact coupled.ask fun locals globals _ =>
      ((Frame.lookup locals name).or (globals.find? name)).getD .none
  | binary span operator left right =>
    rw [Expr.height] at expressions
    exact pairs_bind (expressions left (by omega)) fun left =>
      pairs_bind (expressions right (by omega)) fun right =>
        coupled.ask fun _ _ heap => operator.apply heap left right
  | unary span operator operand =>
    exact pairs_bind (expressions operand (Nat.lt_succ_self _)) fun _ => pairs_pure _
  | call span name arguments =>
    have values := all arguments (Nat.lt_succ_self _)
    dsimp only
    cases Builtin.ofName? name with
    | some builtin =>
      exact pairs_bind values fun values => coupled.builtin builtin values
    | none =>
      refine inner.bind (coupled.callee span name arguments.length) fun found allCalled => ?_
      cases found with
      | none => exact pairs_pure _
      | some function =>
        exact pairs_bind values fun values =>
          pairs_bind (calls function values (allCalled function rfl)) fun _ => pairs_pure _
  | paren span inner => exact expressions inner (Nat.lt_succ_self _)
  | list span items =>
    exact pairs_bind (all items (Nat.lt_succ_self _)) fun values => coupled.settle (.list values)
  | subscript span target index =>
    rw [Expr.height] at expressions
    exact pairs_bind (expressions target (by omega)) fun target =>
      pairs_bind (expressions index (by omega)) fun index =>
        coupled.ask fun _ _ heap => heap.subscript target index

/-- One level of a statement, if the levels below it are coupled. If the statement is a loop, it is
coupled when its rounds are. -/
theorem execute_step [LawfulMonad M] [LawfulMonad N]
    (coupled : CoupledActions known called firstLimits secondLimits inner outer)
    (statement : Stmt) (fit : statement.EachFunction known)
    (expressions : ∀ part : Expr, part.height < statement.height →
      inner.pairs (Machine.evaluate firstLimits fuel part)
        (Machine.evaluate secondLimits more part))
    (statements : ∀ part ∈ statement.parts, part.height < statement.height →
      outer.pairs (Machine.execute firstLimits fuel part)
        (Machine.execute secondLimits more part))
    (loops : statement.isWhile = true →
      ∀ {firstTest secondTest firstBody secondBody}, outer.pairs firstTest secondTest →
        outer.pairs firstBody secondBody →
          outer.pairs (Machine.whileTrue firstTest firstBody fuel)
            (Machine.whileTrue secondTest secondBody more)) :
    outer.pairs (Machine.execute firstLimits (fuel + 1) statement)
      (Machine.execute secondLimits (more + 1) statement) := by
  have value (expr : Expr) (lower : expr.height < statement.height) :=
    coupled.widen (expressions expr lower)
  have test (condition : Expr) (lower : condition.height < statement.height) : outer.pairs
      (Machine.evaluate firstLimits fuel condition >>= Machine.isTruthy)
      (Machine.evaluate secondLimits more condition >>= Machine.isTruthy) :=
    pairs_bind (value condition lower) fun value =>
      coupled.widen (coupled.ask fun _ _ heap => heap.isTruthy value)
  simp only [Machine.execute]
  rw [← bind_assoc (Machine.visit (.statement statement) : M Unit),
    ← bind_assoc (Machine.visit (.statement statement) : N Unit)]
  refine pairs_bind (coupled.opening statement) fun _ => ?_
  cases statement with
  | expr expr =>
    exact pairs_bind (value expr (Nat.lt_succ_self _)) fun _ => pairs_pure _
  | returns span result =>
    cases result with
    | none => exact pairs_pure _
    | some expr => exact pairs_bind (value expr (Nat.lt_succ_self _)) fun _ => pairs_pure _
  | define span name parameters body =>
    exact pairs_bind (coupled.register _ fit.1) fun _ => pairs_pure _
  | assign span name expr =>
    exact pairs_bind (value expr (Nat.lt_succ_self _)) fun result =>
      pairs_bind (coupled.bind name result) fun _ => pairs_pure _
  | forLoop span name iterable body =>
    rw [Stmt.height] at value statements
    have inside : body ∈ (Stmt.forLoop span name iterable body).parts :=
      List.mem_cons_of_mem _ body.mem_parts_self
    refine pairs_bind (value iterable (by omega)) fun result => ?_
    cases result with
    | list handle =>
      refine pairs_bind (coupled.widen (coupled.ask fun _ _ heap => heap.items handle))
        fun values => ?_
      exact pairs_forEach (fun item => pairs_bind (coupled.bind name item) fun _ =>
        statements body inside (by omega)) values
    | none => exact pairs_pure _
    | int number => exact pairs_pure _
    | str text => exact pairs_pure _
  | branch span condition body others =>
    exact pairs_follow (.arm condition body others) (Nat.le_refl _)
      (fun part low => test part (Nat.lt_succ_of_le low))
      fun part inside low => statements part (List.mem_cons_of_mem _ inside)
        (Nat.lt_succ_of_le low)
  | whileLoop span condition body =>
    rw [Stmt.height] at test statements
    have inside : body ∈ (Stmt.whileLoop span condition body).parts :=
      List.mem_cons_of_mem _ body.mem_parts_self
    exact loops rfl (test condition (by omega)) (statements body inside (by omega))
  | pass span => exact pairs_pure _
  | breaks span => exact pairs_pure _
  | continues span => exact pairs_pure _
  | imports span name => exact pairs_bind (coupled.ignore name) fun _ => pairs_pure _

end CoupledActions

/-! ### Coupled evaluations -/

/-- Besides the single actions, the couplings hold of the lack of fuel and of calls of known
functions. The second evaluation has `extra` more fuel than the first. -/
structure Coupled {M N : Type → Type} [Monad M] [Monad N] [Machine M] [Machine N]
    (known : Function → Prop) (firstLimits secondLimits : Limits) (extra : Nat)
    (inner outer : Coupling M N) : Prop
    extends CoupledActions known known firstLimits secondLimits inner outer where
  exhausted {Result : Type} (second : N Result) (same : extra = 0 → second = Machine.giveUp) :
    inner.pairs Machine.giveUp second
  inCall {Result : Type} {first : M Result} {second : N Result} (function : Function)
    (values : List Value) : known function → outer.pairs first second →
      inner.pairs (Machine.inCall function.parameters values first)
        (Machine.inCall function.parameters values second)

namespace Coupled

variable {M N : Type → Type} [Monad M] [Monad N] [Machine M] [Machine N] [LawfulMonad M]
  [LawfulMonad N] {known : Function → Prop} {firstLimits secondLimits : Limits} {extra : Nat}
  {inner outer : Coupling M N}

open Coupling

/-- What holds of the actions of the evaluator holds of all it does, at every amount of fuel. -/
theorem evaluate_execute (coupled : Coupled known firstLimits secondLimits extra inner outer)
    (closed : ∀ function, known function → function.body.EachFunction known) (fuel : Nat) :
    (∀ expr, inner.pairs (Machine.evaluate firstLimits fuel expr)
      (Machine.evaluate secondLimits (fuel + extra) expr)) ∧
    ∀ statement : Stmt, statement.EachFunction known →
      outer.pairs (Machine.execute firstLimits fuel statement)
        (Machine.execute secondLimits (fuel + extra) statement) := by
  induction fuel with
  | zero =>
    rw [Nat.zero_add]
    constructor
    · intro expr
      rw [Machine.evaluate]
      exact coupled.exhausted _ fun none => by rw [none, Machine.evaluate]
    · intro statement _
      rw [Machine.execute]
      exact coupled.widen (coupled.exhausted _ fun none => by rw [none, Machine.execute])
  | succ fuel hypothesis =>
    obtain ⟨expressions, statements⟩ := hypothesis
    rw [Nat.add_right_comm]
    refine ⟨fun expr => coupled.evaluate_step expr (fun part _ => expressions part)
      fun function values isKnown => coupled.inCall function values isKnown
        (statements function.body (closed function isKnown)), fun statement fit => ?_⟩
    refine coupled.execute_step statement fit (fun part _ => expressions part)
      (fun part inside _ => statements part (fit.of_part inside)) fun _ _ _ _ _ test body => ?_
    exact pairs_whileTrue test body extra
      (fun second same => coupled.widen (coupled.exhausted second same)) fuel

theorem executeAll (coupled : Coupled known firstLimits secondLimits extra inner outer)
    (closed : ∀ function, known function → function.body.EachFunction known) (fuel : Nat)
    (statements : List Stmt) (fit : ∀ statement ∈ statements, statement.EachFunction known) :
    outer.pairs (Machine.executeAll firstLimits fuel statements)
      (Machine.executeAll secondLimits (fuel + extra) statements) :=
  pairs_executeAll fun statement member =>
    (coupled.evaluate_execute closed fuel).2 statement (fit statement member)

end Coupled

end Scriptling
