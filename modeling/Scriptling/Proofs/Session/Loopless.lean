/-
This file proves that every run comes to an end in which no `while` stands,
whatever its budget and if it has none. A loop over a list goes round once for
each item that the list has when the loop begins, so only calls could go on for
ever, and of those only so many may be in progress at once. The arguments of a
call are evaluated before it is counted, at the depth of the caller, and they are
lower than the call; its body is evaluated one level deeper, and it may be as high
as any. So the fuel that is needed is what is left of the tree, and besides the
height of the highest function for every call that may still be opened.

Which functions there are may change while a run goes on. New ones come from
definitions inside the program and the functions that were there, and neither
these nor their bodies have a `while` in them.
-/

import Scriptling.Proofs.Session.Termination

namespace Scriptling

/-! ### Texts without such loops -/

/-- No `while` is part of a statement, at any depth. -/
def Stmt.WithoutWhile (statement : Stmt) : Prop :=
  ∀ part ∈ statement.parts, part.isWhile = false

instance (statement : Stmt) : Decidable statement.WithoutWhile :=
  inferInstanceAs (Decidable (∀ part ∈ statement.parts, part.isWhile = false))

theorem Stmt.WithoutWhile.of_part {statement part : Stmt} (without : statement.WithoutWhile)
    (inside : part ∈ statement.parts) : part.WithoutWhile :=
  fun _ deeper => without _ (statement.parts_subset inside deeper)

/-- A definition without `while` is one of a function without `while`. -/
theorem Stmt.WithoutWhile.eachFunction {statement : Stmt} (without : statement.WithoutWhile) :
    statement.EachFunction fun function => function.body.WithoutWhile := by
  refine statement.eachFunction_iff.mpr fun function inside => (without.of_part inside).of_part ?_
  unfold Function.definition
  rw [Stmt.parts]
  exact List.mem_cons_of_mem _ function.body.mem_parts_self

/-- No `while` is part of a program, at any depth. -/
def Program.WithoutWhile (program : Program) : Prop :=
  ∀ item ∈ program.items, item.WithoutWhile

instance (program : Program) : Decidable program.WithoutWhile :=
  inferInstanceAs (Decidable (∀ item ∈ program.items, item.WithoutWhile))

/-- A function has no `while` in it, and its body is no higher than a height. -/
structure Function.Bounded (height : Nat) (function : Function) : Prop where
  low : function.body.height ≤ height
  without : function.body.WithoutWhile

theorem Stmt.WithoutWhile.eachBounded {statement : Stmt} (without : statement.WithoutWhile)
    {height : Nat} (low : statement.height ≤ height) :
    statement.EachFunction (Function.Bounded height) :=
  statement.eachFunction_iff.mpr fun function inside =>
    ⟨statement.eachFunction_iff.mp (statement.eachFunction_height low) function inside,
      statement.eachFunction_iff.mp without.eachFunction function inside⟩

/-! ### Work at a depth of calls -/

/-- So many calls are in progress, and every function is bounded. -/
structure Session.AtDepth (height depth : Nat) (session : Session) : Prop where
  functions : session.EachFunction (Function.Bounded height)
  depth : session.depth = depth

theorem actionInvariant_atDepth (height depth : Nat) :
    ActionInvariant (Function.Bounded height) (Session.AtDepth height depth) where
  streams _ held := ⟨held.functions, held.depth⟩
  note _ held := ⟨held.functions, held.depth⟩
  register bounded held :=
    ⟨(sessionInvariant_eachFunction _).register bounded held.functions, held.depth⟩
  lookup found held := held.functions _ (List.mem_of_find?_eq_some found)

theorem Session.AtDepth.define {height depth : Nat} {session after : Session} {name : Name}
    {value : Value} (defined : session.define name value = .ok after)
    (held : session.AtDepth height depth) : after.AtDepth height depth :=
  ⟨(sessionInvariant_eachFunction _).define defined held.functions,
    (Session.calls_of_define defined).1.trans held.depth⟩

/-- Work that begins at a depth does not lack fuel, and unless it is cut short it ends at that
depth. What it gives satisfies a condition. -/
def Stays {Result : Type} (height depth : Nat) (condition : Result → Prop) (work : Run Result) :
    Prop :=
  ∀ session : Session, session.AtDepth height depth →
    Ends work session (fun result after => after.AtDepth height depth ∧ condition result)
      fun abort _ => abort ≠ .outOfFuel

/-- The coupling of work with itself that stays at a depth. -/
def staying (height depth : Nat) : Coupling Run Run where
  holds condition work _ := Stays height depth condition work
  pure _ holds := fun _ held => ⟨held, holds⟩
  bind head tail session held := by
    rw [ends_bind]
    exact (head session held).weaken (fun value middle kept => tail value kept.2 middle kept.1)
      fun _ _ cut => cut

section

variable {height depth : Nat}

theorem stays_of_acts {Result : Type} {condition : Result → Prop} {action : Run Result}
    (acts : Acts (Session.AtDepth height depth) condition action) :
    Stays height depth condition action :=
  fun _ held => acts.ends_fuelled held

theorem stays_world {Result : Type} (action : WorldAction Result) :
    Stays height depth (fun _ => True) (Run.onWorld action) :=
  stays_of_acts (acts_onWorld (fun _ held => ⟨held.functions, held.depth⟩) action)

/-- A function is only called if there may be one more call. -/
theorem stays_callee (limits : Limits) (span : Span) (name : Name) (given : Nat) :
    Stays height depth
      (fun found => ∀ function ∈ found, function.Bounded height ∧ depth < limits.callDepth)
      (Run.callee limits span name given) := by
  intro session held
  have ends := ((actionInvariant_atDepth height depth).acts_callee limits span name
    given).ends_fuelled held
  refine ends.withEnd.weaken ?_ fun _ _ cut => cut.2
  rintro found after ⟨ended, kept, bounded⟩
  refine ⟨kept, fun function same => ⟨bounded function same, ?_⟩⟩
  cases same
  obtain ⟨-, -, room, -⟩ := Run.callee_eq_some ended
  exact held.depth ▸ room

theorem stays_opening (limits : Limits) (statement : Stmt) :
    Stays height depth (fun _ => True) (Machine.opening limits statement : Run Unit) := by
  intro session held
  rw [Machine.opening, ends_bind, Machine.visit]
  exact Run.ends_tick ⟨⟨held.functions, held.depth⟩, trivial⟩ fun _ => Abort.noConfusion

/-- The body of a call works one level deeper. -/
theorem stays_inCall {work : Run Flow} (below : Stays height (depth + 1) (fun _ => True) work)
    (parameters : List Name) (values : List Value) :
    Stays height depth (fun _ => True) (Run.inCall parameters values work) := by
  intro session held
  have entered : session.enter.AtDepth height depth := ⟨held.functions, held.depth⟩
  have opens := (actionInvariant_atDepth height depth).ends_openCall parameters values
    (fun _ _ _ => Session.AtDepth.define) entered
  unfold Run.inCall
  rw [ends_bind]
  refine opens.weaken ?_ ?_
  · rintro _ _ ⟨inside, before, rfl⟩
    have deeper : inside.deepen.AtDepth height (depth + 1) :=
      ⟨before.functions, congrArg Nat.succ before.depth⟩
    rw [Run.ends_closing]
    exact (below inside.deepen deeper).weaken
      (fun _ _ after => ⟨⟨after.1.functions, congrArg Nat.pred after.1.depth⟩, trivial⟩)
      fun _ _ cut => cut
  · rintro _ _ ⟨-, fault, rfl⟩
    exact Abort.noConfusion

theorem coupledActions_staying (limits : Limits) (height depth : Nat) :
    CoupledActions (Function.Bounded height)
      (fun function => function.Bounded height ∧ depth < limits.callDepth) limits limits
      (staying height depth) (staying height depth) where
  widen := id
  ask _ := fun _ held => ⟨held, trivial⟩
  visit _ := fun _ held => ⟨held, trivial⟩
  builtin _ _ := stays_world _
  settle _ := stays_world _
  callee := stays_callee limits
  opening := stays_opening limits
  bind _ _ := stays_of_acts
    ((actionInvariant_atDepth height depth).acts_bindName Session.AtDepth.define)
  register _ bounded := stays_of_acts ((actionInvariant_atDepth height depth).acts_register bounded)
  ignore _ := stays_of_acts ((actionInvariant_atDepth height depth).acts_note rfl)

end

/-! ### Evaluation -/

/-- The fuel that is needed below a part of a tree, for so many calls that may still be opened. -/
theorem room_of_call (height : Nat) {depth callDepth : Nat} (left : depth < callDepth) :
    height + height * (callDepth - (depth + 1)) = height * (callDepth - depth) := by
  rw [show callDepth - depth = callDepth - (depth + 1) + 1 by omega, Nat.mul_succ, Nat.add_comm]

/-- With fuel for itself and for the calls that may still be opened, nothing without `while` lacks
it. -/
theorem stays_evaluate_execute (limits : Limits) (height fuel : Nat) :
    (∀ depth, ∀ expr : Expr, expr.height + height * (limits.callDepth - depth) ≤ fuel →
      Stays height depth (fun _ => True) (Machine.evaluate limits fuel expr : Run Value)) ∧
    ∀ depth, ∀ statement : Stmt, statement.WithoutWhile → statement.height ≤ height →
      statement.height + height * (limits.callDepth - depth) ≤ fuel →
        Stays height depth (fun _ => True) (Machine.execute limits fuel statement : Run Flow) := by
  -- At each level what is left of the tree is lower, or one more call is open.
  induction fuel with
  | zero =>
    constructor
    · intro _ expr enough
      exact absurd expr.height_pos (by omega)
    · intro _ statement _ _ enough
      exact absurd statement.height_pos (by omega)
  | succ fuel hypothesis =>
    obtain ⟨expressions, statements⟩ := hypothesis
    refine ⟨fun depth expr enough => ?_, fun depth statement without low enough => ?_⟩
    · have positive := expr.height_pos
      show (staying height depth).pairs (Machine.evaluate limits (fuel + 1) expr)
        (Machine.evaluate limits (fuel + 1) expr)
      refine (coupledActions_staying limits height depth).evaluate_step expr
        (fun part lower => expressions depth part (by omega)) ?_
      rintro function values ⟨bounded, left⟩
      have room := room_of_call height left
      have bodyLow := bounded.low
      exact stays_inCall
        (statements (depth + 1) function.body bounded.without bodyLow (by omega)) _ values
    · show (staying height depth).pairs (Machine.execute limits (fuel + 1) statement)
        (Machine.execute limits (fuel + 1) statement)
      refine (coupledActions_staying limits height depth).execute_step statement
        (without.eachBounded low) (fun part lower => expressions depth part (by omega))
        (fun part inside lower => statements depth part (without.of_part inside) (by omega)
          (by omega)) fun loop => ?_
      have none := without statement statement.mem_parts_self
      rw [loop] at none
      cases none

/-- Statements one after another need no more fuel than the highest of them. -/
theorem stays_executeAll (limits : Limits) {height depth fuel : Nat} {statements : List Stmt}
    (enough : height * (limits.callDepth - depth + 1) ≤ fuel)
    (without : ∀ statement ∈ statements, statement.WithoutWhile)
    (low : ∀ statement ∈ statements, statement.height ≤ height) :
    Stays height depth (fun _ => True)
      (Machine.executeAll limits fuel statements : Run Unit) := by
  show (staying height depth).pairs (Machine.executeAll limits fuel statements)
    (Machine.executeAll limits fuel statements)
  refine Coupling.pairs_executeAll fun statement member => ?_
  have lower := low statement member
  rw [Nat.mul_succ] at enough
  exact (stays_evaluate_execute limits height fuel).2 depth statement (without statement member)
    lower (by omega)

/-! ### Whole runs -/

namespace Run

theorem not_exhausted_of_stays {Result : Type} {height depth : Nat} {condition : Result → Prop}
    {work : Run Result} (stays : Stays height depth condition work) {session : Session}
    (held : session.AtDepth height depth) : ¬Exhausted (work session) :=
  not_exhausted_iff.mpr ((stays session held).weaken (fun _ _ _ => trivial) fun _ _ cut => cut)

section

variable (limits : Limits) {session : Session}
  (functions : session.EachFunction fun function => function.body.WithoutWhile)

include functions

/-- The functions that were there and those of the program are bounded. -/
theorem atDepth_prepare {program : Program} (items : program.WithoutWhile) :
    (stateAfter (prepare program) session).AtDepth
      (max session.functions.height program.height) session.depth := by
  have kept := actionInvariant_atDepth (max session.functions.height program.height) session.depth
  have bounded : session.AtDepth (max session.functions.height program.height) session.depth :=
    ⟨fun function member => ⟨Nat.le_trans (Registry.height_le_of_mem member) (Nat.le_max_left _ _),
      functions function member⟩, rfl⟩
  refine stateAfter_of_keeps (kept.keeps_prepare (fun _ held => ⟨held.functions, held.depth⟩)
    program ?_) bounded
  exact SessionInvariant.allKnown_of_fit fun item member => (items item member).eachBounded
    (Nat.le_trans (Program.height_le_of_mem member) (Nat.le_max_right _ _))

theorem terminates_executeAll_of_withoutWhile {program : Program} (items : program.WithoutWhile) :
    Terminates
      (max session.functions.height program.height * (limits.callDepth - session.depth + 1))
      (fun fuel => executeAll limits fuel program.items)
      (stateAfter (prepare program) session) := by
  intro fuel enough
  have ends {fuel : Nat} (enough : max session.functions.height program.height *
      (limits.callDepth - session.depth + 1) ≤ fuel) :
      ¬Exhausted (executeAll limits fuel program.items (stateAfter (prepare program) session)) :=
    not_exhausted_of_stays (stays_executeAll limits enough items fun _ member =>
      Nat.le_trans (Program.height_le_of_mem member) (Nat.le_max_right _ _))
        (atDepth_prepare functions items)
  exact ⟨ends enough, executeAll_of_le enough (ends (Nat.le_refl _))⟩

theorem terminates_evaluate_of_withoutWhile (expr : Expr) :
    Terminates (expr.height + session.functions.height * (limits.callDepth - session.depth))
      (fun fuel => evaluate limits fuel expr) { session with steps := 0 } := by
  intro fuel enough
  have held : Session.AtDepth session.functions.height session.depth { session with steps := 0 } :=
    ⟨fun function member => ⟨Registry.height_le_of_mem member, functions function member⟩, rfl⟩
  have ends {fuel : Nat} (enough : expr.height + session.functions.height *
      (limits.callDepth - session.depth) ≤ fuel) :
      ¬Exhausted (evaluate limits fuel expr { session with steps := 0 }) :=
    not_exhausted_of_stays
      ((stays_evaluate_execute limits session.functions.height fuel).1 session.depth expr enough)
      held
  exact ⟨ends enough, evaluate_of_le enough (ends (Nat.le_refl _))⟩

end

end Run

/-- Without `while` every run comes to an end, with a budget or without one, however its functions
call and redefine each other. For a program it is fuel enough, for every call that may still be
opened and once more, to have as much as the highest of the session's functions and the program's
statements is high; for an expression it is the height of the expression, and that of the highest
function for every call. With that or more a run never lacks fuel inside, and then it does not
depend on fuel how it ends. -/
theorem runs_without_while_end (limits : Limits) (session : Session)
    (functions : session.EachFunction fun function => function.body.WithoutWhile) :
    (∀ program : Program, program.WithoutWhile →
      let enough :=
        max session.functions.height program.height * (limits.callDepth - session.depth + 1)
      Run.Terminates enough (fun fuel => Run.executeAll limits fuel program.items)
        (stateAfter (Run.prepare program) session) ∧
      Run.Terminates enough (fun fuel => Run.program limits fuel program) session) ∧
    ∀ expr : Expr,
      let enough := expr.height + session.functions.height * (limits.callDepth - session.depth)
      Run.Terminates enough (fun fuel => Run.evaluate limits fuel expr)
        { session with steps := 0 } ∧
      Run.Terminates enough (fun fuel => Run.expression limits fuel expr) session := by
  constructor
  · intro program items
    have inside := Run.terminates_executeAll_of_withoutWhile limits functions items
    refine ⟨inside, ?_⟩
    simp only [Run.program_eq_finished, Run.Terminates]
    exact inside.finished
  · intro expr
    have inside := Run.terminates_evaluate_of_withoutWhile limits functions expr
    exact ⟨inside, inside.finished⟩

/-- A function that only ever calls itself, in its arguments as well, is stopped by the depth of its
calls, with a little fuel or with a lot. -/
theorem endless_recursion_ends :
    let body := Stmt.returns ⟨10, 24, 1, 11⟩ (some (.call ⟨17, 24, 1, 18⟩ (ascii "f")
      [.call ⟨19, 23, 1, 20⟩ (ascii "f") [.name ⟨21, 22, 1, 22⟩ (ascii "x")]]))
    let program : Program := ⟨[.define ⟨0, 24, 1, 1⟩ (ascii "f") [ascii "x"] body,
      .expr (.call ⟨25, 29, 2, 1⟩ (ascii "f") [.number ⟨27, 28, 2, 3⟩ 1])]⟩
    let session := Session.start (Streams.reliable [])
    program.WithoutWhile ∧ program.height = 5 ∧
    ¬Exhausted (Run.program ⟨3, none⟩ 1000000 program session) ∧
    (stateAfter (Run.program ⟨3, none⟩ 1000000 program) session).steps = 9 := by
  intro body program session
  have without : program.WithoutWhile := by decide
  obtain ⟨programs, -⟩ := runs_without_while_end ⟨3, none⟩ session
    fun _ member => absurd member List.not_mem_nil
  obtain ⟨-, ends⟩ := programs program without
  obtain ⟨enough, same⟩ := ends 1000000 (by decide)
  have steps : (stateAfter (Run.program ⟨3, none⟩ 20 program) session).steps = 9 := by
    decide +kernel
  refine ⟨without, rfl, enough, ?_⟩
  rw [stateAfter_congr same]
  exact steps

end Scriptling
