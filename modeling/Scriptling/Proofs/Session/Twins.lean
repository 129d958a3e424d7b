/-
This file runs the same text in two sessions that are alike. It does the same in
both: it talks alike to the streams, registers the same functions and ends in the
same way, with values that are alike, and the sessions are still alike then. So a
text can see neither the numbers of the lists nor lists that no variable leads
to, and neither variables that it does not read nor the log. Nor can it see where
it stands in its source, unless statements are limited: only the message for one
too many is kept with its place.

An expression may be evaluated in any frame, but a statement only where binding
a name keeps the frames alike. In the frame of a call that is always so.
-/

import Scriptling.Proofs.Session.Likeness

namespace Scriptling

/-! ### Evaluation -/

/-- Two statements ended alike. -/
inductive Flow.Alike (pairs : Nat → Nat → Prop) : Flow → Flow → Prop
  | done : Alike pairs .done .done
  | returns {value twin : Value} : value.Alike pairs twin →
    Alike pairs (.returns value) (.returns twin)
  | breaks : Alike pairs .breaks .breaks
  | continues : Alike pairs .continues .continues

theorem Flow.Alike.result {pairs : Nat → Nat → Prop} {flow twin : Flow}
    (alike : flow.Alike pairs twin) : flow.result.Alike pairs twin.result := by
  cases alike with
  | done => exact .none
  | returns value => exact value
  | breaks => exact .none
  | continues => exact .none

namespace Likeness

/-- Flows that are alike in the sessions. -/
abbrev Flows (likeness : Likeness) : Flow → Flow → Prop :=
  Flow.Alike likeness.pairing.Pairs

end Likeness

namespace Machine

variable {likeness : Likeness} {frames : Nat}

theorem relates_giveUp {Result Twin : Type} {related : Result → Twin → Prop} :
    likeness.Relates frames related (giveUp : Run Result) (giveUp : Run Twin) :=
  relates_throw (fun _ _ alike => alike.toAlike) Abort.outOfFuel

theorem relates_forEach {first second : Value → Run Flow}
    (each : ∀ value twin, likeness.Values value twin →
      likeness.Relates frames likeness.Flows (first value) (second twin))
    {values twins : List Value} (alike : List.Forall₂ likeness.Values values twins) :
    likeness.Relates frames likeness.Flows (forEach first values) (forEach second twins) := by
  induction alike with
  | nil => exact relates_pure .done
  | cons head _ hypothesis =>
    refine relates_bind (each _ _ head) fun flow twin ended => ?_
    cases ended with
    | done => exact hypothesis
    | continues => exact hypothesis
    | breaks => exact relates_pure .done
    | returns value => exact relates_pure (.returns value)

theorem relates_whileTrue {firstTest secondTest : Run Bool} {firstBody secondBody : Run Flow}
    (tests : likeness.Relates frames Eq firstTest secondTest)
    (bodies : likeness.Relates frames likeness.Flows firstBody secondBody) (rounds : Nat) :
    likeness.Relates frames likeness.Flows (whileTrue firstTest firstBody rounds)
      (whileTrue secondTest secondBody rounds) := by
  induction rounds with
  | zero => exact relates_giveUp
  | succ rounds hypothesis =>
    refine relates_then tests fun holds => ?_
    cases holds with
    | false => exact relates_pure .done
    | true =>
      refine relates_bind bodies fun flow twin ended => ?_
      cases ended with
      | done => exact hypothesis
      | continues => exact hypothesis
      | breaks => exact relates_pure .done
      | returns value => exact relates_pure (.returns value)

theorem relates_follow {test : Expr → Run Bool} {run : Stmt → Run Flow}
    (tests : ∀ condition : Expr, (∀ name ∈ condition.reads, likeness.mentions name) →
      likeness.Relates frames Eq (test condition) (test (condition.moved likeness.move)))
    (runs : ∀ body : Stmt, (∀ name ∈ body.reads, likeness.mentions name) →
      likeness.Relates frames likeness.Flows (run body) (run (body.moved likeness.move))) :
    ∀ branches : Branches, (∀ name ∈ branches.reads, likeness.mentions name) →
      likeness.Relates frames likeness.Flows (follow test run branches)
        (follow test run (branches.moved likeness.move))
  | .arm condition body others, mentioned => by
    simp only [Branches.reads, List.forall_mem_append] at mentioned
    refine relates_then (tests condition mentioned.1) fun holds => ?_
    cases holds with
    | true => exact runs body mentioned.2.1
    | false => exact relates_follow tests runs others mentioned.2.2
  | .otherwise body, mentioned => runs body mentioned
  | .done, _ => relates_pure .done

/-- One level of an expression, if the levels below it do the same on both sides. -/
theorem relates_evaluate_step {fuel : Nat}
    (expressions : ∀ expr : Expr, (∀ name ∈ expr.reads, likeness.mentions name) →
      likeness.Relates frames likeness.Values (Machine.evaluate likeness.limits fuel expr)
        (Machine.evaluate likeness.limits fuel (expr.moved likeness.move)))
    (bodies : ∀ body : Stmt, (∀ name ∈ body.reads, likeness.mentions name) →
      likeness.Relates (frames + 1) likeness.Flows (Machine.execute likeness.limits fuel body)
        (Machine.execute likeness.limits fuel (body.moved likeness.move)))
    (expr : Expr) (mentioned : ∀ name ∈ expr.reads, likeness.mentions name) :
    likeness.Relates frames likeness.Values (Machine.evaluate likeness.limits (fuel + 1) expr)
      (Machine.evaluate likeness.limits (fuel + 1) (expr.moved likeness.move)) := by
  have all (items : List Expr)
      (mentioned : ∀ name ∈ Expr.allReads items, likeness.mentions name) :
      likeness.Relates frames (List.Forall₂ likeness.Values)
        (items.mapM (Machine.evaluate likeness.limits fuel))
        ((Expr.allMoved likeness.move items).mapM (Machine.evaluate likeness.limits fuel)) := by
    rw [Expr.allMoved_eq_map, List.mapM_map]
    exact relates_mapM fun item member => expressions item fun name inside =>
      mentioned name (Expr.reads_subset_allReads member inside)
  simp only [Machine.evaluate]
  refine relates_then (relates_pure rfl) fun _ => ?_
  cases expr with
  | number span value => exact relates_pure (.int value)
  | string span text => exact relates_pure (.str text)
  | name span name =>
    exact Run.relates_ask fun _ _ alike =>
      Value.alike_getD (alike.lookup (mentioned name List.mem_cons_self))
  | binary span operator left right =>
    simp only [Expr.reads, List.forall_mem_append] at mentioned
    refine relates_bind (expressions left mentioned.1) fun value twin lefts => ?_
    refine relates_bind (expressions right mentioned.2) fun other also rights => ?_
    exact Run.relates_ask fun _ _ alike =>
      operator.alike_apply alike.world.heap.matched lefts rights
  | unary span operator operand =>
    exact relates_bind (expressions operand mentioned) fun _ _ values =>
      relates_pure (operator.alike_apply values)
  | call span name arguments =>
    have values := all arguments mentioned
    dsimp only [Expr.moved]
    rw [Expr.length_allMoved]
    cases Builtin.ofName? name with
    | some builtin =>
      exact relates_bind values fun _ _ alike =>
        Run.relates_onWorld (builtin.relates_call alike)
    | none =>
      refine relates_bind (Run.relates_callee span _ name arguments.length) ?_
      rintro found _ ⟨rfl, known⟩
      cases found with
      | none => exact relates_pure .none
      | some function =>
        refine relates_bind values fun given twins alike => ?_
        refine relates_bind (Run.relates_inCall function.parameters alike
          (bodies function.body (known function rfl))) fun flow twin ended => ?_
        exact relates_pure ended.result
  | paren span inner => exact expressions inner mentioned
  | list span items =>
    exact relates_bind (all items mentioned) fun _ _ alike =>
      Run.relates_onWorld fun first second worlds => by
        obtain ⟨value, heap⟩ := worlds.heap.settle (.list alike)
        exact ⟨value, heap, worlds.streams⟩
  | subscript span target index =>
    simp only [Expr.reads, List.forall_mem_append] at mentioned
    refine relates_bind (expressions target mentioned.1) fun value twin targets => ?_
    refine relates_bind (expressions index mentioned.2) fun other also indices => ?_
    exact Run.relates_ask fun _ _ alike => alike.world.heap.matched.subscript targets indices

/-- One level of a statement, where names may be bound. -/
theorem relates_execute_step {fuel : Nat} (binds : likeness.Binds frames)
    (expressions : ∀ expr : Expr, (∀ name ∈ expr.reads, likeness.mentions name) →
      likeness.Relates frames likeness.Values (Machine.evaluate likeness.limits fuel expr)
        (Machine.evaluate likeness.limits fuel (expr.moved likeness.move)))
    (statements : ∀ statement : Stmt, (∀ name ∈ statement.reads, likeness.mentions name) →
      likeness.Relates frames likeness.Flows (Machine.execute likeness.limits fuel statement)
        (Machine.execute likeness.limits fuel (statement.moved likeness.move)))
    (statement : Stmt) (mentioned : ∀ name ∈ statement.reads, likeness.mentions name) :
    likeness.Relates frames likeness.Flows
      (Machine.execute likeness.limits (fuel + 1) statement)
      (Machine.execute likeness.limits (fuel + 1) (statement.moved likeness.move)) := by
  have test (condition : Expr)
      (mentioned : ∀ name ∈ condition.reads, likeness.mentions name) :
      likeness.Relates frames Eq
        (do Machine.isTruthy (← Machine.evaluate likeness.limits fuel condition) : Run Bool)
        (do
          let value ← Machine.evaluate likeness.limits fuel (condition.moved likeness.move)
          Machine.isTruthy value) :=
    relates_bind (expressions condition mentioned) fun _ _ values =>
      Run.relates_ask fun _ _ alike => alike.world.heap.matched.isTruthy values
  simp only [Machine.execute, Stmt.span_moved]
  refine relates_then (relates_pure rfl) fun _ => ?_
  refine relates_then (Run.relates_tick statement.span) fun _ => ?_
  cases statement with
  | expr value =>
    exact relates_bind (expressions value mentioned) fun _ _ _ => relates_pure .done
  | returns span result =>
    cases result with
    | none => exact relates_pure (.returns .none)
    | some value =>
      exact relates_bind (expressions value mentioned) fun _ _ values =>
        relates_pure (.returns values)
  | define span name parameters body =>
    exact relates_then (Run.relates_register mentioned) fun _ => relates_pure .done
  | assign span name value =>
    exact relates_bind (expressions value mentioned) fun _ _ values =>
      relates_then (Run.relates_bindName binds name values) fun _ => relates_pure .done
  | forLoop span name iterable body =>
    simp only [Stmt.reads, List.forall_mem_append] at mentioned
    refine relates_bind (expressions iterable mentioned.1) fun value twin values => ?_
    cases values with
    | list paired =>
      refine relates_bind (Run.relates_ask fun _ _ alike =>
        alike.world.heap.matched _ _ paired) fun items twins alike => ?_
      exact relates_forEach (fun value twin values =>
        relates_then (Run.relates_bindName binds name values) fun _ =>
          statements body mentioned.2) alike
    | none => exact relates_pure .done
    | int number => exact relates_pure .done
    | str text => exact relates_pure .done
  | branch span condition body others =>
    exact relates_follow test statements (.arm condition body others) mentioned
  | whileLoop span condition body =>
    simp only [Stmt.reads, List.forall_mem_append] at mentioned
    exact relates_whileTrue (test condition mentioned.1) (statements body mentioned.2) fuel
  | pass span => exact relates_pure .done
  | breaks span => exact relates_pure .breaks
  | continues span => exact relates_pure .continues
  | imports span name =>
    exact relates_then (Run.relates_note _ _) fun _ => relates_pure .done

/-- Whatever reads only variables that may be read does the same on both sides. -/
theorem relates_evaluate_execute (likeness : Likeness) (fuel : Nat) :
    (∀ frames (expr : Expr), (∀ name ∈ expr.reads, likeness.mentions name) →
      likeness.Relates frames likeness.Values (Machine.evaluate likeness.limits fuel expr)
        (Machine.evaluate likeness.limits fuel (expr.moved likeness.move))) ∧
    ∀ frames, likeness.Binds frames → ∀ statement : Stmt,
      (∀ name ∈ statement.reads, likeness.mentions name) →
        likeness.Relates frames likeness.Flows
          (Machine.execute likeness.limits fuel statement)
          (Machine.execute likeness.limits fuel (statement.moved likeness.move)) := by
  induction fuel with
  | zero =>
    refine ⟨fun frames expr _ => ?_, fun frames _ statement _ => ?_⟩
    · rw [Machine.evaluate]
      exact relates_giveUp
    · rw [Machine.execute]
      exact relates_giveUp
  | succ fuel hypothesis =>
    obtain ⟨expressions, statements⟩ := hypothesis
    exact ⟨fun frames => relates_evaluate_step (expressions frames)
        (statements (frames + 1) (.inl (Nat.succ_pos frames))),
      fun frames binds => relates_execute_step binds (expressions frames)
        (statements frames binds)⟩

theorem relates_executeAll (binds : likeness.Binds frames) (fuel : Nat) (statements : List Stmt)
    (mentioned : ∀ statement ∈ statements, ∀ name ∈ statement.reads, likeness.mentions name) :
    likeness.Relates frames Eq (Machine.executeAll likeness.limits fuel statements)
      (Machine.executeAll likeness.limits fuel (statements.map (Stmt.moved likeness.move))) := by
  induction statements with
  | nil => exact relates_pure rfl
  | cons statement rest hypothesis =>
    obtain ⟨head, tail⟩ := List.forall_mem_cons.mp mentioned
    refine relates_bind ((relates_evaluate_execute likeness fuel).2 frames binds statement head)
      fun flow twin ended => ?_
    cases ended with
    | done => exact hypothesis tail
    | continues => exact relates_pure rfl
    | breaks => exact relates_pure rfl
    | returns _ => exact relates_pure rfl

end Machine

/-! ### Whole runs -/

namespace Session

variable {likeness : Likeness} {first second : Session}

/-- Two sessions have the same functions and the same streams: what was written to each of them,
what is left of the input, and how they will go on. -/
structure SameOutside (first second : Session) : Prop where
  streams : first.world.streams = second.world.streams
  functions : first.functions = second.functions

theorem Alike.sameOutside (alike : Alike likeness first second) (still : likeness.move = id) :
    first.SameOutside second where
  streams := alike.world.streams
  functions := by rw [← alike.functions, still, Registry.moved_id]

theorem Alike.atTop (alike : Alike likeness first second) :
    AlikeWith likeness 0 first.atTop second.atTop :=
  ⟨⟨alike.globals, .nil, rfl, alike.functions, alike.mentioned, alike.world, alike.steps⟩, rfl⟩

end Session

/-- What does not open or close a call keeps to the top-level frame. -/
theorem actionInvariant_topLevel :
    ActionInvariant (fun _ => True) fun session => session.locals = [] where
  streams _ top := top
  note _ top := top
  register _ top := top
  lookup _ _ := trivial

/-- Two pieces of work on sessions that are alike at the top. However they end, the sessions are
alike at the top again. -/
abbrev Likeness.Renews {First Second Fault : Type} (likeness : Likeness)
    (related : First → Second → Prop) (first : EStateM Fault Session First)
    (second : EStateM Fault Session Second) : Prop :=
  Scriptling.Relates (Session.AlikeWith likeness 0) (Session.AlikeWith likeness 0) related first
    second

/-- The same likeness of sessions that may have counted their statements differently. -/
def Likeness.uncounted (likeness : Likeness) : Likeness :=
  { likeness with
    limits := ⟨likeness.limits.callDepth, none⟩
    placed := .inl rfl }

namespace Session.AlikeWith

variable {likeness : Likeness} {first second : Session}

/-- A run begins with a fresh count of statements. -/
theorem counted (alike : AlikeWith likeness.uncounted 0 first second) :
    AlikeWith likeness 0 { first with steps := 0 } { second with steps := 0 } :=
  ⟨⟨alike.globals, alike.locals, alike.depth, alike.functions, alike.mentioned, alike.world,
    .inr rfl⟩, alike.frames⟩

/-- After a run nobody looks at the count any more. -/
theorem uncounted (alike : AlikeWith likeness 0 first second) :
    AlikeWith likeness.uncounted 0 first second :=
  ⟨⟨alike.globals, alike.locals, alike.depth, alike.functions, alike.mentioned, alike.world,
    .inl rfl⟩, alike.frames⟩

end Session.AlikeWith

namespace Run

variable {likeness : Likeness} {First Second : Type} {related : First → Second → Prop}

/-- Work that keeps to the top-level frame, also if it is cut short. -/
theorem renews_of_relates {first : Run First} {second : Run Second}
    (relates : likeness.Relates 0 related first second)
    (keeps : Keeps (fun session => session.locals = []) (fun _ => True) first) :
    likeness.Renews related first second := by
  intro session other alike
  refine ((relates session other alike).withEnds
    (keeps session (List.length_eq_zero_iff.mp alike.frames))).weaken
      (fun _ _ _ _ held => held.1) ?_
  rintro final last ⟨still, _, top⟩
  exact ⟨still, List.length_eq_zero_iff.mpr top⟩

theorem renews_announce (diagnostic : Diagnostic) :
    likeness.Renews Eq (announce diagnostic) (announce diagnostic) :=
  renews_of_relates (relates_announce diagnostic)
    (actionInvariant_topLevel.acts_announce diagnostic).keeps

/-- Whatever calls were in progress, none is after the end of a run. -/
theorem endAlike_finish (abort? : Option Abort) {first second : Session}
    (alike : first.Alike likeness second) :
    EndAlike (finish abort?) (finish abort?) first second
      (fun _ _ final last => final.AlikeWith likeness 0 last) (Session.AlikeWith likeness 0) := by
  have flushes : likeness.Renews Eq (onWorld World.flush) (onWorld World.flush) :=
    renews_of_relates (relates_onWorld (World.relates_onOutput _))
      (actionInvariant_topLevel.acts_talking (World.talks_onOutput _)).keeps
  refine endAlike_bind (endAlike_bind ?_)
  refine (flushes _ _ alike.atTop).weaken (fun _ _ middle between held => ?_) fun _ _ cut => cut
  cases abort?.bind Abort.diagnostic? with
  | none => exact held.2
  | some diagnostic =>
    exact (renews_announce diagnostic middle between held.2).weaken
      (fun _ _ _ _ last => last.2) fun _ _ cut => cut

/-- Runs that end alike in sessions that are alike still do so with their ends. -/
theorem endAlike_finished {first : Run First} {second : Run Second} {session other : Session}
    (ended : EndAlike first second session other
      (fun result twin final last => related result twin ∧ final.Alike likeness last)
      (Session.Alike likeness)) :
    EndAlike (finished first) (finished second) session other
      (fun result twin final last => related result twin ∧ final.AlikeWith likeness 0 last)
      (Session.AlikeWith likeness 0) := by
  obtain ⟨result, final, twin, last, one, two, holds, still⟩ |
    ⟨abort, final, last, one, two, still⟩ := ended.cases
  · have here : finished first session = (do finish none; return result : Run First) final := by
      unfold finished
      rw [one]
    have there : finished second other = (do finish none; return twin : Run Second) last := by
      unfold finished
      rw [two]
    rw [endAlike_congr here there]
    exact endAlike_bind ((endAlike_finish none still).weaken
      (fun _ _ _ _ held => ⟨holds, held⟩) fun _ _ cut => cut)
  · have here : finished first session =
        (do finish (some abort); throw abort : Run First) final := by
      unfold finished
      rw [one]
    have there : finished second other =
        (do finish (some abort); throw abort : Run Second) last := by
      unfold finished
      rw [two]
    rw [endAlike_congr here there]
    exact endAlike_bind ((endAlike_finish (some abort) still).weaken
      (fun _ _ _ _ held => ⟨rfl, held⟩) fun _ _ cut => cut)

theorem renews_finished {first : Run First} {second : Run Second}
    (runs : likeness.Relates 0 related first second) :
    likeness.Renews related (finished first) (finished second) :=
  fun session other alike => endAlike_finished ((runs session other alike).weaken
    (fun _ _ _ _ held => ⟨held.1, held.2.toAlike⟩) fun _ _ cut => cut)

/-- An expression that reads only variables that may be read. -/
theorem renews_expression (likeness : Likeness) (still : likeness.move = id) (fuel : Nat)
    {expr : Expr} (mentioned : ∀ name ∈ expr.reads, likeness.mentions name) :
    likeness.uncounted.Renews likeness.Values (expression likeness.limits fuel expr)
      (expression likeness.limits fuel expr) := by
  have relates := (Machine.relates_evaluate_execute likeness fuel).1 0 expr mentioned
  rw [still, expr.moved_id] at relates
  intro first second alike
  exact (renews_finished relates _ _ alike.counted).weaken
    (fun _ _ _ _ held => ⟨held.1, held.2.uncounted⟩) fun _ _ cut => cut.uncounted

theorem relates_registerAll {functions : List Function}
    (mentioned : ∀ function ∈ functions, ∀ name ∈ function.body.reads,
      likeness.mentions name) :
    likeness.Relates 0 Eq (registerAll functions)
      (registerAll (functions.map (Function.moved likeness.move))) := by
  induction functions with
  | nil => exact relates_pure rfl
  | cons function rest hypothesis =>
    obtain ⟨head, tail⟩ := List.forall_mem_cons.mp mentioned
    exact relates_then (relates_register head) fun _ => hypothesis tail

/-- A program, where binding names keeps the top-level frames alike. -/
theorem renews_program (likeness : Likeness) (still : likeness.move = id)
    (binds : likeness.Binds 0) (fuel : Nat) {program : Program}
    (mentioned : ∀ item ∈ program.items, ∀ name ∈ item.reads, likeness.mentions name) :
    likeness.uncounted.Renews Eq (Run.program likeness.limits fuel program)
      (Run.program likeness.limits fuel program) := by
  intro first second alike
  have functions : ∀ function ∈ program.functions, ∀ name ∈ function.body.reads,
      likeness.mentions name := by
    intro function member
    obtain ⟨item, inside, defines⟩ := List.mem_filterMap.mp member
    have known := mentioned item inside
    cases item <;> cases defines
    exact known
  have registers := relates_registerAll functions
  have executes := Machine.relates_executeAll binds fuel program.items mentioned
  rw [still, Function.map_moved_id] at registers
  rw [still, Stmt.map_moved_id] at executes
  have begins : likeness.Relates 0 Eq (note (.running program.items.length))
      (note (.running program.items.length)) := relates_note _ _
  have prepared := relates_then begins (fun _ => registers) _ _ alike.counted
  have through (session : Session) :
      (do note (.running program.items.length); registerAll program.functions : Run Unit)
        { session with steps := 0 } = .ok () (stateAfter (prepare program) session) :=
    prepare_eq_ok program session
  have ready := ((endAlike_of_ok (through first) (through second)).mp prepared).2
  refine (endAlike_congr (program_eq_finished likeness.limits fuel program first)
    (program_eq_finished likeness.limits fuel program second)).mpr ?_
  exact (renews_finished executes _ _ ready).weaken
    (fun _ _ _ _ held => ⟨held.1, held.2.uncounted⟩) fun _ _ cut => cut.uncounted

end Run

/-! ### Operations -/

section

variable {likeness : Likeness} {First Second : Type} {related : First → Second → Prop}

/-- Runs end alike as operations if they do as runs. -/
theorem endAlike_operation {first : Run First} {second : Run Second} {session other : Session}
    {given : First → Second → Session → Session → Prop} {failed : Session → Session → Prop} :
    EndAlike first.operation second.operation session other given failed ↔
      EndAlike first second session other given failed := by
  unfold Run.operation EndAlike
  dsimp only
  cases first session with
  | ok result final => cases second other <;> exact Iff.rfl
  | error abort final =>
    cases second other with
    | ok twin last => exact Iff.rfl
    | error same last => exact and_congr_left' (Failure.aborted.injEq abort same ▸ Iff.rfl)

theorem renews_operation {first : Run First} {second : Run Second}
    (runs : likeness.Renews related first second) :
    likeness.Renews related first.operation second.operation :=
  fun session other alike => endAlike_operation.mpr (runs session other alike)

theorem renews_readOrReport {Tree : Type} (read : Except (List Diagnostic) Tree)
    {first : Tree → Run First} {second : Tree → Run Second}
    (runs : ∀ tree, likeness.Renews related (first tree) (second tree)) :
    likeness.Renews related (Session.readOrReport read first)
      (Session.readOrReport read second) := by
  have announces (diagnostics : List Diagnostic) :
      likeness.Renews Eq (Run.announceAll diagnostics) (Run.announceAll diagnostics) := by
    induction diagnostics with
    | nil => exact relates_pure rfl
    | cons diagnostic rest hypothesis =>
      exact relates_then (Run.renews_announce diagnostic) fun _ => hypothesis
  cases read with
  | ok tree => exact renews_operation (runs tree)
  | error diagnostics =>
    exact relates_then (renews_operation (announces diagnostics)) fun _ =>
      relates_throw (fun _ _ alike => alike) _

theorem renews_runQuietly {limits : Limits} (source : Bytes)
    (programs : ∀ program, likeness.Renews Eq (Run.program limits ampleFuel program)
      (Run.program limits ampleFuel program)) :
    likeness.Renews Eq (Session.runQuietly limits source) (Session.runQuietly limits source) := by
  unfold Session.runQuietly
  cases Program.ofSource source with
  | ok program => exact renews_operation (programs program)
  | error diagnostics => exact relates_throw (fun _ _ alike => alike) _

end

end Scriptling
