/-
This file follows the end of a run that its budget of statements has cut short.
Wherever in the program the budget was used up, the run still has two things to
ask of the streams: that the output is flushed, and after that, that the line
about the budget is written to the diagnostic stream. The line is written when
both are granted. A refused flush is the end of it: the run then fails for the
flush, and nobody is told of the budget.

That a run is cut short by just the budget it was given is carried through the
evaluation. No action but the count of statements holds a run up in this way.
-/

import Scriptling.Proofs.Session.Invariant
import Scriptling.Proofs.Session.Unfailing

namespace Scriptling

/-! ### The budget that cuts a run short -/

/-- Some work is cut short by no other budget than the one it is held to. What it gives satisfies
a condition. -/
def HeldTo (limits : Limits) {Result : Type} (condition : Result → Prop) (work : Run Result) :
    Prop :=
  ∀ session, Ends work session (fun result _ => condition result)
    fun abort _ => ∀ limit span, abort = .stepLimit limit span → limits.steps = some limit

section

variable {limits : Limits} {First Second : Type}

theorem heldTo_bind {condition : First → Prop} {goal : Second → Prop} {first : Run First}
    {rest : First → Run Second} (head : HeldTo limits condition first)
    (tail : ∀ value, condition value → HeldTo limits goal (rest value)) :
    HeldTo limits goal (first >>= rest) := by
  intro session
  rw [ends_bind]
  exact (head session).weaken (fun value middle holds => tail value holds middle)
    fun _ _ cut => cut

/-- A stream that refuses a request is no budget. -/
theorem heldTo_of_acts {condition : First → Prop} {action : Run First}
    (acts : Acts (Session.EachFunction fun _ => True) condition action) :
    HeldTo limits condition action := by
  intro session
  refine (acts session fun _ _ => trivial).weaken (fun _ _ given => given.2) ?_
  rintro abort _ ⟨-, fault, rfl⟩ limit span same
  cases same

theorem heldTo_pure {condition : First → Prop} {value : First} (holds : condition value) :
    HeldTo limits condition (pure value) :=
  fun _ => holds

theorem heldTo_tick (span : Span) : HeldTo limits (fun _ => True) (Run.tick limits span) := by
  intro session
  unfold Run.tick
  rw [ends_bind, ends_modify]
  cases limits.steps with
  | none => trivial
  | some most =>
    dsimp only
    rw [ends_bind, ends_get]
    split
    next =>
      rintro limit _ same
      cases same
      rfl
    next => trivial

theorem heldTo_inCall {condition : First → Prop} (parameters : List Name) (values : List Value)
    {work : Run First} (held : HeldTo limits condition work) :
    HeldTo limits condition (Run.inCall parameters values work) := by
  have opens := (sessionInvariant_eachFunction fun _ => True).acts_openCall parameters values
  refine heldTo_bind (heldTo_of_acts opens) fun _ _ session => ?_
  rw [Run.ends_closing]
  exact held session

end

/-- The coupling of work with itself that is held to a budget. -/
def holding (limits : Limits) : Coupling Run Run where
  holds condition work _ := HeldTo limits condition work
  pure _ := heldTo_pure
  bind := heldTo_bind

theorem coupled_holding (limits : Limits) :
    Coupled (fun _ => True) limits limits 0 (holding limits) (holding limits) where
  widen := id
  exhausted _ _ _ _ _ same := nomatch same
  ask _ _ := trivial
  visit _ _ := trivial
  builtin _ _ := heldTo_of_acts (acts_onWorld (sessionInvariant_eachFunction _).world _)
  settle _ := heldTo_of_acts (acts_onWorld (sessionInvariant_eachFunction _).world _)
  callee _ _ _ := heldTo_of_acts ((sessionInvariant_eachFunction _).acts_callee _ _ _ _)
  inCall function values _ held := heldTo_inCall function.parameters values held
  opening statement :=
    have comes : HeldTo limits (fun _ => True) (pure () : Run Unit) := heldTo_pure trivial
    heldTo_bind comes fun _ _ => heldTo_tick statement.span
  bind _ _ := heldTo_of_acts
    ((sessionInvariant_eachFunction _).acts_bindName (sessionInvariant_eachFunction _).define)
  register _ known := heldTo_of_acts ((sessionInvariant_eachFunction _).acts_register known)
  ignore _ := heldTo_of_acts ((sessionInvariant_eachFunction fun _ => True).acts_note rfl)

namespace Run

theorem heldTo_executeAll (limits : Limits) (fuel : Nat) (statements : List Stmt) :
    HeldTo limits (fun _ => True) (executeAll limits fuel statements) :=
  (coupled_holding limits).executeAll
    (fun function _ => function.body.eachFunction_of_forall fun _ => trivial) fuel statements
      fun statement _ => statement.eachFunction_of_forall fun _ => trivial

theorem heldTo_evaluate (limits : Limits) (fuel : Nat) (expr : Expr) :
    HeldTo limits (fun _ => True) (evaluate limits fuel expr) :=
  ((coupled_holding limits).evaluate_execute
    (fun function _ => function.body.eachFunction_of_forall fun _ => trivial) fuel).1 expr

/-! ### The end of a run -/

/-- The line that tells that the budget of statements was used up. -/
def limitLine (limit : Nat) : Bytes :=
  encode s!"RuntimeError: step limit of {limit} exceeded" ++ [Byte.newline]

/-- The pieces in which that line is written. -/
def limitPieces (limit : Nat) : List Bytes :=
  ["RuntimeError", ": ", s!"step limit of {limit} exceeded", "\n"].map encode

theorem flatten_limitPieces (limit : Nat) : (limitPieces limit).flatten = limitLine limit := by
  have words : s!"RuntimeError: step limit of {limit} exceeded" =
      "RuntimeError" ++ (": " ++ s!"step limit of {limit} exceeded") := by
    show "RuntimeError: step limit of " ++ toString limit ++ " exceeded" =
      "RuntimeError" ++ (": " ++ ("step limit of " ++ toString limit ++ " exceeded"))
    rw [← String.append_assoc, ← String.append_assoc, ← String.append_assoc]
    rfl
  unfold limitLine
  rw [words, encode_append, encode_append, List.append_assoc, List.append_assoc]
  rfl

end Run

namespace Sink

/-- Bytes that a sink takes stand after those it had. -/
theorem written_write {sink : Sink} {bytes : Bytes} (granted : (sink.write bytes).1 = .ok ()) :
    (sink.write bytes).2.written.bytes = sink.written.bytes ++ bytes := by
  unfold write at granted ⊢
  split
  next none => rw [List.isEmpty_iff.mp none, List.append_nil]
  next some =>
    rw [if_neg some] at granted
    dsimp only at granted ⊢
    split
    next =>
      rw [Text.bytes_append, Text.bytes_ofBytes]
    next refused =>
      rw [if_neg refused] at granted
      cases granted

/-- Pieces that a sink takes stand after what it had. -/
theorem written_writeAll {sink : Sink} {pieces : List Bytes}
    (granted : (sink.writeAll pieces).1 = .ok ()) :
    (sink.writeAll pieces).2.written.bytes = sink.written.bytes ++ pieces.flatten := by
  induction pieces generalizing sink with
  | nil => exact (List.append_nil _).symm
  | cons piece rest hypothesis =>
    unfold writeAll at granted ⊢
    have first := @written_write sink piece
    generalize sink.write piece = asked at granted first ⊢
    obtain ⟨answer, after⟩ := asked
    cases answer with
    | ok _ =>
      rw [hypothesis granted, first rfl, List.flatten_cons, List.append_assoc]
    | error fault => cases granted

end Sink

namespace Session

/-- The session at the top, with its output flushed or refused to be. -/
def flushed (session : Session) : Session :=
  let streams := { session.world.streams with out := session.world.streams.out.flush.2 }
  { session.atTop with world := { session.world with streams } }

/-- The session with pieces of text written to the diagnostic stream. -/
def told (session : Session) (pieces : List Bytes) : Session :=
  let streams := { session.world.streams with err := (session.world.streams.err.writeAll pieces).2 }
  { session with world := { session.world with streams } }

end Session

namespace Run

section

variable {session : Session}

theorem flush_eq_ok (granted : session.world.streams.out.flush.1 = .ok ()) :
    onWorld World.flush session.atTop = .ok () session.flushed := by
  unfold onWorld World.flush World.onOutput
  dsimp only [Session.atTop]
  rw [granted]
  rfl

theorem flush_eq_error {fault : Fault}
    (refused : session.world.streams.out.flush.1 = .error fault) :
    onWorld World.flush session.atTop = .error (.refused fault) session.flushed := by
  unfold onWorld World.flush World.onOutput
  dsimp only [Session.atTop]
  rw [refused]
  rfl

theorem announce_limit_eq_ok {limit : Nat} (span : Span)
    (granted : (session.world.streams.err.writeAll (limitPieces limit)).1 = .ok ()) :
    announce ((Cause.stepLimit limit).placed span) session =
      .ok () (session.told (limitPieces limit)) := by
  have pieces : ((Cause.stepLimit limit).placed span).pieces.map encode = limitPieces limit := rfl
  unfold announce onWorld World.complain
  dsimp only
  rw [pieces, granted]
  rfl

/-- The end of a run is the flush, and the message after that. -/
theorem finish_of_flushed (abort? : Option Abort)
    (granted : session.world.streams.out.flush.1 = .ok ()) :
    finish abort? session = (match abort?.bind Abort.diagnostic? with
      | some diagnostic => announce diagnostic
      | none => pure () : Run Unit) session.flushed :=
  bind_of_ok (flush_eq_ok granted)

/-- Where the flush is refused, a run ends for that. -/
theorem finish_of_unflushed (abort? : Option Abort) {fault : Fault}
    (refused : session.world.streams.out.flush.1 = .error fault) :
    finish abort? session = .error (.refused fault) session.flushed := by
  have cut := flush_eq_error refused
  show (onWorld World.flush >>= _) session.atTop = _
  exact bind_of_error cut

end

end Run

/-- What becomes of a run that has used up its budget. When its output can be flushed and the
diagnostic stream takes the line, piece by piece, the line about the budget is the last one there,
and the run ends for its budget. When the flush is refused, the run ends for that, and the
diagnostic stream is as it was. -/
structure Session.OverBudget {Result : Type} (cut : Session) (limit : Nat) (span : Span)
    (ended : EStateM.Result Failure Session Result) : Prop where
  told : cut.world.streams.out.flush.1 = .ok () →
    (cut.world.streams.err.writeAll (Run.limitPieces limit)).1 = .ok () →
      ∃ after, ended = .error (.aborted (.stepLimit limit span)) after ∧
        after.world.streams.err.written.bytes =
          cut.world.streams.err.written.bytes ++ Run.limitLine limit
  lost : cut.world.streams.out.flush.1 = .error .flush →
    ∃ after, ended = .error (.aborted (.refused .flush)) after ∧
      after.world.streams.err = cut.world.streams.err

namespace Run

/-- However a run was cut short by its budget, its end is decided by the streams. -/
theorem overBudget_finished {Result : Type} {run : Run Result} {session cut : Session} {limit : Nat}
    {span : Span} (ended : run session = .error (.stepLimit limit span) cut) :
    cut.OverBudget limit span ((finished run).operation session) := by
  have whole : finished run session =
      (do finish (some (.stepLimit limit span)); throw (.stepLimit limit span) : Run Result)
        cut := by
    unfold finished
    rw [ended]
  refine ⟨fun flushed granted => ?_, fun refused => ?_⟩
  · have told := (finish_of_flushed (some (.stepLimit limit span)) flushed).trans
      (@announce_limit_eq_ok cut.flushed limit span granted)
    refine ⟨cut.flushed.told (limitPieces limit), ?_,
      flatten_limitPieces limit ▸ Sink.written_writeAll granted⟩
    unfold operation
    rw [whole, bind_of_ok told]
    rfl
  · refine ⟨cut.flushed, ?_, rfl⟩
    unfold operation
    rw [whole, bind_of_error (finish_of_unflushed (some (.stepLimit limit span)) refused)]

end Run

/-- The message about the budget of statements follows the flush of the output. A program, a source
or an expression that is cut short by its budget is reported by a line of its own, if the output can
be flushed at the end and the diagnostic stream takes the line. If the flush is refused, nothing is
written to the diagnostic stream any more. -/
theorem limit_is_told_after_flush (limits : Limits) (session cut : Session) (limit : Nat)
    (span : Span) :
    (∀ fuel program,
      Run.executeAll limits fuel program.items (stateAfter (Run.prepare program) session) =
        .error (.stepLimit limit span) cut →
      limits.steps = some limit ∧
        cut.OverBudget limit span ((Run.program limits fuel program).operation session)) ∧
    (∀ source program, Program.ofSource source = .ok program →
      Run.executeAll limits ampleFuel program.items (stateAfter (Run.prepare program) session) =
        .error (.stepLimit limit span) cut →
      limits.steps = some limit ∧ cut.OverBudget limit span (Session.run limits source session)) ∧
    ∀ source expr, Expr.ofSource source = .ok expr →
      Run.evaluate limits ampleFuel expr { session with steps := 0 } =
        .error (.stepLimit limit span) cut →
      limits.steps = some limit ∧
        cut.OverBudget limit span (Session.evaluate limits source session) := by
  have programs (fuel : Nat) (program : Program)
      (ended : Run.executeAll limits fuel program.items
        (stateAfter (Run.prepare program) session) = .error (.stepLimit limit span) cut) :
      limits.steps = some limit ∧
        cut.OverBudget limit span ((Run.program limits fuel program).operation session) := by
    refine ⟨(Run.heldTo_executeAll limits fuel program.items _).of_error ended limit span rfl, ?_⟩
    have whole : (Run.program limits fuel program).operation session =
        (Run.finished (Run.executeAll limits fuel program.items)).operation
          (stateAfter (Run.prepare program) session) := by
      unfold Run.operation
      rw [Run.program_eq_finished]
    rw [whole]
    exact Run.overBudget_finished ended
  refine ⟨programs, fun source program read ended => ?_, fun source expr read ended => ?_⟩
  · unfold Session.run Session.readOrReport
    rw [read]
    exact programs ampleFuel program ended
  · unfold Session.evaluate Session.readOrReport
    rw [read]
    exact ⟨(Run.heldTo_evaluate limits ampleFuel expr _).of_error ended limit span rfl,
      Run.overBudget_finished ended⟩

/-- On streams that refuse nothing, a loop without end is reported. -/
theorem endless_loop_is_reported :
    let loop := Stmt.whileLoop ⟨0, 13, 1, 1⟩ (.number ⟨6, 7, 1, 7⟩ 1) (.pass ⟨9, 13, 1, 10⟩)
    let session := Session.start (Streams.reliable [])
    ∃ after, (Run.program ⟨200, some 3⟩ 7 ⟨[loop]⟩).operation session =
        .error (.aborted (.stepLimit 3 ⟨9, 13, 1, 10⟩)) after ∧
      after.world.streams.err.written.bytes = ascii "RuntimeError: step limit of 3 exceeded\n" := by
  intro loop session
  obtain ⟨programs, -, -⟩ := limit_is_told_after_flush ⟨200, some 3⟩ session _ 3 ⟨9, 13, 1, 10⟩
  obtain ⟨-, outcome⟩ := programs 7 ⟨[loop]⟩ rfl
  obtain ⟨after, ended, written⟩ := outcome.told rfl rfl
  refine ⟨after, ended, written.trans ?_⟩
  decide +kernel

/-- Where the output cannot be flushed, a loop without end is not reported, though the diagnostic
stream would take every line. -/
theorem unflushed_loop_is_not_reported :
    let loop := Stmt.whileLoop ⟨0, 13, 1, 1⟩ (.number ⟨6, 7, 1, 7⟩ 1) (.pass ⟨9, 13, 1, 10⟩)
    let session := Session.start { Streams.reliable [] with out := Sink.limited none true }
    ∃ cut after,
      Run.executeAll ⟨200, some 3⟩ 7 [loop] (stateAfter (Run.prepare ⟨[loop]⟩) session) =
        .error (.stepLimit 3 ⟨9, 13, 1, 10⟩) cut ∧
      (∀ pieces, (cut.world.streams.err.writeAll pieces).1 = .ok ()) ∧
      (Run.program ⟨200, some 3⟩ 7 ⟨[loop]⟩).operation session =
        .error (.aborted (.refused .flush)) after ∧
      ¬Run.limitLine 3 <:+: after.world.streams.err.written.bytes := by
  intro loop session
  refine ⟨_, _, rfl, fun pieces => ?_, rfl, ?_⟩
  · have unfailing : Sink.reliable.Unfailing := ⟨fun _ _ _ => rfl, fun _ => rfl⟩
    obtain ⟨_, granted, -⟩ := Sink.writeAll_eq_ok unfailing pieces
    exact congrArg Prod.fst granted
  · show ¬Run.limitLine 3 <:+: []
    rw [List.infix_nil]
    exact List.append_ne_nil_of_right_ne_nil _ (List.cons_ne_nil _ _)

end Scriptling
