/-
This file says what the limit on the depth of calls does. It does what it is for:
at every node that a run comes to, as many calls are in progress as there are
frames above the top-level one, and no more than the limit. A call is checked
before its arguments are evaluated and counted after that, but whatever is called
there is over by then, so the check still stands when the call is counted.

And it does nothing else. Only the check looks at the limit, and when it stops a
call it reports that. So a run that reports no such error is the very same run
under any higher limit.
-/

import Scriptling.Proofs.Session.Histories

namespace Scriptling

/-! ### Calls and frames -/

namespace Session

/-- How many frames are above the top-level one, and how many calls are in progress. -/
structure Counts (frames calls : Nat) (session : Session) : Prop where
  frames : session.locals.length = frames
  calls : session.depth = calls

/-- Every call in progress has one frame, and there are only so many of them. -/
def InStep (most : Nat) (session : Session) : Prop :=
  session.chain.length = session.depth + 1 ∧ session.depth ≤ most

theorem Counts.inStep {session : Session} {calls most : Nat} (held : session.Counts calls calls)
    (le : calls ≤ most) : session.InStep most := by
  refine ⟨?_, held.calls ▸ le⟩
  unfold chain
  rw [List.length_append, List.length_singleton, held.frames, held.calls]

theorem Counts.define {frames calls : Nat} {session after : Session} {name : Name} {value : Value}
    (defined : session.define name value = .ok after) (held : session.Counts frames calls) :
    after.Counts frames calls :=
  ⟨(calls_of_define defined).2.trans held.frames, (calls_of_define defined).1.trans held.calls⟩

end Session

theorem actionInvariant_counts (frames calls : Nat) :
    ActionInvariant (fun _ => True) (Session.Counts frames calls) where
  streams _ held := ⟨held.frames, held.calls⟩
  note _ held := ⟨held.frames, held.calls⟩
  register _ held := ⟨held.frames, held.calls⟩
  lookup _ _ := trivial

namespace Watched

/-- Every session that was seen was in step. -/
def SeenInStep (most : Nat) (watch : Watch) : Prop :=
  ∀ visit ∈ watch.visits, visit.session.InStep most

/-- Work that begins in some calls comes only to nodes where calls and frames are in step, and
unless it is cut short the same calls are in progress after it. What it gives satisfies a
condition. -/
def Balances {Result : Type} (most calls : Nat) (condition : Result → Prop)
    (work : Watched Result) : Prop :=
  ∀ watch, watch.session.Counts calls calls → SeenInStep most watch →
    Ends work watch
      (fun result after =>
        after.session.Counts calls calls ∧ SeenInStep most after ∧ condition result)
      fun _ after => SeenInStep most after

theorem balances_bind {First Second : Type} {most calls : Nat} {condition : First → Prop}
    {goal : Second → Prop} {first : Watched First} {rest : First → Watched Second}
    (head : Balances most calls condition first)
    (tail : ∀ value, condition value → Balances most calls goal (rest value)) :
    Balances most calls goal (first >>= rest) := by
  intro watch held seen
  rw [ends_bind]
  exact (head watch held seen).weaken
    (fun value middle kept => tail value kept.2.2 middle kept.1 kept.2.1) fun _ _ cut => cut

/-- The coupling of work with itself that keeps calls and frames in step. -/
def balancing (most calls : Nat) : Coupling Watched Watched where
  holds condition work _ := Balances most calls condition work
  pure _ holds _ held seen := ⟨held, seen, holds⟩
  bind := balances_bind

section

variable {most calls : Nat} {Result : Type}

theorem balances_act {condition : Result → Prop} {action : Run Result}
    (keeps : Keeps (Session.Counts calls calls) condition action) :
    Balances most calls condition (act action) := by
  intro watch held seen
  rw [ends_act]
  exact (keeps watch.session held).weaken (fun _ _ kept => ⟨kept.1, seen, kept.2⟩)
    fun _ _ _ => seen

theorem balances_world (action : WorldAction Result) :
    Balances most calls (fun _ => True) (act (Run.onWorld action)) :=
  balances_act (acts_onWorld (fun _ held => ⟨held.frames, held.calls⟩) action).keeps

theorem balances_visit (le : calls ≤ most) (node : Node) :
    Balances most calls (fun _ => True) (visit node) := by
  intro watch held seen
  rw [ends_visit]
  refine ⟨held, fun visit member => ?_, trivial⟩
  rcases List.mem_append.mp member with old | new
  · exact seen visit old
  · rw [List.mem_singleton.mp new]
    exact held.inStep le

theorem balances_opening (le : calls ≤ most) (limits : Limits) (statement : Stmt) :
    Balances most calls (fun _ => True) (Machine.opening limits statement : Watched Unit) :=
  balances_bind (balances_visit le _) fun _ _ =>
    balances_act (keeps_tick (fun _ held => ⟨held.frames, held.calls⟩) limits statement.span)

/-- A function is only called if one more call is within the limit. -/
theorem balances_callee (limits : Limits) (span : Span) (name : Name) (given : Nat) :
    Balances most calls (fun found => ∀ function ∈ found, calls < limits.callDepth)
      (act (Run.callee limits span name given)) := by
  refine balances_act fun session held => ?_
  refine ((actionInvariant_counts calls calls).acts_callee limits span name given session
    held).withEnd.weaken ?_ fun _ _ cut => cut.2.1
  rintro found after ⟨ended, kept, -⟩
  refine ⟨kept, fun function same => ?_⟩
  cases same
  obtain ⟨-, -, room, -⟩ := Run.callee_eq_some ended
  exact held.calls ▸ room

/-- A call is in step inside as well, and after it the calls around it are. -/
theorem balances_inCall {work : Watched Result}
    (below : Balances most (calls + 1) (fun _ => True) work) (parameters : List Name)
    (values : List Value) :
    Balances most calls (fun _ => True) (inCall parameters values work) := by
  intro watch held seen
  have entered : watch.session.enter.Counts (calls + 1) calls :=
    ⟨congrArg Nat.succ held.frames, held.calls⟩
  have opens := (actionInvariant_counts (calls + 1) calls).ends_openCall parameters values
    (fun _ _ _ => Session.Counts.define) entered
  unfold inCall
  rw [ends_bind, ends_act]
  refine opens.weaken ?_ fun _ _ _ => seen
  rintro _ _ ⟨inside, before, rfl⟩
  have deeper : inside.deepen.Counts (calls + 1) (calls + 1) :=
    ⟨before.frames, congrArg Nat.succ before.calls⟩
  rw [ends_closing]
  refine (below { watch with session := inside.deepen } deeper seen).weaken
    (fun _ last after => ?_) fun _ _ cut => cut
  refine ⟨⟨?_, congrArg Nat.pred after.1.calls⟩, after.2.1, trivial⟩
  exact (List.length_tail ..).trans (congrArg Nat.pred after.1.frames)

theorem coupledActions_balancing (limits : Limits) (le : calls ≤ limits.callDepth) :
    CoupledActions (fun _ => True) (fun _ => calls < limits.callDepth) limits limits
      (balancing limits.callDepth calls) (balancing limits.callDepth calls) where
  widen := id
  ask _ := fun _ held seen => ⟨held, seen, trivial⟩
  visit _ := balances_visit le _
  builtin _ _ := balances_world _
  settle _ := balances_world _
  callee := balances_callee limits
  opening := balances_opening le limits
  bind _ _ := balances_act
    ((actionInvariant_counts calls calls).acts_bindName Session.Counts.define).keeps
  register _ known := balances_act ((actionInvariant_counts calls calls).acts_register known).keeps
  ignore _ := balances_act ((actionInvariant_counts calls calls).acts_note rfl).keeps

end

/-- Calls and frames are in step all the way through expressions and statements, however many calls
are in progress before. -/
theorem balances_evaluate_execute (limits : Limits) (fuel : Nat) :
    (∀ calls ≤ limits.callDepth, ∀ expr : Expr, Balances limits.callDepth calls (fun _ => True)
      (Machine.evaluate limits fuel expr : Watched Value)) ∧
    ∀ calls ≤ limits.callDepth, ∀ statement : Stmt, Balances limits.callDepth calls (fun _ => True)
      (Machine.execute limits fuel statement : Watched Flow) := by
  have exhausted {Result : Type} (calls : Nat) : Balances limits.callDepth calls (fun _ => True)
      (Machine.giveUp : Watched Result) := fun _ _ seen => seen
  induction fuel with
  | zero =>
    refine ⟨fun calls _ expr => ?_, fun calls _ statement => ?_⟩
    · rw [Machine.evaluate]
      exact exhausted calls
    · rw [Machine.execute]
      exact exhausted calls
  | succ fuel hypothesis =>
    obtain ⟨expressions, statements⟩ := hypothesis
    refine ⟨fun calls le expr => ?_, fun calls le statement => ?_⟩
    · show (balancing limits.callDepth calls).pairs (Machine.evaluate limits (fuel + 1) expr)
        (Machine.evaluate limits (fuel + 1) expr)
      exact (coupledActions_balancing limits le).evaluate_step expr
        (fun part _ => expressions calls le part) fun function values left =>
          balances_inCall (statements (calls + 1) left function.body) function.parameters values
    · show (balancing limits.callDepth calls).pairs (Machine.execute limits (fuel + 1) statement)
        (Machine.execute limits (fuel + 1) statement)
      refine (coupledActions_balancing limits le).execute_step statement
        (statement.eachFunction_of_forall fun _ => trivial)
        (fun part _ => expressions calls le part) (fun part _ _ => statements calls le part)
        fun _ _ _ _ _ test body => ?_
      exact Coupling.pairs_whileTrue test body 0 (fun _ _ => exhausted calls) fuel

theorem inStep_of_balances {Result : Type} {work : Watched Result} {most : Nat}
    (balances : Balances most 0 (fun _ => True) work) {session : Session} (top : session.AtTop) :
    ∀ visit ∈ visits work session, visit.session.InStep most := by
  have counts : session.Counts 0 0 := ⟨List.length_eq_zero_iff.mpr top.locals, top.depth⟩
  have none : SeenInStep most ⟨session, []⟩ := fun _ member => absurd member List.not_mem_nil
  exact Ends.stateAfter ((balances ⟨session, []⟩ counts none).weaken (fun _ _ kept => kept.2.1)
    fun _ _ seen => seen)

end Watched

/-! ### Reports of calls that nest too deeply -/

/-- A report that there would have been one call too many. -/
def Event.isRecursionError : Event → Bool
  | .reported diagnostic => diagnostic.kind == .recursion
  | .running _ | .registering .. | .shadowed _ | .importIgnored _ => false

/-- How many calls have been reported to nest too deeply. -/
def Session.recursionErrors (session : Session) : Nat :=
  session.log.countP Event.isRecursionError

/-- No report is ever taken back. -/
theorem sessionInvariant_recursionErrors (least : Nat) :
    SessionInvariant (fun _ => True) fun session => least ≤ session.recursionErrors where
  streams _ le := le
  note _ le := by
    unfold Session.recursionErrors
    rw [Array.countP_push]
    exact Nat.le_add_right_of_le le
  register _ le := by
    unfold Session.recursionErrors
    rw [Array.countP_push]
    exact Nat.le_add_right_of_le le
  lookup _ _ := trivial
  heap _ le := le
  enter le := le
  deepen le := le
  leave le := le
  define defined le := by
    obtain ⟨_, -, -, rfl⟩ | ⟨_, _, _, -, -, rfl⟩ := Session.define_eq_ok defined
    · exact le
    · exact le
  steps _ le := le
  atTop le := le

/-! ### Runs under two limits -/

namespace Run

/-- However the first work ends, it has reported one more call that nests too deeply, or no more of
them and the second work ends in the same way. What it gives satisfies a condition. -/
def Shelters {Result : Type} (condition : Result → Prop) (first second : Run Result) : Prop :=
  ∀ session : Session,
    Ends first session
      (fun result after => condition result ∧
        (session.recursionErrors < after.recursionErrors ∨
          session.recursionErrors = after.recursionErrors ∧ second session = .ok result after))
      fun abort after => session.recursionErrors < after.recursionErrors ∨
        session.recursionErrors = after.recursionErrors ∧ second session = .error abort after

theorem shelters_bind {First Second : Type} {condition : First → Prop} {goal : Second → Prop}
    {first second : Run First} {firstRest secondRest : First → Run Second}
    (head : Shelters condition first second)
    (tail : ∀ value, condition value → Shelters goal (firstRest value) (secondRest value)) :
    Shelters goal (first >>= firstRest) (second >>= secondRest) := by
  intro session
  rw [ends_bind]
  refine (head session).weaken ?_ ?_
  · rintro value middle ⟨holds, more | ⟨quiet, same⟩⟩
    · refine (tail value holds middle).weaken ?_ ?_
      · rintro result after ⟨fits, later | ⟨none, -⟩⟩
        · exact ⟨fits, .inl (Nat.lt_trans more later)⟩
        · exact ⟨fits, .inl (none ▸ more)⟩
      · rintro abort after (later | ⟨none, -⟩)
        · exact .inl (Nat.lt_trans more later)
        · exact .inl (none ▸ more)
    · rw [bind_of_ok same, quiet]
      exact tail value holds middle
  · rintro abort after (more | ⟨quiet, same⟩)
    · exact .inl more
    · exact .inr ⟨quiet, bind_of_error same⟩

/-- Work belongs with work under a higher limit. -/
def sheltering : Coupling Run Run where
  holds := Shelters
  pure _ holds _ := ⟨holds, .inr ⟨rfl, rfl⟩⟩
  bind := shelters_bind

section

variable {Result : Type}

/-- What does not look at the limit is the same under any. -/
theorem shelters_refl {condition : Result → Prop} {work : Run Result}
    (keeps : ∀ least, Keeps (fun session => least ≤ session.recursionErrors) condition work) :
    Shelters condition work work := by
  intro session
  refine (keeps session.recursionErrors session (Nat.le_refl _)).withEnd.weaken ?_ ?_
  · rintro result after ⟨ended, le, holds⟩
    exact ⟨holds, (Nat.lt_or_eq_of_le le).imp_right fun quiet => ⟨quiet, ended⟩⟩
  · rintro abort after ⟨ended, le⟩
    exact (Nat.lt_or_eq_of_le le).imp_right fun quiet => ⟨quiet, ended⟩

theorem shelters_world (action : WorldAction Result) :
    Shelters (fun _ => True) (onWorld action) (onWorld action) :=
  shelters_refl fun _ => (acts_onWorld (fun _ le => le) action).keeps

/-- Work that reports no call that nests too deeply is the same work under a higher limit. -/
theorem Shelters.eq_of_quiet {condition : Result → Prop} {first second : Run Result}
    (shelters : Shelters condition first second) {session : Session}
    (quiet : (stateAfter first session).recursionErrors ≤ session.recursionErrors) :
    second session = first session := by
  have ends := shelters session
  unfold Ends at ends
  unfold stateAfter at quiet
  cases ended : first session with
  | ok result after =>
    rw [ended] at ends quiet
    exact (ends.2.resolve_left (Nat.not_lt.mpr quiet)).2
  | error abort after =>
    rw [ended] at ends quiet
    exact (ends.resolve_left (Nat.not_lt.mpr quiet)).2

/-- A report of a call that nests too deeply counts, whether the stream takes it or not. -/
theorem ends_report_callTooDeep (span : Span) (name : Name) (limit : Nat) (session : Session) :
    Ends (report ((Cause.callTooDeep name limit).placed span)) session
      (fun _ after => session.recursionErrors < after.recursionErrors)
      fun _ after => session.recursionErrors < after.recursionErrors := by
  have counted (event : Event) (tooDeep : event.isRecursionError = true) :
      session.recursionErrors + 1 ≤
        Session.recursionErrors { session with log := session.log.push event } := by
    refine Nat.le_of_eq (Eq.symm ?_)
    unfold Session.recursionErrors
    rw [Array.countP_push, if_pos tooDeep]
  have announces := (sessionInvariant_recursionErrors (session.recursionErrors + 1)).acts_announce
    ((Cause.callTooDeep name limit).placed span)
  unfold report note
  rw [ends_bind, ends_modify]
  exact (announces _ (counted _ rfl)).weaken (fun _ _ kept => kept.1) fun _ _ cut => cut.1

/-- Only the check before a call looks at the limit. Where it stops a call, it says so. -/
theorem shelters_callee {limits : Limits} {deeper : Nat} (le : limits.callDepth ≤ deeper)
    (span : Span) (name : Name) (given : Nat) :
    Shelters (fun _ => True) (callee limits span name given)
      (callee { limits with callDepth := deeper } span name given) := by
  intro session
  by_cases stopped : ∃ function, session.functions.lookup name = some function ∧
      given = function.arity ∧ limits.callDepth ≤ session.depth
  · obtain ⟨function, known, fits, deep⟩ := stopped
    have reports : callee limits span name given session = (do
        report ((Cause.callTooDeep name limits.callDepth).placed span)
        return none : Run (Option Function)) session := by
      unfold callee
      rw [bind_of_ok (rfl : (get : Run Session) session = .ok session session), known]
      simp [fits, deep]
    rw [ends_congr reports, ends_bind]
    exact (ends_report_callTooDeep span name limits.callDepth session).weaken
      (fun _ _ more => ⟨trivial, .inl more⟩) fun _ _ more => .inl more
  · have same : callee { limits with callDepth := deeper } span name given session =
        callee limits span name given session := by
      unfold callee
      rw [bind_of_ok (rfl : (get : Run Session) session = .ok session session),
        bind_of_ok (rfl : (get : Run Session) session = .ok session session)]
      cases known : session.functions.lookup name with
      | none => rfl
      | some function =>
        dsimp only
        split
        next => rfl
        next fits =>
          have room : session.depth < limits.callDepth := Nat.lt_of_not_le fun deep =>
            stopped ⟨function, known, Decidable.not_not.mp fits, deep⟩
          rw [if_neg (Nat.not_le.mpr room), if_neg (by omega)]
    have alike := shelters_refl (fun least =>
      ((sessionInvariant_recursionErrors least).acts_callee limits span name given).keeps) session
    rw [same]
    exact alike.weaken (fun _ _ kept => ⟨trivial, kept.2⟩) fun _ _ cut => cut

theorem shelters_inCall {first second : Run Result}
    (shelters : Shelters (fun _ => True) first second) (parameters : List Name)
    (values : List Value) :
    Shelters (fun _ => True) (inCall parameters values first)
      (inCall parameters values second) := by
  have opens : Shelters (fun _ => True) (openCall parameters values)
      (openCall parameters values) := shelters_refl fun least =>
    ((sessionInvariant_recursionErrors least).acts_openCall parameters values).keeps
  refine shelters_bind opens fun _ _ session => ?_
  rw [ends_closing]
  refine (shelters session).weaken ?_ ?_
  · rintro result after ⟨-, more | ⟨quiet, same⟩⟩
    · exact ⟨trivial, .inl more⟩
    · refine ⟨trivial, .inr ⟨quiet, ?_⟩⟩
      unfold closing
      rw [same]
  · rintro abort after (more | ⟨quiet, same⟩)
    · exact .inl more
    · refine .inr ⟨quiet, ?_⟩
      unfold closing
      rw [same]

theorem coupled_sheltering {limits : Limits} {deeper : Nat} (le : limits.callDepth ≤ deeper) :
    Coupled (fun _ => True) limits { limits with callDepth := deeper } 0 sheltering sheltering where
  widen := id
  exhausted _ same := by
    rw [same rfl]
    exact shelters_refl fun _ => keeps_throw
  ask _ := shelters_refl fun _ _ le => ⟨le, trivial⟩
  visit _ := shelters_refl fun _ => keeps_pure trivial
  builtin _ _ := shelters_world _
  settle _ := shelters_world _
  callee span name given session := (shelters_callee le span name given session).weaken
    (fun _ _ kept => ⟨fun _ _ => trivial, kept.2⟩) fun _ _ cut => cut
  inCall function values _ shelters := shelters_inCall shelters function.parameters values
  opening statement := shelters_refl fun _ =>
    keeps_then (keeps_pure trivial) fun _ => keeps_tick (fun _ le => le) limits statement.span
  bind name value := shelters_refl fun least =>
    ((sessionInvariant_recursionErrors least).acts_bindName
      (sessionInvariant_recursionErrors least).define).keeps
  register function known := shelters_refl fun least =>
    ((sessionInvariant_recursionErrors least).acts_register known).keeps
  ignore name := shelters_refl fun least =>
    ((sessionInvariant_recursionErrors least).acts_note rfl).keeps

end

/-! ### Whole runs under two limits -/

/-- A run with its end is the same under a higher limit if no call nests too deeply in it. -/
theorem finished_of_quiet {Result : Type} {first second : Run Result}
    (shelters : Shelters (fun _ => True) first second) {session : Session}
    (quiet : (stateAfter (finished first) session).recursionErrors ≤ session.recursionErrors) :
    finished second session = finished first session := by
  have last : (stateAfter first session).recursionErrors ≤
      (stateAfter (finished first) session).recursionErrors :=
    (sessionInvariant_recursionErrors _).stateAfter_finished (Nat.le_refl _)
  exact finished_congr (shelters.eq_of_quiet (Nat.le_trans last quiet))

section

variable {limits : Limits} {deeper : Nat} (le : limits.callDepth ≤ deeper) {fuel : Nat}
  {session : Session}

include le

theorem program_of_quiet {program : Program}
    (quiet : (stateAfter (Run.program limits fuel program) session).recursionErrors =
      session.recursionErrors) :
    Run.program { limits with callDepth := deeper } fuel program session =
      Run.program limits fuel program session := by
  have shelters : Shelters (fun _ => True) (executeAll limits fuel program.items)
      (executeAll { limits with callDepth := deeper } fuel program.items) :=
    (coupled_sheltering le).executeAll
      (fun function _ => function.body.eachFunction_of_forall fun _ => trivial) fuel program.items
      fun statement _ => statement.eachFunction_of_forall fun _ => trivial
  have prepared : session.recursionErrors ≤
      (stateAfter (prepare program) session).recursionErrors :=
    stateAfter_of_keeps ((sessionInvariant_recursionErrors _).keeps_prepare (fun _ le => le) program
      fun _ _ => trivial) (Nat.le_refl _)
  rw [stateAfter_congr (program_eq_finished limits fuel program session)] at quiet
  rw [program_eq_finished, program_eq_finished]
  exact finished_of_quiet shelters (quiet ▸ prepared)

theorem expression_of_quiet {expr : Expr}
    (quiet : (stateAfter (Run.expression limits fuel expr) session).recursionErrors =
      session.recursionErrors) :
    Run.expression { limits with callDepth := deeper } fuel expr session =
      Run.expression limits fuel expr session := by
  have shelters : Shelters (fun _ => True) (evaluate limits fuel expr)
      (evaluate { limits with callDepth := deeper } fuel expr) :=
    ((coupled_sheltering le).evaluate_execute
      (fun function _ => function.body.eachFunction_of_forall fun _ => trivial) fuel).1 expr
  have start : Session.recursionErrors { session with steps := 0 } = session.recursionErrors := rfl
  exact finished_of_quiet shelters (Nat.le_of_eq (quiet.trans start.symm))

end

end Run

/-- The limit on the depth of calls is kept, and nothing else comes of it. In a session between two
runs, whatever is run next, at every node it comes to there are as many frames above the top-level
one as calls are in progress, and no more than the limit. And a run that reports no call that nests
too deeply is the same under a higher limit: it ends in the same way and leaves the very same
session. -/
theorem call_depth_is_kept_and_unseen (limits : Limits) (fuel : Nat) (session : Session) :
    (session.AtTop →
      (∀ program : Program, ∀ visit ∈
        Watched.visits (Machine.executeAll limits fuel program.items)
          (stateAfter (Run.prepare program) session),
        visit.session.chain.length = visit.session.depth + 1 ∧
          visit.session.depth ≤ limits.callDepth) ∧
      ∀ expr : Expr, ∀ visit ∈
        Watched.visits (Machine.evaluate limits fuel expr) { session with steps := 0 },
        visit.session.chain.length = visit.session.depth + 1 ∧
          visit.session.depth ≤ limits.callDepth) ∧
    ∀ deeper ≥ limits.callDepth,
      (∀ program : Program,
        (stateAfter (Run.program limits fuel program) session).recursionErrors =
          session.recursionErrors →
        Run.program { limits with callDepth := deeper } fuel program session =
          Run.program limits fuel program session) ∧
      ∀ expr : Expr,
        (stateAfter (Run.expression limits fuel expr) session).recursionErrors =
          session.recursionErrors →
        Run.expression { limits with callDepth := deeper } fuel expr session =
          Run.expression limits fuel expr session := by
  obtain ⟨expressions, statements⟩ := Watched.balances_evaluate_execute limits fuel
  refine ⟨fun top => ⟨fun program => ?_, fun expr => ?_⟩, fun deeper le =>
    ⟨fun program => Run.program_of_quiet le, fun expr => Run.expression_of_quiet le⟩⟩
  · have prepared : (stateAfter (Run.prepare program) session).AtTop :=
      stateAfter_of_keeps (actionInvariant_atTop.keeps_prepare
        (fun _ top => ⟨top.locals, top.depth⟩) program fun _ _ => trivial) top
    have balances : (Watched.balancing limits.callDepth 0).pairs
        (Machine.executeAll limits fuel program.items : Watched Unit)
        (Machine.executeAll limits fuel program.items) :=
      Coupling.pairs_executeAll fun statement _ => statements 0 (Nat.zero_le _) statement
    exact Watched.inStep_of_balances balances prepared
  · exact Watched.inStep_of_balances (expressions 0 (Nat.zero_le _) expr) ⟨top.locals, top.depth⟩

/-- Three calls, each inside the one before, are all that a limit of three lets through. They are
the same under the standard limit. -/
theorem calls_at_limit_are_unseen :
    let x := Expr.name ⟨14, 15, 1, 15⟩ (ascii "x")
    let again := Expr.call ⟨31, 39, 1, 32⟩ (ascii "f")
      [.binary ⟨33, 38, 1, 34⟩ .subtract x (.number ⟨37, 38, 1, 38⟩ 1)]
    let body := Stmt.branch ⟨10, 39, 1, 11⟩ (.binary ⟨14, 19, 1, 15⟩ .greater x
      (.number ⟨18, 19, 1, 19⟩ 1)) (.returns ⟨24, 39, 1, 25⟩ (some again)) .done
    let program : Program := ⟨[.define ⟨0, 39, 1, 1⟩ (ascii "f") [ascii "x"] body,
      .expr (.call ⟨40, 44, 2, 1⟩ (ascii "f") [.number ⟨42, 43, 2, 3⟩ 3])]⟩
    let session := Session.start (Streams.reliable [])
    let visits := Watched.visits (Machine.executeAll ⟨3, none⟩ 100 program.items)
      (stateAfter (Run.prepare program) session)
    (∀ visit ∈ visits, visit.session.chain.length = visit.session.depth + 1 ∧
      visit.session.depth ≤ 3) ∧
    (∃ visit ∈ visits, visit.session.depth = 3) ∧
    Run.program Limits.standard 100 program session =
      Run.program ⟨3, none⟩ 100 program session := by
  intro x again body program session visits
  obtain ⟨kept, unseen⟩ := call_depth_is_kept_and_unseen ⟨3, none⟩ 100 session
  obtain ⟨programs, -⟩ := unseen 200 (by decide)
  have quiet : (stateAfter (Run.program ⟨3, none⟩ 100 program) session).recursionErrors = 0 := by
    decide +kernel
  have reached : ∃ visit ∈ visits, visit.session.depth = 3 := by decide +kernel
  exact ⟨(kept ⟨rfl, rfl⟩).1 program, reached, programs program quiet⟩

end Scriptling
