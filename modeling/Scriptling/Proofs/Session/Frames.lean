/-
This file proves that an expression writes to no frame that exists before it. A
call runs in a frame of its own, and whatever its body binds, it binds there. The
frame is gone when the call is over, also when the body is cut short. Only a
parameter that cannot be bound could leave it behind, and there is none: a fresh
frame has room for more names than a function that has been read has parameters.

A statement may bind names, but only in the frame it runs in. So two relations
are kept at once: an expression keeps all frames, and a statement keeps all but
the innermost one. A call turns the second into the first.
-/

import Scriptling.Proofs.Session.Reachable

namespace Scriptling

/-! ### Binding parameters -/

/-- A frame that has room takes any name. -/
theorem Frame.define_of_room {frame : Frame} (room : frame.size < frameCapacity) (name : Name)
    (value : Value) :
    ∃ after, frame.define name value = .ok after ∧ after.size ≤ frame.size + 1 := by
  unfold Frame.define
  rw [if_pos (.inr room)]
  exact ⟨_, rfl, Entries.length_insert_le⟩

/-- The session inside a call that has a frame of its own. -/
def Session.within (session : Session) (frame : Frame) : Session :=
  { session with locals := frame :: session.locals, depth := session.depth + 1 }

namespace Run

/-- Names are bound in the innermost frame one after another as long as it has room. -/
theorem bindAll_eq_ok (names : List Name) (values : List Value) (session : Session)
    {frame : Frame} {outer : List Frame} (innermost : session.locals = frame :: outer)
    (room : frame.size + names.length ≤ frameCapacity) :
    ∃ after, bindAll names values session = .ok () { session with locals := after :: outer } := by
  induction names generalizing values session frame with
  | nil =>
    refine ⟨frame, ?_⟩
    rw [← innermost]
    rfl
  | cons name names hypothesis =>
    cases values with
    | nil =>
      refine ⟨frame, ?_⟩
      rw [← innermost]
      rfl
    | cons value values =>
      rw [List.length_cons] at room
      obtain ⟨next, defined, grown⟩ := frame.define_of_room (by omega) name value
      let middle : Session := { session with locals := next :: outer }
      have bound : session.define name value = .ok middle := by
        unfold Session.define
        rw [innermost]
        dsimp only
        rw [defined]
        rfl
      obtain ⟨after, rest⟩ := hypothesis values middle rfl (by omega)
      refine ⟨after, ?_⟩
      unfold bindAll
      rw [bind_of_ok (bind_eq_ok_of_define bound), rest]

/-- A call of a function with few parameters always comes to its body. -/
theorem openCall_eq_ok {parameters : List Name} (values : List Value) (session : Session)
    (few : parameters.length ≤ frameCapacity) :
    ∃ frame, openCall parameters values session = .ok () (session.within frame) := by
  have room : Frame.empty.size + parameters.length ≤ frameCapacity := by
    rw [show Frame.empty.size = 0 from rfl, Nat.zero_add]
    exact few
  obtain ⟨frame, bound⟩ := bindAll_eq_ok parameters values session.enter rfl room
  have entered : (modify Session.enter : Run Unit) session = .ok () session.enter := rfl
  refine ⟨frame, ?_⟩
  unfold openCall
  rw [bind_of_ok entered, bind_of_ok bound]
  rfl

end Run

/-! ### What stays the same -/

namespace Session

/-- Two sessions have the same frames and the same number of calls in progress. -/
structure SameFrames (earlier later : Session) : Prop where
  locals : later.locals = earlier.locals
  globals : later.globals = earlier.globals
  depth : later.depth = earlier.depth

/-- Two sessions have the same frames around the innermost one, which may differ, and the same
number of calls in progress. -/
structure SameOuterFrames (earlier later : Session) : Prop where
  outer : later.chain.tail = earlier.chain.tail
  calls : later.locals.length = earlier.locals.length
  depth : later.depth = earlier.depth

theorem sameFrames_refl (session : Session) : session.SameFrames session :=
  ⟨rfl, rfl, rfl⟩

theorem SameFrames.trans {first second third : Session} (head : first.SameFrames second)
    (tail : second.SameFrames third) : first.SameFrames third :=
  ⟨tail.locals.trans head.locals, tail.globals.trans head.globals, tail.depth.trans head.depth⟩

theorem sameOuterFrames_refl (session : Session) : session.SameOuterFrames session :=
  ⟨rfl, rfl, rfl⟩

theorem SameFrames.chain {earlier later : Session} (same : earlier.SameFrames later) :
    later.chain = earlier.chain := by
  unfold Session.chain
  rw [same.locals, same.globals]

theorem SameOuterFrames.trans {first second third : Session}
    (head : first.SameOuterFrames second) (tail : second.SameOuterFrames third) :
    first.SameOuterFrames third :=
  ⟨tail.outer.trans head.outer, tail.calls.trans head.calls, tail.depth.trans head.depth⟩

theorem SameOuterFrames.trans_sameFrames {first second third : Session}
    (head : first.SameOuterFrames second) (tail : second.SameFrames third) :
    first.SameOuterFrames third where
  outer := by rw [tail.chain, head.outer]
  calls := by rw [tail.locals, head.calls]
  depth := tail.depth.trans head.depth

/-- A name is bound in the innermost frame. -/
theorem sameOuterFrames_of_define {session after : Session} {name : Name} {value : Value}
    (defined : session.define name value = .ok after) : session.SameOuterFrames after := by
  obtain ⟨globals, top, -, rfl⟩ | ⟨frame, inner, outer, inCall, -, rfl⟩ := define_eq_ok defined
  · refine ⟨?_, rfl, rfl⟩
    unfold chain
    rw [top]
    rfl
  · refine ⟨?_, ?_, rfl⟩
    · unfold chain
      rw [inCall]
      rfl
    · rw [inCall]
      rfl

/-- When a call is over, the frames that are left are those that were around it. -/
theorem SameOuterFrames.leave {session after : Session} {frame : Frame}
    (same : (session.within frame).SameOuterFrames after) : session.SameFrames after.leave := by
  obtain ⟨outer, calls, depth⟩ := same
  cases inside : after.locals with
  | nil =>
    rw [inside] at calls
    cases calls
  | cons inner rest =>
    unfold chain at outer
    rw [inside] at outer
    obtain ⟨locals, globals⟩ := List.append_inj' outer rfl
    refine ⟨?_, (List.singleton_inj.mp globals), ?_⟩
    · unfold Session.leave
      rw [inside]
      exact locals
    · unfold Session.leave
      rw [depth]
      rfl

end Session

/-! ### Work that keeps frames -/

/-- In a session whose functions have all been read, a relation to an earlier session is kept. -/
def Session.Since (relation : Session → Session → Prop) (base session : Session) : Prop :=
  session.EachFunction Function.Readable ∧ relation base session

/-- A relation that only speaks of frames is kept by every action that leaves them alone. -/
theorem actionInvariant_since {relation : Session → Session → Prop}
    (still : ∀ {base earlier later : Session}, relation base earlier →
      earlier.SameFrames later → relation base later) (base : Session) :
    ActionInvariant Function.Readable (Session.Since relation base) where
  streams _ holds := ⟨holds.1, still holds.2 ⟨rfl, rfl, rfl⟩⟩
  note _ holds := ⟨holds.1, still holds.2 ⟨rfl, rfl, rfl⟩⟩
  register readable holds :=
    ⟨(sessionInvariant_eachFunction Function.Readable).register readable holds.1,
      still holds.2 ⟨rfl, rfl, rfl⟩⟩
  lookup found holds := holds.1 _ (List.mem_of_find?_eq_some found)

theorem actionInvariant_sameFrames (base : Session) :
    ActionInvariant Function.Readable (Session.Since Session.SameFrames base) :=
  actionInvariant_since (fun head tail => head.trans tail) base

theorem actionInvariant_sameOuterFrames (base : Session) :
    ActionInvariant Function.Readable (Session.Since Session.SameOuterFrames base) :=
  actionInvariant_since (fun head tail => head.trans_sameFrames tail) base

/-- The coupling of work with itself that keeps a relation to every session before it. -/
def relating (relation : Session → Session → Prop) : Coupling Run Run where
  holds condition work _ := ∀ base, Keeps (Session.Since relation base) condition work
  pure _ holds _ := keeps_pure holds
  bind head tail base := keeps_bind (head base) fun value holds => tail value holds base

/-- A call keeps all frames if its body keeps those around its own. -/
theorem relating_inCall {Result : Type} {work : Run Result} {function : Function}
    (readable : function.Readable)
    (keeps : ∀ base, Keeps (Session.Since Session.SameOuterFrames base) (fun _ => True) work)
    (values : List Value) (base : Session) :
    Keeps (Session.Since Session.SameFrames base) (fun _ => True)
      (Run.inCall function.parameters values work) := by
  intro session holds
  have few : function.parameters.length ≤ frameCapacity :=
    Nat.le_trans readable.arity_le (by decide)
  obtain ⟨frame, opened⟩ := Run.openCall_eq_ok values session few
  have body := keeps (session.within frame) (session.within frame)
    ⟨holds.1, Session.sameOuterFrames_refl _⟩
  have left {after : Session} (outer : (session.within frame).SameOuterFrames after) :
      base.SameFrames after.leave := holds.2.trans outer.leave
  unfold Run.inCall
  rw [ends_bind_of_ok opened, Run.ends_closing]
  exact body.weaken (fun _ _ kept => ⟨⟨kept.1.1, left kept.1.2⟩, trivial⟩)
    fun _ _ kept => ⟨kept.1, left kept.2⟩

theorem coupled_relating (limits : Limits) :
    Coupled Function.Readable limits limits 0 (relating Session.SameFrames)
      (relating Session.SameOuterFrames) where
  widen narrow _ session holds :=
    (narrow session session ⟨holds.1, session.sameFrames_refl⟩).weaken
      (fun _ _ kept => ⟨⟨kept.1.1, holds.2.trans_sameFrames kept.1.2⟩, kept.2⟩)
      fun _ _ kept => ⟨kept.1, holds.2.trans_sameFrames kept.2⟩
  exhausted _ _ _ := keeps_throw
  ask _ _ := fun _ holds => ⟨holds, trivial⟩
  visit _ _ := keeps_pure trivial
  builtin _ _ _ := (acts_onWorld (fun _ holds =>
    ⟨holds.1, holds.2.trans ⟨rfl, rfl, rfl⟩⟩) _).keeps
  settle _ _ := (acts_onWorld (fun _ holds => ⟨holds.1, holds.2.trans ⟨rfl, rfl, rfl⟩⟩) _).keeps
  callee _ _ _ base := ((actionInvariant_sameFrames base).acts_callee _ _ _ _).keeps
  inCall _ values readable keeps base := relating_inCall readable keeps values base
  opening _ _ := keeps_then (keeps_pure trivial) fun _ => keeps_tick (fun _ holds =>
    ⟨holds.1, holds.2.trans_sameFrames ⟨rfl, rfl, rfl⟩⟩) _ _
  bind _ _ base := ((actionInvariant_sameOuterFrames base).acts_bindName fun defined holds =>
    ⟨(sessionInvariant_eachFunction Function.Readable).define defined holds.1,
      holds.2.trans (Session.sameOuterFrames_of_define defined)⟩).keeps
  register _ readable base := ((actionInvariant_sameOuterFrames base).acts_register readable).keeps
  ignore _ base := ((actionInvariant_sameOuterFrames base).acts_note rfl).keeps

/-! ### Expressions, statements and calls -/

theorem relating_evaluate (limits : Limits) (fuel : Nat) (expr : Expr) (base : Session) :
    Keeps (Session.Since Session.SameFrames base) (fun _ => True)
      (Run.evaluate limits fuel expr) :=
  ((coupled_relating limits).evaluate_execute (fun _ readable => readable.body.eachFunction)
    fuel).1 expr base

theorem relating_execute (limits : Limits) (fuel : Nat) {statement : Stmt}
    (read : statement.Readable) (base : Session) :
    Keeps (Session.Since Session.SameOuterFrames base) (fun _ => True)
      (Run.execute limits fuel statement) :=
  ((coupled_relating limits).evaluate_execute (fun _ readable => readable.body.eachFunction)
    fuel).2 statement read.eachFunction base

section

variable {session : Session} (readable : session.EachFunction Function.Readable)
  (limits : Limits) (fuel : Nat)

include readable

theorem Run.sameFrames_evaluate (expr : Expr) :
    session.SameFrames (stateAfter (Run.evaluate limits fuel expr) session) :=
  (stateAfter_of_keeps (relating_evaluate limits fuel expr session)
    ⟨readable, session.sameFrames_refl⟩).2

theorem Run.sameOuterFrames_execute {statement : Stmt} (read : statement.Readable) :
    session.SameOuterFrames (stateAfter (Run.execute limits fuel statement) session) :=
  (stateAfter_of_keeps (relating_execute limits fuel read session)
    ⟨readable, session.sameOuterFrames_refl⟩).2

theorem Run.sameFrames_inCall {function : Function} (read : function.Readable)
    (values : List Value) :
    session.SameFrames (stateAfter
      (Run.inCall function.parameters values (Run.execute limits fuel function.body))
        session) :=
  (stateAfter_of_keeps
    (relating_inCall read (relating_execute limits fuel read.body) values session)
      ⟨readable, session.sameFrames_refl⟩).2

/-- Evaluating what a source spells leaves the variables of the top level as they are. -/
theorem Session.globals_evaluate (source : Bytes) :
    (stateAfter (Session.evaluate limits source) session).globals = session.globals := by
  let relation (earlier later : Session) : Prop := later.globals = earlier.globals
  have kept : ActionInvariant Function.Readable (Session.Since relation session) :=
    actionInvariant_since (fun head tail => tail.globals.trans head) session
  have keeps : Keeps (Session.Since relation session) (fun _ => True)
      (Session.evaluate limits source) := by
    refine kept.keeps_readOrReport _ fun expr _ => keeps_then (keeps_modify fun _ holds => holds)
      fun _ => kept.keeps_finished (fun holds => holds) fun start holds => ?_
    exact (relating_evaluate limits ampleFuel expr start start
        ⟨holds.1, start.sameFrames_refl⟩).weaken
      (fun _ _ after => ⟨⟨after.1.1, after.1.2.globals.trans holds.2⟩, trivial⟩)
      fun _ _ after => ⟨after.1, after.2.globals.trans holds.2⟩
  exact (stateAfter_of_keeps keeps ⟨readable, rfl⟩).2

end

/-- An expression writes to no frame that exists before it. Let every registered function have been
read, as in every session there can be. However an expression ends, by a value or cut short, all
frames bind what they did, the innermost one is the same and as many calls are in progress. A
statement can only change the innermost frame. A call of a registered function, whatever its body
calls in turn, changes nothing that its caller has bound, and evaluating a source changes nothing
that is bound at the top level. -/
theorem expressions_write_to_no_frame {session : Session}
    (readable : session.EachFunction Function.Readable) (limits : Limits) (fuel : Nat) :
    (∀ expr, session.SameFrames (stateAfter (Run.evaluate limits fuel expr) session)) ∧
    (∀ statement : Stmt, statement.Readable →
      session.SameOuterFrames (stateAfter (Run.execute limits fuel statement) session)) ∧
    (∀ function ∈ session.functions.functions, ∀ values,
      session.SameFrames (stateAfter
        (Run.inCall function.parameters values (Run.execute limits fuel function.body))
          session)) ∧
    ∀ source, (stateAfter (Session.evaluate limits source) session).globals = session.globals :=
  ⟨Run.sameFrames_evaluate readable limits fuel,
    fun _ read => Run.sameOuterFrames_execute readable limits fuel read,
    fun function member => Run.sameFrames_inCall readable limits fuel (readable function member),
    Session.globals_evaluate readable limits⟩

/-- A function binds a variable of its caller in a loop of its own, and writes it. -/
theorem loop_in_call_spares_caller :
    let session := stateAfter
      (Session.run Limits.standard (ascii "x = 1\ndef f(y): for x in [y]: print(x)"))
      (Session.start (Streams.reliable []))
    let after := stateAfter (Session.evaluate Limits.standard (ascii "f(2)")) session
    session.EachFunction Function.Readable ∧
    session.global? (ascii "x") = some (.int 1) ∧
    after.world.streams.out.written.bytes = ascii "2\n" ∧
    after.global? (ascii "x") = some (.int 1) := by
  intro session after
  have readable : session.EachFunction Function.Readable :=
    Session.Reachable.functionsReadable (.idle (.run _ _ (.start _)))
  have bound : session.global? (ascii "x") = some (.int 1) := by decide +kernel
  obtain ⟨-, -, -, kept⟩ := expressions_write_to_no_frame readable Limits.standard 0
  refine ⟨readable, bound, by decide +kernel, ?_⟩
  unfold Session.global?
  rw [kept]
  exact bound

end Scriptling
