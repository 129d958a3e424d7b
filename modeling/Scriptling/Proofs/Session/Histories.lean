/-
This file follows a session through a whole history of requests. Each request
can end in many ways: its source cannot be read, a stream refuses something in
the middle of a message, the budget is used up deep inside a call, or the last
flush is refused. After each of them the session is settled all the same: no
call is left open, no name is bound or registered twice, and what has a name
keeps it. A request that cannot be read leaves nothing but its messages.

The streams are those the session was started with, and they refuse whatever
they like.
-/

import Mathlib.Data.List.Nodup
import Scriptling.Proofs.Session.Reachable

namespace Scriptling

/-! ### Names in the order of their first mention -/

/-- Where nothing is repeated, nothing is erased. -/
theorem eraseDups_eq_self {names : List Name} (distinct : names.Nodup) :
    names.eraseDups = names := by
  induction names with
  | nil => rfl
  | cons name rest hypothesis =>
    obtain ⟨fresh, others⟩ := List.nodup_cons.mp distinct
    have kept : rest.filter (fun other => !other == name) = rest := by
      refine List.filter_eq_self.mpr fun other member => ?_
      have different : other ≠ name := fun same => fresh (same ▸ member)
      simp [different]
    rw [List.eraseDups_cons, kept, hypothesis others]

/-- One more mention of a name only counts if it is the first. -/
theorem eraseDups_concat (names : List Name) (name : Name) :
    (names ++ [name]).eraseDups =
      if name ∈ names then names.eraseDups else names.eraseDups ++ [name] := by
  rw [List.eraseDups_append]
  split
  next old =>
    have nothing : [name].removeAll names = [] := by simp [List.removeAll, old]
    rw [nothing, List.eraseDups_nil, List.append_nil]
  next fresh =>
    have new : [name].removeAll names = [name] := by simp [List.removeAll, fresh]
    rw [new]
    rfl

/-- A registry keeps its names in the order in which they were first registered. -/
theorem Registry.names_register_of_mentions {registry : Registry} {mentions : List Name}
    (same : registry.names = mentions.eraseDups) (function : Function) :
    (registry.register function).names = (mentions ++ [function.name]).eraseDups := by
  have known : function.name ∈ mentions.eraseDups ↔ function.name ∈ mentions :=
    List.mem_eraseDups
  rw [Registry.names_register, eraseDups_concat, same]
  exact ite_congr (propext known) (fun _ => rfl) fun _ => rfl

theorem Registry.nodup_register {registry : Registry} (distinct : registry.names.Nodup)
    (function : Function) : (registry.register function).names.Nodup := by
  rw [Registry.names_register]
  split
  next => exact distinct
  next fresh =>
    rw [← List.concat_eq_append]
    exact distinct.concat fresh

/-- Where names are distinct, a function is found under its own. -/
theorem Registry.lookup_of_mem {registry : Registry} (distinct : registry.names.Nodup)
    {function : Function} (member : function ∈ registry.functions) :
    registry.lookup function.name = some function := by
  unfold Registry.lookup Entries.find?
  cases found : registry.functions.find? fun other => other.name == function.name with
  | none =>
    have all := List.find?_eq_none.mp found function member
    exact absurd (beq_self_eq_true function.name) all
  | some other =>
    have named := List.find?_some found
    rw [List.inj_on_of_nodup_map distinct (List.mem_of_find?_eq_some found) member
      (eq_of_beq named)]

/-! ### Frames -/

/-- A frame binds each name once, and no more names than it has room for. -/
structure Frame.Fits (frame : Frame) : Prop where
  distinct : frame.names.Nodup
  room : frame.size ≤ frameCapacity

theorem Frame.fits_empty : Frame.empty.Fits :=
  ⟨List.nodup_nil, Nat.zero_le _⟩

theorem Frame.Fits.define {frame after : Frame} {name : Name} {value : Value}
    (fits : frame.Fits) (defined : frame.define name value = .ok after) :
    after.Fits ∧ frame.names <+: after.names := by
  have size (frame : Frame) : frame.size = frame.names.length := (List.length_map ..).symm
  obtain ⟨room, bindings⟩ := Frame.define_eq_ok.mp defined
  have names : after.names =
      if name ∈ frame.names then frame.names else frame.names ++ [name] := by
    rw [Frame.names, bindings, Entries.names_insert]
    rfl
  split at names
  next =>
    refine ⟨⟨?_, ?_⟩, [], (List.append_nil _).trans names.symm⟩
    · rw [names]
      exact fits.distinct
    · rw [size, names, ← size]
      exact fits.room
  next new =>
    refine ⟨⟨?_, ?_⟩, ?_⟩
    · rw [names, ← List.concat_eq_append]
      exact fits.distinct.concat new
    · rw [size, names, List.length_append, ← size]
      exact room.resolve_left fun bound => new (Entries.contains_iff.mp bound)
    · rw [names]
      exact List.prefix_append _ _

/-! ### Between two requests -/

namespace Session

/-- No frame binds a name twice or more names than it has room for, and no function is registered
twice. -/
structure Tidy (session : Session) : Prop where
  frames : session.EachFrame Frame.Fits
  functions : session.functions.names.Nodup

/-- No call is open. -/
structure AtTop (session : Session) : Prop where
  locals : session.locals = []
  depth : session.depth = 0

/-- The later session has all names of the earlier one. The functions it has besides are named in
the order in which its log speaks of them first. -/
structure Continues (earlier later : Session) : Prop where
  globals : earlier.globals.names <+: later.globals.names
  functions : ∃ events, later.log.toList = earlier.log.toList ++ events ∧
    later.functions.names =
      (earlier.functions.names ++ events.filterMap Event.registered?).eraseDups

theorem continues_refl {session : Session} (tidy : session.Tidy) : session.Continues session where
  globals := List.prefix_rfl
  functions := by
    refine ⟨[], (List.append_nil _).symm, ?_⟩
    rw [List.filterMap_nil, List.append_nil, eraseDups_eq_self tidy.functions]

theorem Continues.functions_prefix {earlier later : Session} (continues : earlier.Continues later)
    (tidy : earlier.Tidy) : earlier.functions.names <+: later.functions.names := by
  obtain ⟨events, -, same⟩ := continues.functions
  rw [same, List.eraseDups_append, eraseDups_eq_self tidy.functions]
  exact List.prefix_append _ _

end Session

/-- A session is tidy at every moment. -/
theorem sessionInvariant_tidy : SessionInvariant (fun _ => True) Session.Tidy where
  streams _ tidy := ⟨tidy.frames, tidy.functions⟩
  note _ tidy := ⟨tidy.frames, tidy.functions⟩
  register _ tidy := ⟨tidy.frames, Registry.nodup_register tidy.functions _⟩
  lookup _ _ := trivial
  heap _ tidy := ⟨tidy.frames, tidy.functions⟩
  enter tidy := ⟨tidy.frames.enter Frame.fits_empty, tidy.functions⟩
  deepen tidy := ⟨tidy.frames, tidy.functions⟩
  leave tidy := ⟨tidy.frames.leave, tidy.functions⟩
  define defined tidy := by
    refine ⟨tidy.frames.define (fun _ _ fits bound => (fits.define bound).1) defined, ?_⟩
    rw [(Session.eq_of_define defined).1]
    exact tidy.functions
  steps _ tidy := ⟨tidy.frames, tidy.functions⟩
  atTop tidy := ⟨tidy.frames.atTop, tidy.functions⟩

/-- A tidy session keeps the names it has. -/
theorem sessionInvariant_continues (base : Session) :
    SessionInvariant (fun _ => True)
      (fun session => session.Tidy ∧ base.Continues session) where
  streams streams holds :=
    ⟨sessionInvariant_tidy.streams streams holds.1, holds.2.globals, holds.2.functions⟩
  note {session event} other holds := by
    refine ⟨sessionInvariant_tidy.note other holds.1, holds.2.globals, ?_⟩
    obtain ⟨events, log, names⟩ := holds.2.functions
    refine ⟨events ++ [event], ?_, ?_⟩
    · rw [Array.toList_push, log, List.append_assoc]
    · have silent : [event].filterMap Event.registered? = [] := by simp [other]
      rw [List.filterMap_append, silent, List.append_nil]
      exact names
  register {session function} isKnown holds := by
    refine ⟨sessionInvariant_tidy.register isKnown holds.1, holds.2.globals, ?_⟩
    obtain ⟨events, log, names⟩ := holds.2.functions
    refine ⟨events ++ [.registering function.name function.arity], ?_, ?_⟩
    · rw [Array.toList_push, log, List.append_assoc]
    · rw [Registry.names_register_of_mentions names, List.filterMap_append, ← List.append_assoc]
      rfl
  lookup _ _ := trivial
  heap heap holds :=
    ⟨sessionInvariant_tidy.heap heap holds.1, holds.2.globals, holds.2.functions⟩
  enter holds := ⟨sessionInvariant_tidy.enter holds.1, holds.2.globals, holds.2.functions⟩
  deepen holds := ⟨sessionInvariant_tidy.deepen holds.1, holds.2.globals, holds.2.functions⟩
  leave holds := ⟨sessionInvariant_tidy.leave holds.1, holds.2.globals, holds.2.functions⟩
  define {session after name value} defined holds := by
    refine ⟨sessionInvariant_tidy.define defined holds.1, ?_⟩
    obtain ⟨globals, top, bound, rfl⟩ | ⟨frame, inner, outer, inCall, bound, rfl⟩ :=
      Session.define_eq_ok defined
    · have fits := holds.1.frames session.globals (List.mem_append_right _ List.mem_cons_self)
      exact ⟨holds.2.globals.trans (fits.define bound).2, holds.2.functions⟩
    · exact ⟨holds.2.globals, holds.2.functions⟩
  steps steps holds :=
    ⟨sessionInvariant_tidy.steps steps holds.1, holds.2.globals, holds.2.functions⟩
  atTop holds := ⟨sessionInvariant_tidy.atTop holds.1, holds.2.globals, holds.2.functions⟩

/-! ### The end of a run -/

/-- Whatever the streams do at the end of a run, no call is open after it. -/
theorem actionInvariant_atTop : ActionInvariant (fun _ => True) Session.AtTop where
  streams _ top := ⟨top.locals, top.depth⟩
  note _ top := ⟨top.locals, top.depth⟩
  register _ top := ⟨top.locals, top.depth⟩
  lookup _ _ := trivial

theorem keeps_atTop_finished {Result : Type} (run : Run Result) :
    Keeps Session.AtTop (fun _ => True) (Run.finished run) := by
  intro session _
  have somehow : Ends run session (fun _ _ => True) fun _ _ => True :=
    gives_of_forall (fun _ => trivial) session
  have top (after : Session) : after.atTop.AtTop := ⟨rfl, rfl⟩
  have finish (abort? : Option Abort) (after : Session) :=
    actionInvariant_atTop.ends_finish abort? (top after)
  rw [Run.ends_finished]
  refine somehow.weaken (fun _ after _ => ?_) fun abort after _ => ?_
  · exact (finish none after).weaken (fun _ _ top => ⟨top, trivial⟩) fun _ _ cut => cut.1
  · exact (finish (some abort) after).weaken (fun _ _ top => top) fun _ _ cut => cut.1

theorem keeps_atTop_program (limits : Limits) (fuel : Nat) (program : Program) :
    Keeps Session.AtTop (fun _ => True) (Run.program limits fuel program) :=
  keeps_then (actionInvariant_atTop.keeps_prepare (fun _ top => ⟨top.locals, top.depth⟩) program
    fun _ _ => trivial) fun _ => keeps_atTop_finished _

theorem keeps_atTop_expression (limits : Limits) (fuel : Nat) (expr : Expr) :
    Keeps Session.AtTop (fun _ => True) (Run.expression limits fuel expr) :=
  keeps_then (keeps_modify fun _ top => ⟨top.locals, top.depth⟩) fun _ => keeps_atTop_finished _

/-! ### Requests -/

/-- What a host asks of a session. -/
inductive Request where
  | run (source : Bytes)
  | runQuietly (source : Bytes)
  | evaluate (source : Bytes)
  | reset

/-- The source of a request cannot be read. -/
def Request.Unreadable : Request → Prop
  | .run source | .runQuietly source => ∃ diagnostics, Program.ofSource source = .error diagnostics
  | .evaluate source => ∃ diagnostics, Expr.ofSource source = .error diagnostics
  | .reset => False

namespace Session

/-- The session after a request, however that ends. -/
def after (limits : Limits) (session : Session) : Request → Session
  | .run source => stateAfter (Session.run limits source) session
  | .runQuietly source => stateAfter (Session.runQuietly limits source) session
  | .evaluate source => stateAfter (Session.evaluate limits source) session
  | .reset => session.reset

/-- The session after some requests, one after another. -/
def afterAll (limits : Limits) (session : Session) (history : List Request) : Session :=
  history.foldl (Session.after limits) session

/-- A session between two requests: the only frame is the top-level one, no call is in progress,
names are bound once and no more of them than there is room for, and functions are registered once,
each under its own name. -/
structure Settled (session : Session) : Prop where
  chain : session.chain = [session.globals]
  depth : session.depth = 0
  distinct : session.globals.names.Nodup
  room : session.globals.size ≤ frameCapacity
  registered : session.functions.names.Nodup
  named : ∀ function ∈ session.functions.functions,
    session.functions.lookup function.name = some function

theorem settled_of_tidy {session : Session} (tidy : session.Tidy) (top : session.AtTop) :
    session.Settled where
  chain := by
    unfold Session.chain
    rw [top.locals]
    rfl
  depth := top.depth
  distinct := (tidy.frames session.globals (List.mem_append_right _ List.mem_cons_self)).distinct
  room := (tidy.frames session.globals (List.mem_append_right _ List.mem_cons_self)).room
  registered := tidy.functions
  named _ member := Registry.lookup_of_mem tidy.functions member

section

variable (limits : Limits) {session : Session}

/-- A request keeps what the runs that it starts keep, unless the session forgets everything. -/
theorem after_of_keeps {invariant : Session → Prop}
    (kept : ActionInvariant (fun _ => True) invariant)
    (programs : ∀ program, Keeps invariant (fun _ => True) (Run.program limits ampleFuel program))
    (expressions : ∀ expr, Keeps invariant (fun _ => True) (Run.expression limits ampleFuel expr))
    (holds : invariant session) {request : Request} (keeps : request ≠ .reset) :
    invariant (session.after limits request) := by
  cases request with
  | run source =>
    exact stateAfter_of_keeps (kept.keeps_readOrReport _ fun program _ => programs program) holds
  | runQuietly source =>
    exact stateAfter_of_keeps (keeps_runQuietly fun program _ => programs program) holds
  | evaluate source =>
    exact stateAfter_of_keeps (kept.keeps_readOrReport _ fun expr _ => expressions expr) holds
  | reset => exact absurd rfl keeps

theorem after_of_invariant {invariant : Session → Prop}
    (kept : SessionInvariant (fun _ => True) invariant) (holds : invariant session)
    {request : Request} (keeps : request ≠ .reset) :
    invariant (session.after limits request) := by
  have all (statement : Stmt) : statement.EachFunction fun _ => True :=
    statement.eachFunction_of_forall fun _ => trivial
  exact after_of_keeps limits kept.toActionInvariant
    (fun program => kept.keeps_program (fun _ _ => all _) limits ampleFuel program fun _ _ => all _)
    (fun expr => kept.keeps_expression (fun _ _ => all _) limits ampleFuel expr) holds keeps

theorem tidy_after (tidy : session.Tidy) (request : Request) :
    (session.after limits request).Tidy := by
  by_cases forgets : request = .reset
  · rw [forgets]
    refine ⟨fun frame member => ?_, List.nodup_nil⟩
    rcases List.mem_append.mp member with call | top
    · exact tidy.frames frame (List.mem_append_left _ call)
    · rw [List.mem_singleton.mp top]
      exact Frame.fits_empty
  · exact after_of_invariant limits sessionInvariant_tidy tidy forgets

theorem atTop_after (top : session.AtTop) (request : Request) :
    (session.after limits request).AtTop := by
  by_cases forgets : request = .reset
  · rw [forgets]
    exact ⟨top.locals, top.depth⟩
  · exact after_of_keeps limits actionInvariant_atTop (keeps_atTop_program limits ampleFuel)
      (keeps_atTop_expression limits ampleFuel) top forgets

/-- One request leaves a session as it was between requests, and so does a history of them. -/
theorem tidy_atTop_afterAll (tidy : session.Tidy) (top : session.AtTop) (history : List Request) :
    (session.afterAll limits history).Tidy ∧ (session.afterAll limits history).AtTop := by
  induction history generalizing session with
  | nil => exact ⟨tidy, top⟩
  | cons request rest hypothesis =>
    exact hypothesis (tidy_after limits tidy request) (atTop_after limits top request)

theorem continues_after (tidy : session.Tidy) {request : Request} (keeps : request ≠ .reset) :
    session.Continues (session.after limits request) :=
  (after_of_invariant limits (sessionInvariant_continues session)
    ⟨tidy, continues_refl tidy⟩ keeps).2

/-- Appending to a list changes the lists and nothing else. -/
theorem stateAfter_append (session : Session) (name : Name) (datum : Datum) :
    ∃ heap, stateAfter (Session.append name datum) session =
      { session with world := { session.world with heap } } := by
  unfold Session.append
  rw [stateAfter, bind_of_ok (rfl : (get : Operation Session) session = .ok session session)]
  cases session.global name with
  | list handle => exact ⟨_, rfl⟩
  | none => exact ⟨_, rfl⟩
  | int number => exact ⟨_, rfl⟩
  | str text => exact ⟨_, rfl⟩

/-- Between two operations of its host no call of a session is open. -/
theorem Idle.atTop (idle : session.Idle) : session.AtTop := by
  induction idle with
  | start streams => exact ⟨rfl, rfl⟩
  | run limits source _ top => exact atTop_after limits top (.run source)
  | runQuietly limits source _ top => exact atTop_after limits top (.runQuietly source)
  | evaluate limits source _ top => exact atTop_after limits top (.evaluate source)
  | reset _ top => exact ⟨top.locals, top.depth⟩
  | exchange streams _ top => exact ⟨top.locals, top.depth⟩
  | store datum _ top => exact ⟨top.locals, top.depth⟩
  | @append session name datum _ top =>
    obtain ⟨heap, same⟩ := stateAfter_append session name datum
    rw [same]
    exact ⟨top.locals, top.depth⟩
  | make _ _ top => exact ⟨top.locals, top.depth⟩
  | bind _ bound _ top =>
    obtain ⟨globals, -, -, rfl⟩ | ⟨frame, inner, outer, inCall, -, -⟩ := define_eq_ok bound
    · exact ⟨top.locals, top.depth⟩
    · exact absurd (inCall.symm.trans top.locals) (List.cons_ne_nil _ _)
  | change _ _ top => exact ⟨top.locals, top.depth⟩

/-! ### Requests that cannot be read -/

/-- The session with another diagnostic stream. -/
def withDiagnostics (session : Session) (err : Sink) : Session :=
  { session with world :=
      { session.world with streams := { session.world.streams with err } } }

@[simp]
theorem global_withDiagnostics (session : Session) (err : Sink) (name : Name) :
    (session.withDiagnostics err).global name = session.global name := rfl

/-- Messages touch nothing but the diagnostic stream, even if it refuses them. -/
theorem keeps_announceAll (base : Session) (diagnostics : List Diagnostic) :
    Keeps (fun session => ∃ err, session = base.withDiagnostics err) (fun _ => True)
      (Run.announceAll diagnostics) := by
  have one (diagnostic : Diagnostic) :
      Keeps (fun session => ∃ err, session = base.withDiagnostics err) (fun _ => True)
        (Run.announce diagnostic) := by
    rintro _ ⟨err, rfl⟩
    unfold Run.announce
    rw [Run.ends_onWorld]
    unfold World.complain Ends
    dsimp only
    cases ((base.withDiagnostics err).world.streams.err.writeAll
      (diagnostic.pieces.map encode)).1 with
    | ok granted => exact ⟨⟨_, rfl⟩, trivial⟩
    | error fault => exact ⟨_, rfl⟩
  induction diagnostics with
  | nil => exact keeps_pure trivial
  | cons diagnostic rest hypothesis =>
    exact keeps_then (one diagnostic) fun _ => hypothesis

theorem after_of_unreadable {request : Request} (unreadable : request.Unreadable) :
    ∃ err, session.after limits request = session.withDiagnostics err := by
  have same : session = session.withDiagnostics session.world.streams.err := rfl
  have report {Tree Result : Type} {read : Except (List Diagnostic) Tree}
      {run : Tree → Run Result} {diagnostics : List Diagnostic}
      (refused : read = .error diagnostics) :
      ∃ err, stateAfter (Session.readOrReport read run) session = session.withDiagnostics err := by
    rw [refused]
    exact stateAfter_of_keeps (keeps_then (keeps_operation (keeps_announceAll session diagnostics))
      fun _ => keeps_throw) ⟨_, same⟩
  cases request with
  | run source =>
    obtain ⟨diagnostics, refused⟩ := unreadable
    exact report refused
  | runQuietly source =>
    obtain ⟨diagnostics, refused⟩ := unreadable
    refine ⟨session.world.streams.err, ?_⟩
    unfold Session.after Session.runQuietly
    dsimp only
    rw [refused]
    rfl
  | evaluate source =>
    obtain ⟨diagnostics, refused⟩ := unreadable
    exact report refused
  | reset => exact unreadable.elim

end

end Session

/-- Every request of a history leaves the session settled, whatever the streams refuse and however
the request ends. Unless it was to forget everything, every name that was bound or registered
before still is, and the registered names stand in the order of their first registration. A request
that cannot be read changes nothing but the diagnostic stream. -/
theorem requests_leave_session_settled (limits : Limits) (streams : Streams)
    (history : List Request) (request : Request) :
    let before := (Session.start streams).afterAll limits history
    let after := before.after limits request
    after.Settled ∧
    (request ≠ .reset →
      before.globals.names <+: after.globals.names ∧
      before.functions.names <+: after.functions.names ∧
      ∃ events, after.log.toList = before.log.toList ++ events ∧
        after.functions.names =
          (before.functions.names ++ events.filterMap Event.registered?).eraseDups) ∧
    (request.Unreadable → ∃ err, after = before.withDiagnostics err) := by
  intro before after
  have new : (Session.start streams).Tidy := by
    refine ⟨fun frame member => ?_, List.nodup_nil⟩
    rw [List.mem_singleton.mp member]
    exact Frame.fits_empty
  obtain ⟨tidy, top⟩ := Session.tidy_atTop_afterAll limits new ⟨rfl, rfl⟩ history
  refine ⟨Session.settled_of_tidy (Session.tidy_after limits tidy request)
    (Session.atTop_after limits top request), fun keeps => ?_, Session.after_of_unreadable limits⟩
  have continues := Session.continues_after limits tidy keeps
  exact ⟨continues.globals, continues.functions_prefix tidy, continues.functions⟩

/-- A stream that takes no diagnostics cuts a run short inside a call, and another one in the middle
of its messages. -/
theorem refused_reports_leave_session_settled :
    let streams : Streams := ⟨Sink.reliable, Sink.limited (some 0) true, Source.reliable []⟩
    let before := (Session.start streams).afterAll Limits.standard
      [.run (ascii "x = 1\ndef f(y): g()\nf(x)"), .evaluate (ascii "f(2)")]
    let after := before.after Limits.standard (.run (ascii "x = "))
    before.globals.names = [ascii "x"] ∧ before.functions.names = [ascii "f"] ∧
    after.chain = [after.globals] ∧ after.depth = 0 ∧
    after.globals.names = [ascii "x"] ∧ after.functions.names = [ascii "f"] := by
  intro streams before after
  obtain ⟨settled, -, same⟩ := requests_leave_session_settled Limits.standard streams
    [.run (ascii "x = 1\ndef f(y): g()\nf(x)"), .evaluate (ascii "f(2)")] (.run (ascii "x = "))
  have refused : (Program.ofSource (ascii "x = ")).isOk = false := by decide +kernel
  have unreadable : Request.Unreadable (.run (ascii "x = ")) := by
    cases read : Program.ofSource (ascii "x = ") with
    | ok program =>
      rw [read] at refused
      cases refused
    | error diagnostics => exact ⟨diagnostics, read⟩
  obtain ⟨err, unchanged⟩ := same unreadable
  have globals : before.globals.names = [ascii "x"] := by decide +kernel
  have functions : before.functions.names = [ascii "f"] := by decide +kernel
  have after_eq : after = before.withDiagnostics err := unchanged
  refine ⟨globals, functions, settled.chain, settled.depth, ?_, ?_⟩
  · rw [after_eq]
    exact globals
  · rw [after_eq]
    exact functions

end Scriptling
