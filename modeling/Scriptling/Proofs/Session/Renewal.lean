/-
This file proves that a session which forgets everything is as good as a new
one. Forgetting takes away the variables and the functions. The lists that were
made, the count of statements and the log stay behind, and none of them can be
told from outside: no variable leads to an old list, so every list that comes up
later stands for one that comes up in a new session at the same time, with a
number that is greater by the number of old lists.

A host can do more than ask for runs. It may hand over a program as a tree,
exchange the streams, and append to the list of a variable. All of that does the
same in both sessions.
-/

import Scriptling.Proofs.Session.Histories
import Scriptling.Proofs.Session.Twins

namespace Scriptling

/-! ### What a host does -/

/-- What a host does to a session. -/
inductive HostCommand where
  | ask (request : Request)
  | runTree (program : Program)
  | exchange (streams : Streams)
  | append (name : Name) (datum : Datum)

/-- What a host is given back. -/
inductive HostReply where
  | done
  | value (value : Value)
  | appended (hasList : Bool)

/-- A request as an operation. -/
def Request.perform (limits : Limits) : Request → Operation HostReply
  | .run source => do
    Session.run limits source
    return .done
  | .runQuietly source => do
    Session.runQuietly limits source
    return .done
  | .evaluate source => return .value (← Session.evaluate limits source)
  | .reset => do
    modify Session.reset
    return .done

/-- A command as an operation. -/
def HostCommand.perform (limits : Limits) : HostCommand → Operation HostReply
  | .ask request => request.perform limits
  | .runTree program => do
    (Run.program limits ampleFuel program).operation
    return .done
  | .exchange streams => do
    modify fun session => { session with world := { session.world with streams } }
    return .done
  | .append name datum => return .appended (← Session.append name datum)

/-- The session after some commands, one after another, however each of them ends. -/
def Session.afterCommands (limits : Limits) (session : Session) (commands : List HostCommand) :
    Session :=
  commands.foldl (fun session command => stateAfter (command.perform limits) session) session

/-- Two replies are the same but for values, which are related. -/
inductive HostReply.Alike (related : Value → Value → Prop) : HostReply → HostReply → Prop
  | done : Alike related .done .done
  | value {value twin : Value} : related value twin → Alike related (.value value) (.value twin)
  | appended (hasList : Bool) : Alike related (.appended hasList) (.appended hasList)

theorem HostReply.Alike.imp {related weaker : Value → Value → Prop} {reply twin : HostReply}
    (alike : reply.Alike related twin)
    (le : ∀ value twin, related value twin → weaker value twin) : reply.Alike weaker twin := by
  cases alike with
  | done => exact .done
  | value holds => exact .value (le _ _ holds)
  | appended hasList => exact .appended hasList

/-- All that a host can see of two sessions is the same: their streams, their functions in the order
of the first registration, and their variables in the order of the first binding, with values that
denote the same. -/
structure Session.SeenAlike (first second : Session) : Prop extends first.SameOutside second where
  globals : List.Forall₂
    (fun binding twin => binding.1 = twin.1 ∧
      first.world.heap.Same second.world.heap binding.2 twin.2)
    first.globals.bindings second.globals.bindings

/-! ### No call is ever left open -/

section

variable (limits : Limits)

/-- Work leaves the same state, whatever is made of its result. -/
theorem stateAfter_reply {Fault State Result Answer : Type} (work : EStateM Fault State Result)
    (reply : Result → Answer) (start : State) :
    stateAfter (do return reply (← work)) start = stateAfter work start := by
  cases ended : work start with
  | ok result final => rw [stateAfter, stateAfter, bind_of_ok ended, ended]; rfl
  | error fault final => rw [stateAfter, stateAfter, bind_of_error ended, ended]

/-- A request leaves the same session, whether its reply is looked at or not. -/
theorem Request.stateAfter_perform (session : Session) (request : Request) :
    stateAfter (request.perform limits) session = session.after limits request := by
  cases request with
  | run source =>
    exact stateAfter_reply (Session.run limits source) (fun _ => HostReply.done) session
  | runQuietly source =>
    exact stateAfter_reply (Session.runQuietly limits source) (fun _ => HostReply.done) session
  | evaluate source =>
    exact stateAfter_reply (Session.evaluate limits source) HostReply.value session
  | reset => rfl

theorem Session.atTop_afterCommands {session : Session} (top : session.AtTop)
    (commands : List HostCommand) : (session.afterCommands limits commands).AtTop := by
  have one {session : Session} (top : session.AtTop) (command : HostCommand) :
      (stateAfter (command.perform limits) session).AtTop := by
    cases command with
    | ask request =>
      show (stateAfter (request.perform limits) session).AtTop
      rw [Request.stateAfter_perform]
      exact Session.atTop_after limits top request
    | runTree program =>
      exact stateAfter_of_keeps (keeps_then
        (keeps_operation (keeps_atTop_program limits ampleFuel program)) fun _ =>
          keeps_pure trivial) top
    | exchange streams => exact ⟨top.locals, top.depth⟩
    | append name datum =>
      obtain ⟨heap, same⟩ := Session.stateAfter_append session name datum
      rw [HostCommand.perform, stateAfter_reply, same]
      exact ⟨top.locals, top.depth⟩
  induction commands generalizing session with
  | nil => exact top
  | cons command rest hypothesis => exact hypothesis (one top command)

end

/-! ### A session that had lists before -/

/-- Two sessions are alike but for some lists that the first one has from before. -/
def Likeness.renewal (limits : Limits) (lists : Nat) : Likeness :=
  .shifted limits lists id (placed_id limits)

section

variable (limits : Limits) (lists : Nat)

/-- Between two commands two sessions are alike but for the count of statements. -/
abbrev Session.Renewed : Session → Session → Prop :=
  Session.AlikeWith (Likeness.renewal limits lists).uncounted 0

theorem Session.renewed_reset {session : Session} (top : session.AtTop) :
    session.reset.Renewed limits session.world.heap.size
      (Session.start session.world.streams) where
  globals := Frame.alike_empty
  locals := by
    show List.Forall₂ _ session.locals []
    rw [top.locals]
    exact .nil
  depth := top.depth
  functions := rfl
  mentioned _ _ _ _ := trivial
  world := ⟨Heap.twins_of_old rfl rfl fun _ _ _ none => absurd none (Nat.not_lt_zero _), rfl⟩
  steps := .inl rfl
  frames := by
    show session.locals.length = 0
    rw [top.locals]
    rfl

theorem Session.renews_append (name : Name) (datum : Datum) :
    (Likeness.renewal limits lists).uncounted.Renews Eq (Session.append name datum)
      (Session.append name datum) := by
  have stores : (Likeness.renewal limits lists).uncounted.Renews
      (Value.Alike (Pairing.shifted lists).Pairs) (Session.store datum) (Session.store datum) := by
    intro first second alike
    obtain ⟨value, heap⟩ := alike.world.heap.store datum
    exact ⟨value, alike.withWorld ⟨heap, alike.world.streams⟩⟩
  refine relates_get fun first second alike => ?_
  have values : (first.global name).Alike (Pairing.shifted lists).Pairs (second.global name) :=
    Value.alike_getD (Frame.Alike.find? alike.globals name)
  generalize first.global name = value, second.global name = twin at values ⊢
  cases values with
  | @list handle other paired =>
    refine relates_bind stores (fun element also elements => ?_) first second alike
    have apart : ∀ one two, (Pairing.shifted lists).Pairs one two →
        (one = handle ↔ two = other) := by
      intro one two together
      have here := Pairing.pairs_shifted.mp paired
      have there := Pairing.pairs_shifted.mp together
      omega
    refine relates_then (relates_modify fun one two held => ?_) fun _ => relates_pure rfl
    exact held.withWorld ⟨held.world.heap.append apart elements, held.world.streams⟩
  | none => exact ⟨rfl, alike⟩
  | int number => exact ⟨rfl, alike⟩
  | str text => exact ⟨rfl, alike⟩

theorem HostCommand.renews_perform (command : HostCommand) :
    (Likeness.renewal limits lists).uncounted.Renews
      (HostReply.Alike (Value.Alike (Pairing.shifted lists).Pairs))
      (command.perform limits) (command.perform limits) := by
  have done {operation : Operation Unit}
      (renews : (Likeness.renewal limits lists).uncounted.Renews Eq operation operation) :
      (Likeness.renewal limits lists).uncounted.Renews
        (HostReply.Alike (Value.Alike (Pairing.shifted lists).Pairs))
        (do operation; return .done) (do operation; return .done) :=
    relates_then renews fun _ => relates_pure .done
  have programs (program : Program) : (Likeness.renewal limits lists).uncounted.Renews Eq
      (Run.program limits ampleFuel program) (Run.program limits ampleFuel program) :=
    Run.renews_program (Likeness.renewal limits lists) rfl
      (Likeness.binds_shifted limits lists id _ 0) ampleFuel fun _ _ _ _ => trivial
  have expressions (expr : Expr) : (Likeness.renewal limits lists).uncounted.Renews
      (Value.Alike (Pairing.shifted lists).Pairs) (Run.expression limits ampleFuel expr)
      (Run.expression limits ampleFuel expr) :=
    Run.renews_expression (Likeness.renewal limits lists) rfl ampleFuel fun _ _ => trivial
  cases command with
  | ask request =>
    cases request with
    | run source => exact done (renews_readOrReport _ programs)
    | runQuietly source => exact done (renews_runQuietly source programs)
    | evaluate source =>
      exact relates_bind (renews_readOrReport _ expressions) fun _ _ values =>
        relates_pure (.value values)
    | reset =>
      refine done (relates_modify fun first second alike => ?_)
      exact ⟨⟨Frame.alike_empty, alike.locals, alike.depth, rfl, fun _ _ _ _ => trivial,
        alike.world, alike.steps⟩, alike.frames⟩
  | runTree program => exact done (renews_operation (programs program))
  | exchange streams =>
    exact done (relates_modify fun first second alike =>
      alike.withWorld ⟨alike.world.heap, rfl⟩)
  | append name datum =>
    exact relates_then (Session.renews_append limits lists name datum) fun hasList =>
      relates_pure (.appended hasList)

theorem Session.renewed_afterCommands {first second : Session}
    (renewed : first.Renewed limits lists second) (commands : List HostCommand) :
    (first.afterCommands limits commands).Renewed limits lists
      (second.afterCommands limits commands) := by
  induction commands generalizing first second with
  | nil => exact renewed
  | cons command rest hypothesis =>
    exact hypothesis (((command.renews_perform limits lists) _ _ renewed).weaken
      (fun _ _ _ _ held => held.2) fun _ _ cut => cut).stateAfter

variable {lists}

theorem Session.AlikeWith.seenAlike {first second : Session}
    (renewed : first.Renewed limits lists second) : first.SeenAlike second where
  toSameOutside := renewed.sameOutside rfl
  globals := renewed.globals.imp fun _ _ both =>
    ⟨both.1, (Pairing.shifted lists).Pairs, renewed.world.heap.matched, both.2⟩

end

/-- A session that forgets everything is as good as a new one with the same streams. Whatever has
been done to it before, whatever has been cut short by the limits or by a stream, and whatever is
done afterwards: the next command gives the same reply as in the new session, or fails in the same
way, and leaves the same to be seen. -/
theorem reset_renews_session (limits : Limits) (streams : Streams)
    (history later : List HostCommand) (command : HostCommand) :
    let used := (Session.start streams).afterCommands limits history
    let renewed := used.reset.afterCommands limits later
    let fresh := (Session.start used.world.streams).afterCommands limits later
    renewed.SeenAlike fresh ∧
    EndAlike (command.perform limits) (command.perform limits) renewed fresh
      (fun reply twin after other =>
        reply.Alike (after.world.heap.Same other.world.heap) twin ∧ after.SeenAlike other)
      Session.SeenAlike := by
  intro used renewed fresh
  have top : used.AtTop := Session.atTop_afterCommands limits ⟨rfl, rfl⟩ history
  have before : renewed.Renewed limits used.world.heap.size fresh :=
    Session.renewed_afterCommands limits _ (Session.renewed_reset limits top) later
  refine ⟨before.seenAlike, ?_⟩
  refine ((command.renews_perform limits used.world.heap.size) _ _ before).weaken
    (fun reply twin after other held => ?_) fun _ _ cut => cut.seenAlike
  have matched := held.2.world.heap.matched
  exact ⟨held.1.imp fun _ _ alike => ⟨_, matched, alike⟩, held.2.seenAlike⟩

end Scriptling
