/-
This file proves that programs make lists and never change one. What is proved of
evaluations holds of whole runs, and of all that a host can ask of a session
besides changing a list. A host that does may make a list hold itself, and
programs leave that as it is. Sessions of a host that never does have lists that
hold older ones only, at any time, and such lists can be compared and written
out.
-/

import Scriptling.Proofs.Session.Growth
import Scriptling.Proofs.Session.Reachable

namespace Scriptling

/-! ### Whole runs -/

namespace Session

variable {base : Heap} (limits : Limits) (fuel : Nat)

theorem keeps_closedSince_finished {Result : Type} {run : Run Result}
    (keeps : Keeps (ClosedSince base) (fun _ => True) run) :
    Keeps (ClosedSince base) (fun _ => True) (Run.finished run) :=
  (actionInvariant_closedSince base).keeps_finished
    (fun holds => holds.of_frames rfl holds.closed.frames.atTop) keeps

theorem keeps_closedSince_prepare (program : Program) :
    Keeps (ClosedSince base) (fun _ => True) (Run.prepare program) :=
  (actionInvariant_closedSince base).keeps_prepare
    (fun _ holds => holds.of_frames rfl holds.closed.frames) program
    fun _ _ => trivial

theorem keeps_closedSince_program (program : Program) :
    Keeps (ClosedSince base) (fun _ => True) (Run.program limits fuel program) :=
  keeps_then (keeps_closedSince_prepare program) fun _ => keeps_closedSince_finished
    (keeps_of_grows (Machine.grows_executeAll limits fuel program.items)
      (Watched.forget_executeAll limits fuel program.items))

theorem keeps_closedSince_expression (expr : Expr) :
    Keeps (ClosedSince base) (fun _ => True) (Run.expression limits fuel expr) :=
  keeps_then (keeps_modify fun _ holds =>
      holds.of_frames rfl holds.closed.frames) fun _ =>
    keeps_closedSince_finished
      (keeps_of_grows ((Machine.grows_evaluate_execute limits fuel).1 base expr)
        (Watched.forget_evaluate limits fuel expr))

variable {session : Session}

theorem Closed.since (closed : session.Closed) : session.ClosedSince session.world.heap :=
  ⟨closed, session.world.heap.extends_refl⟩

theorem ClosedSince.run (holds : session.ClosedSince base) (source : Bytes) :
    (stateAfter (Session.run limits source) session).ClosedSince base :=
  stateAfter_of_keeps ((actionInvariant_closedSince base).keeps_readOrReport _ fun program _ =>
    keeps_closedSince_program limits ampleFuel program) holds

theorem ClosedSince.runQuietly (holds : session.ClosedSince base) (source : Bytes) :
    (stateAfter (Session.runQuietly limits source) session).ClosedSince base :=
  stateAfter_of_keeps
    (keeps_runQuietly fun program _ => keeps_closedSince_program limits ampleFuel program) holds

theorem ClosedSince.evaluate (holds : session.ClosedSince base) (source : Bytes) :
    (stateAfter (Session.evaluate limits source) session).ClosedSince base :=
  stateAfter_of_keeps ((actionInvariant_closedSince base).keeps_readOrReport _ fun expr _ =>
    keeps_closedSince_expression limits ampleFuel expr) holds

theorem ClosedSince.store (holds : session.ClosedSince base) (datum : Datum) :
    (stateAfter (Session.store datum) session).ClosedSince base :=
  holds.of_extends (Heap.extends_store _ datum).1

/-- What the host appends is stored first, so the changed list still holds what was made. -/
theorem keeps_closed_append (name : Name) (datum : Datum) :
    Keeps Closed (fun _ => True) (Session.append name datum) := by
  intro session closed
  unfold Session.append
  rw [ends_bind, ends_get]
  cases session.global name with
  | list handle =>
    obtain ⟨extended, below⟩ := Heap.extends_store session.world.heap datum
    have stored := closed.extend extended
    refine ⟨⟨Heap.closed_append stored.heap handle below, ?_⟩, trivial⟩
    unfold lists
    dsimp only
    unfold Heap.append
    rw [Heap.size_change]
    exact stored.frames
  | none => exact ⟨closed, trivial⟩
  | int number => exact ⟨closed, trivial⟩
  | str text => exact ⟨closed, trivial⟩

/-! ### The sessions there can be -/

/-- The host binds a name to a value whose lists were made, as a program does. -/
theorem Closed.bind {after : Session} {name : Name} {value : Value} (closed : session.Closed)
    (made : value.Below session.lists) (bound : session.define name value = .ok after) :
    after.ClosedSince session.world.heap :=
  ClosedSince.define made bound closed.since

theorem Idle.closed (idle : session.Idle) : session.Closed := by
  induction idle with
  | start streams =>
    refine ⟨Heap.closed_empty, fun frame member => ?_⟩
    rw [List.mem_singleton.mp member]
    exact fun _ bound => nomatch bound
  | run limits source _ closed => exact (closed.since.run limits source).closed
  | runQuietly limits source _ closed => exact (closed.since.runQuietly limits source).closed
  | evaluate limits source _ closed => exact (closed.since.evaluate limits source).closed
  | reset _ closed =>
    refine ⟨closed.heap, fun frame member => ?_⟩
    rcases List.mem_append.mp member with call | top
    · exact closed.frames frame (List.mem_append_left _ call)
    · rw [List.mem_singleton.mp top]
      exact fun _ bound => nomatch bound
  | exchange streams _ closed => exact ⟨closed.heap, closed.frames⟩
  | store datum _ closed => exact (closed.since.store datum).closed
  | append name datum _ closed => exact stateAfter_of_keeps (keeps_closed_append name datum) closed
  | make made _ closed => exact closed.extend (Heap.extends_allocate made)
  | bind made bound _ closed => exact (closed.bind made bound).closed
  | @change session handle edit made _ closed =>
    refine ⟨Heap.closed_change closed.heap made, ?_⟩
    unfold lists
    dsimp only
    rw [Heap.size_change]
    exact closed.frames

/-- Wherever the idle sessions are closed, those at work are closed too, and their lists are ordered
if those of the idle ones are. -/
theorem Reached.closed {idle : Session → Prop} (closed : ∀ session, idle session → session.Closed)
    (reached : session.Reached idle) : session.Closed ∧
      ((∀ session, idle session → session.world.heap.Ordered) → session.world.heap.Ordered) := by
  have visited {Result : Type} {valid : Nat → Result → Prop} {work : Watched Result}
      {before : Session} {visit : Visit} (closed : before.Closed)
      (grows : Grows before.world.heap valid work) (member : visit ∈ Watched.visits work before) :
      visit.session.Closed ∧
        (before.world.heap.Ordered → visit.session.world.heap.Ordered) := by
    have ends := grows ⟨before, []⟩ ⟨closed.since, fun _ inside => absurd inside List.not_mem_nil⟩
    exact (ends.weaken (fun _ _ kept => kept.1.visits) fun _ _ kept => kept.visits).stateAfter
      visit member
  cases reached with
  | idle start => exact ⟨closed _ start, fun ordered => ordered _ start⟩
  | @inProgram before _ program limits fuel _ start _ member =>
    have prepared := stateAfter_of_keeps (keeps_closedSince_prepare program)
      (closed before start).since
    obtain ⟨closedThen, orderedThen⟩ :=
      visited prepared.closed (Machine.grows_executeAll limits fuel program.items) member
    exact ⟨closedThen, fun ordered => orderedThen (prepared.extended.ordered (ordered _ start))⟩
  | @inExpression before _ expr limits fuel _ start _ member =>
    have closedBefore : Session.Closed { before with steps := 0 } :=
      ⟨(closed before start).heap, (closed before start).frames⟩
    obtain ⟨closedThen, orderedThen⟩ :=
      visited closedBefore ((Machine.grows_evaluate_execute limits fuel).1 _ expr) member
    exact ⟨closedThen, fun ordered => orderedThen (ordered before start)⟩

theorem Reachable.closed (reached : session.Reachable) : session.Closed :=
  (Reached.closed (fun _ => Idle.closed) reached).1

/-- A session between two operations of a host that never changes a list in place. -/
inductive Unappended : Session → Prop
  | start (streams : Streams) : Unappended (Session.start streams)
  | run {session : Session} (limits : Limits) (source : Bytes) :
    Unappended session → Unappended (stateAfter (Session.run limits source) session)
  | runQuietly {session : Session} (limits : Limits) (source : Bytes) :
    Unappended session → Unappended (stateAfter (Session.runQuietly limits source) session)
  | evaluate {session : Session} (limits : Limits) (source : Bytes) :
    Unappended session → Unappended (stateAfter (Session.evaluate limits source) session)
  | reset {session : Session} : Unappended session → Unappended session.reset
  | exchange {session : Session} (streams : Streams) :
    Unappended session → Unappended { session with world := { session.world with streams } }
  | store {session : Session} (datum : Datum) :
    Unappended session → Unappended (stateAfter (Session.store datum) session)
  | make {session : Session} {elements : List Value}
    (made : ∀ element ∈ elements, element.Below session.lists) :
    Unappended session → Unappended { session with world :=
      { session.world with heap := (session.world.heap.allocate elements).2 } }
  | bind {session after : Session} {name : Name} {value : Value}
    (made : value.Below session.lists) (bound : session.define name value = .ok after) :
    Unappended session → Unappended after

theorem Unappended.idle (unappended : session.Unappended) : session.Idle := by
  induction unappended with
  | start streams => exact .start streams
  | run limits source _ idle => exact .run limits source idle
  | runQuietly limits source _ idle => exact .runQuietly limits source idle
  | evaluate limits source _ idle => exact .evaluate limits source idle
  | reset _ idle => exact .reset idle
  | exchange streams _ idle => exact .exchange streams idle
  | store datum _ idle => exact .store datum idle
  | make made _ idle => exact .make made idle
  | bind made bound _ idle => exact .bind made bound idle

/-- If the host never changes a list in place, every list holds older ones. -/
theorem Unappended.ordered (unappended : session.Unappended) : session.world.heap.Ordered := by
  induction unappended with
  | start streams =>
    intro handle value member
    rw [Heap.items_of_size_le (Nat.zero_le handle)] at member
    cases member
  | run limits source before ordered =>
    exact (before.idle.closed.since.run limits source).extended.ordered ordered
  | runQuietly limits source before ordered =>
    exact (before.idle.closed.since.runQuietly limits source).extended.ordered ordered
  | evaluate limits source before ordered =>
    exact (before.idle.closed.since.evaluate limits source).extended.ordered ordered
  | reset _ ordered => exact ordered
  | exchange streams _ ordered => exact ordered
  | store datum before ordered =>
    exact (before.idle.closed.since.store datum).extended.ordered ordered
  | make made _ ordered => exact (Heap.extends_allocate made).ordered ordered
  | bind made bound before ordered =>
    exact (before.idle.closed.bind made bound).extended.ordered ordered

end Session

/-- Programs cannot change a list or make one contain itself. In every session there can be, all
lists that can be come by were made. In every session like that, however a program or an expression
ends, each list that was there before holds what it did, also if it holds itself, and each new one
holds older lists only. So if the host never changes a list in place, then at no time does a list
reach itself through its elements, and comparing any two values and writing any value out come to
an end, however deep lists may be followed. -/
theorem programs_never_change_lists (session : Session) :
    (session.Reachable → session.Closed) ∧
    (session.Closed → ∀ limits fuel,
      (∀ program, session.world.heap.Extends
        (stateAfter (Run.program limits fuel program) session).world.heap) ∧
      ∀ expr, session.world.heap.Extends
        (stateAfter (Run.expression limits fuel expr) session).world.heap) ∧
    (session.Reached Session.Unappended →
      (∀ handle, ¬Relation.TransGen session.world.heap.Holds handle handle) ∧
      (∀ left right, ∃ answer, session.world.heap.equal? left right = some answer ∧
        ∀ depth > session.lists,
          session.world.heap.equalWithin? depth left right = some answer) ∧
      ∀ value, ∃ text, session.world.heap.inspect? value = some text ∧
        ∀ depth > session.lists, session.world.heap.inspectWithin? depth value = some text) := by
  refine ⟨Session.Reachable.closed, fun closed limits fuel => ⟨fun program => ?_, fun expr => ?_⟩,
    fun reached => ?_⟩
  · exact (stateAfter_of_keeps
      (Session.keeps_closedSince_program limits fuel program) closed.since).extended
  · exact (stateAfter_of_keeps
      (Session.keeps_closedSince_expression limits fuel expr) closed.since).extended
  · have ordered := (Session.Reached.closed (fun _ unappended => unappended.idle.closed)
      reached).2 fun _ unappended => unappended.ordered
    exact ⟨ordered.acyclic, ordered.equal, ordered.inspect⟩

/-- A program has put one list into another twice, and an expression appends it once more. That
makes a third list. If the host has put the second list into itself, it still holds itself after
that, and once only. -/
theorem push_makes_another_list :
    let session := stateAfter (Session.run Limits.standard (ascii "a = [1]\nb = [a, a]"))
      (Session.start (Streams.reliable []))
    let span : Span := ⟨0, 0, 1, 1⟩
    let pushed : Expr := .call span (ascii "push") [.name span (ascii "b"), .name span (ascii "a")]
    let after := stateAfter (Run.expression Limits.standard 9 pushed) session
    let turned : Session := { session with world :=
      { session.world with heap := session.world.heap.change 1 fun items => .list 1 :: items } }
    let afterTurned := stateAfter (Run.expression Limits.standard 9 pushed) turned
    session.Reached Session.Unappended ∧ session.lists = 2 ∧ after.lists = 3 ∧
    after.world.heap.items 1 = session.world.heap.items 1 ∧
    (∀ value ∈ after.world.heap.items 2, value.Below 2) ∧
    ¬Relation.TransGen session.world.heap.Holds 1 1 ∧
    (∃ text, session.world.heap.inspect? (.list 1) = some text) ∧
    turned.Reachable ∧ afterTurned.lists = 3 ∧
    afterTurned.world.heap.items 1 = [.list 1, .list 0, .list 0] ∧
    Relation.TransGen afterTurned.world.heap.Holds 1 1 := by
  intro session span pushed after turned afterTurned
  have unappended : session.Unappended := .run _ _ (.start _)
  have before : session.lists = 2 := by decide +kernel
  have held : session.world.heap.items 1 = [.list 0, .list 0] := by decide +kernel
  obtain ⟨-, grows, ordered⟩ := programs_never_change_lists session
  obtain ⟨acyclic, -, inspected⟩ := ordered (.idle unappended)
  obtain ⟨text, written, -⟩ := inspected (.list 1)
  have extended := (grows unappended.idle.closed Limits.standard 9).2 pushed
  have old : 1 < session.lists := by
    rw [before]
    decide
  have new : session.lists ≤ 2 := Nat.le_of_eq before
  have made : ∀ element ∈ Value.list 1 :: session.world.heap.items 1,
      element.Below session.lists := by
    rw [held, before]
    simp [Value.Below]
  have turnedReached : turned.Reachable := .idle (.change made unappended.idle)
  have turnedItems : turned.world.heap.items 1 = [.list 1, .list 0, .list 0] := by decide +kernel
  obtain ⟨closes, turnedGrows, -⟩ := programs_never_change_lists turned
  have turnedExtended := (turnedGrows (closes turnedReached) Limits.standard 9).2 pushed
  have turnedOld : 1 < turned.lists := by decide +kernel
  have kept := (turnedExtended.old 1 turnedOld).trans turnedItems
  refine ⟨.idle unappended, before, by decide +kernel, extended.old 1 old, extended.new 2 new,
    acyclic 1, ⟨text, written⟩, turnedReached, by decide +kernel, kept, .single ?_⟩
  show Value.list 1 ∈ afterTurned.world.heap.items 1
  rw [kept]
  decide

end Scriptling
