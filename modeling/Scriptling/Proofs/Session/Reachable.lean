/-
This file says which sessions there can be. A session is idle between two
operations of its host, and whatever the host does next leaves it idle again. In
between it is at work, and then it is one of those that are seen at the nodes
which a program or an expression comes to.

Besides running programs a host may make lists of any values that it has come by,
bind them to names, and change the elements of a list as it likes. So a list of a
session may hold itself, although no program can bring that about.

Functions are registered by nothing but programs that have been read. So an
invariant of sessions that holds of a new one, if it asks of functions only what
all functions of readable programs have, holds of every session there can be.
-/

import Scriptling.Proofs.Heap.Order
import Scriptling.Proofs.Session.Invariant

namespace Scriptling

/-- A session between two operations of its host. Besides using a session the host may exchange
its streams, and it may make, bind and change lists. -/
inductive Session.Idle : Session → Prop
  | start (streams : Streams) : Idle (Session.start streams)
  | run {session : Session} (limits : Limits) (source : Bytes) :
    Idle session → Idle (stateAfter (Session.run limits source) session)
  | runQuietly {session : Session} (limits : Limits) (source : Bytes) :
    Idle session → Idle (stateAfter (Session.runQuietly limits source) session)
  | evaluate {session : Session} (limits : Limits) (source : Bytes) :
    Idle session → Idle (stateAfter (Session.evaluate limits source) session)
  | reset {session : Session} : Idle session → Idle session.reset
  | exchange {session : Session} (streams : Streams) :
    Idle session → Idle { session with world := { session.world with streams } }
  | store {session : Session} (datum : Datum) :
    Idle session → Idle (stateAfter (Session.store datum) session)
  | append {session : Session} (name : Name) (datum : Datum) :
    Idle session → Idle (stateAfter (Session.append name datum) session)
  | make {session : Session} {elements : List Value}
    (made : ∀ element ∈ elements, element.Below session.world.heap.size) :
    Idle session → Idle { session with world :=
      { session.world with heap := (session.world.heap.allocate elements).2 } }
  | bind {session after : Session} {name : Name} {value : Value}
    (made : value.Below session.world.heap.size) (bound : session.define name value = .ok after) :
    Idle session → Idle after
  | change {session : Session} {handle : Nat} {edit : List Value → List Value}
    (made : ∀ element ∈ edit (session.world.heap.items handle),
      element.Below session.world.heap.size) :
    Idle session → Idle { session with world :=
      { session.world with heap := session.world.heap.change handle edit } }

/-- A session that is idle, or at some node on the way of a program or an expression that has been
read, where it is said which sessions are idle. -/
inductive Session.Reached (idle : Session → Prop) : Session → Prop
  | idle {session : Session} : idle session → Reached idle session
  | inProgram {session : Session} {source : Bytes} {program : Program} (limits : Limits)
    (fuel : Nat) {visit : Visit} : idle session → Program.ofSource source = .ok program →
      visit ∈ Watched.visits (Machine.executeAll limits fuel program.items)
        (stateAfter (Run.prepare program) session) → Reached idle visit.session
  | inExpression {session : Session} {source : Bytes} {expr : Expr} (limits : Limits)
    (fuel : Nat) {visit : Visit} : idle session → Expr.ofSource source = .ok expr →
      visit ∈ Watched.visits (Machine.evaluate limits fuel expr) { session with steps := 0 } →
        Reached idle visit.session

/-- Any session there can be. -/
abbrev Session.Reachable : Session → Prop :=
  Session.Reached Session.Idle

theorem keeps_operation {invariant : Session → Prop} {Result : Type} {run : Run Result}
    (keeps : Keeps invariant (fun _ => True) run) :
    Keeps invariant (fun _ => True) run.operation := by
  intro session holds
  have ends := keeps session holds
  unfold Run.operation Ends
  unfold Ends at ends
  dsimp only
  cases ended : run session with
  | ok result after =>
    rw [ended] at ends
    exact ends
  | error abort after =>
    rw [ended] at ends
    exact ends

theorem ActionInvariant.keeps_readOrReport {known : Function → Prop}
    {invariant : Session → Prop} (kept : ActionInvariant known invariant) {Tree Result : Type}
    (read : Except (List Diagnostic) Tree) {run : Tree → Run Result}
    (keeps : ∀ tree, read = .ok tree → Keeps invariant (fun _ => True) (run tree)) :
    Keeps invariant (fun _ => True) (Session.readOrReport read run) := by
  cases read with
  | ok tree => exact keeps_operation (keeps tree rfl)
  | error diagnostics =>
    exact keeps_then (keeps_operation (kept.acts_announceAll diagnostics).keeps) fun _ =>
      keeps_throw

theorem keeps_runQuietly {invariant : Session → Prop} {limits : Limits} {source : Bytes}
    (keeps : ∀ program, Program.ofSource source = .ok program →
      Keeps invariant (fun _ => True) (Run.program limits ampleFuel program)) :
    Keeps invariant (fun _ => True) (Session.runQuietly limits source) := by
  unfold Session.runQuietly
  cases read : Program.ofSource source with
  | ok program => exact keeps_operation (keeps program read)
  | error diagnostics => exact keeps_throw

namespace SessionInvariant

variable {known : Function → Prop} {invariant : Session → Prop}

theorem keeps_store (kept : SessionInvariant known invariant) (datum : Datum) :
    Keeps invariant (fun _ => True) (Session.store datum) :=
  fun _ holds => ⟨kept.world _ holds, trivial⟩

theorem keeps_append (kept : SessionInvariant known invariant) (name : Name) (datum : Datum) :
    Keeps invariant (fun _ => True) (Session.append name datum) := by
  intro session holds
  unfold Session.append
  rw [ends_bind, ends_get]
  cases session.global name with
  | list handle =>
    have rest : Keeps invariant (fun _ => True) (do
        let element ← Session.store datum
        modify fun session =>
          let heap := session.world.heap.append handle element
          { session with world := { session.world with heap } }
        return true : Operation Bool) :=
      keeps_then (kept.keeps_store datum) fun _ =>
        keeps_then (keeps_modify fun _ => kept.world _) fun _ => keeps_pure trivial
    exact rest session holds
  | none => exact ⟨holds, trivial⟩
  | int number => exact ⟨holds, trivial⟩
  | str text => exact ⟨holds, trivial⟩

section

variable (kept : SessionInvariant known invariant)
  (closed : ∀ function, known function → function.body.EachFunction known)
  (readable : ∀ source program, Program.ofSource source = .ok program →
    ∀ statement ∈ program.items, statement.EachFunction known)
  (start : ∀ streams, invariant (Session.start streams))
  (reset : ∀ session, invariant session → invariant session.reset)

include kept closed readable start reset

theorem of_idle {session : Session} (idle : session.Idle) : invariant session := by
  have programs (limits : Limits) (source : Bytes) (program : Program)
      (read : Program.ofSource source = .ok program) :=
    kept.keeps_program closed limits ampleFuel program (readable source program read)
  induction idle with
  | start streams => exact start streams
  | run limits source _ holds =>
    exact stateAfter_of_keeps (kept.keeps_readOrReport _ (programs limits source)) holds
  | runQuietly limits source _ holds =>
    exact stateAfter_of_keeps (keeps_runQuietly (programs limits source)) holds
  | evaluate limits source _ holds =>
    exact stateAfter_of_keeps (kept.keeps_readOrReport _ fun expr _ =>
      kept.keeps_expression closed limits ampleFuel expr) holds
  | reset _ holds => exact reset _ holds
  | exchange streams _ holds => exact kept.world _ holds
  | store datum _ holds => exact stateAfter_of_keeps (kept.keeps_store datum) holds
  | append name datum _ holds => exact stateAfter_of_keeps (kept.keeps_append name datum) holds
  | make _ _ holds => exact kept.heap _ holds
  | bind _ bound _ holds => exact kept.define bound holds
  | change _ _ holds => exact kept.heap _ holds

theorem of_reachable {session : Session} (reached : session.Reachable) : invariant session := by
  cases reached with
  | idle idle => exact kept.of_idle closed readable start reset idle
  | inProgram limits fuel idle read member =>
    have fit := readable _ _ read
    have before := stateAfter_of_keeps (kept.keeps_prepare kept.steps _ (allKnown_of_fit fit))
      (kept.of_idle closed readable start reset idle)
    exact (stateAfter_of_keeps (kept.keeps_executeAll closed limits fuel _ fit)
      (upheld_start before)).2 _ member
  | inExpression limits fuel idle read member =>
    have before := kept.steps 0 (kept.of_idle closed readable start reset idle)
    exact (stateAfter_of_keeps (kept.keeps_evaluate closed limits fuel _)
      (upheld_start before)).2 _ member

end

end SessionInvariant

/-- In every session there can be, all functions have been read. -/
theorem Session.Reachable.functionsReadable {session : Session} (reached : session.Reachable) :
    session.EachFunction Function.Readable :=
  (sessionInvariant_eachFunction Function.Readable).of_reachable
    (fun _ readable => readable.body.eachFunction)
    (fun _ _ read _ member => (Stmt.readable_of_item read member).eachFunction)
    (fun _ _ member => absurd member List.not_mem_nil)
    (fun _ _ _ member => absurd member List.not_mem_nil) reached

end Scriptling
