/-
This file proves that an expression depends only on the variables it can read:
those it mentions itself and those that the bodies of the registered functions
mention. A callee looks its names up through all frames of its callers down to
the top-level one, and a body can register further functions while it runs, but
their bodies are parts of it. So what is bound to any other name at the top level
cannot be noticed.

The values of the names that matter need only denote the same in both sessions.
The lists may have other numbers, and lists that are one in the first session may
be several in the second; a list may also hold itself, if the host has made it do so.
Nobody changes a list in place while an expression is evaluated, so none of that
can be noticed either.
-/

import Scriptling.Proofs.Session.Histories
import Scriptling.Proofs.Session.Lists
import Scriptling.Proofs.Session.Twins

namespace Scriptling

/-- Two sessions whose top-level frames agree on the names that are mentioned. -/
def Likeness.mentioning (limits : Limits) (first second : Heap) (mentions : Name → Prop) :
    Likeness where
  limits := limits
  pairing := .denoting first second
  move := id
  placed := placed_id limits
  mentions := mentions
  globals frame twin := ∀ name, mentions name →
    Option.Rel (Value.Alike (Pairing.denoting first second).Pairs) (frame.find? name)
      (twin.find? name)
  find? agree mentioned := agree _ mentioned

/-- No call is open, and all lists that can be come by were made, in whatever way. -/
structure Session.Resting (session : Session) : Prop where
  closed : session.Closed
  atTop : session.AtTop

theorem Session.Idle.resting {session : Session} (idle : session.Idle) : session.Resting :=
  ⟨idle.closed, idle.atTop⟩

/-- Sessions at rest are alike if they agree on what may be read. -/
theorem Session.alike_of_agree {first second : Session} (firstRests : first.Resting)
    (secondRests : second.Resting) (outside : first.SameOutside second) (limits : Limits)
    {mentions : Name → Prop}
    (mentioned : ∀ function ∈ first.functions.functions, ∀ name ∈ function.body.reads,
      mentions name)
    (agree : ∀ name, mentions name → Option.Rel (first.world.heap.Same second.world.heap)
      (first.global? name) (second.global? name)) :
    first.AlikeWith
      (Likeness.mentioning limits first.world.heap second.world.heap mentions).uncounted 0
      second where
  globals name mention := by
    have bound {session : Session} (closed : session.Closed) (value : Value)
        (found : session.global? name = some value) : value.Below session.lists := by
      obtain ⟨binding, inside, rfl⟩ := Option.map_eq_some_iff.mp found
      exact closed.frames session.globals (List.mem_append_right _ List.mem_cons_self) binding
        (List.mem_of_find?_eq_some inside)
    have both (found other : Option Value)
        (same : Option.Rel (first.world.heap.Same second.world.heap) found other)
        (below : ∀ value, found = some value → value.Below first.lists)
        (within : ∀ twin, other = some twin → twin.Below second.lists) :
        Option.Rel (Value.Alike (Pairing.denoting first.world.heap second.world.heap).Pairs)
          found other := by
      cases same with
      | none => exact .none
      | some same => exact .some (same.alike (below _ rfl) (within _ rfl))
    exact both _ _ (agree name mention) (bound firstRests.closed)
      (bound secondRests.closed)
  locals := by
    rw [firstRests.atTop.locals, secondRests.atTop.locals]
    exact .nil
  depth := firstRests.atTop.depth.trans secondRests.atTop.depth.symm
  functions := (Registry.moved_id first.functions).trans outside.functions
  mentioned := mentioned
  world := ⟨Heap.twins_denoting firstRests.closed.heap secondRests.closed.heap, outside.streams⟩
  steps := .inl rfl
  frames := by
    rw [firstRests.atTop.locals]
    rfl

/-- An expression depends only on the variables that it can read. In two sessions at rest with the
same functions and the same streams, let the variables that the expression or a registered function
mentions have values that denote the same, or be unbound in both. All others may differ. Then the
expression ends alike in both: its values denote the same, or the same cuts it short, the same has
been written and read, and the functions are the same again. -/
theorem expression_depends_on_its_variables {first second : Session} (firstRests : first.Resting)
    (secondRests : second.Resting) (outside : first.SameOutside second) (limits : Limits)
    {expr : Expr}
    (agree : ∀ name,
      (name ∈ expr.reads ∨
        ∃ function ∈ first.functions.functions, name ∈ function.body.reads) →
      Option.Rel (first.world.heap.Same second.world.heap) (first.global? name)
        (second.global? name)) :
    (∀ fuel, EndAlike (Run.expression limits fuel expr) (Run.expression limits fuel expr)
      first second
      (fun value twin after other =>
        after.world.heap.Same other.world.heap value twin ∧ after.SameOutside other)
      Session.SameOutside) ∧
    ∀ source, Expr.ofSource source = .ok expr →
      EndAlike (Session.evaluate limits source) (Session.evaluate limits source) first second
        (fun value twin after other =>
          after.world.heap.Same other.world.heap value twin ∧ after.SameOutside other)
        Session.SameOutside := by
  let mentions (name : Name) : Prop := name ∈ expr.reads ∨
    ∃ function ∈ first.functions.functions, name ∈ function.body.reads
  let likeness := Likeness.mentioning limits first.world.heap second.world.heap mentions
  have alike : first.AlikeWith likeness.uncounted 0 second :=
    Session.alike_of_agree firstRests secondRests outside limits
      (fun function member name inside => .inr ⟨function, member, inside⟩) agree
  have renews (fuel : Nat) : likeness.uncounted.Renews likeness.Values
      (Run.expression limits fuel expr) (Run.expression limits fuel expr) :=
    Run.renews_expression likeness rfl fuel fun name inside => .inl inside
  have seen {Fault : Type} {work : EStateM Fault Session Value}
      (renews : likeness.uncounted.Renews likeness.Values work work) :
      EndAlike work work first second
        (fun value twin after other =>
          after.world.heap.Same other.world.heap value twin ∧ after.SameOutside other)
        Session.SameOutside :=
    (renews first second alike).weaken
      (fun _ _ _ _ held => ⟨⟨_, held.2.world.heap.matched, held.1⟩, held.2.sameOutside rfl⟩)
      fun _ _ cut => cut.sameOutside rfl
  refine ⟨fun fuel => seen (renews fuel), fun source spelled => ?_⟩
  unfold Session.evaluate
  rw [spelled]
  exact seen (renews_operation (renews ampleFuel))

/-- A function reads one list of its caller. The host puts another one into itself, which changes
nothing for the function. -/
theorem unread_list_may_change :
    let session := stateAfter
      (Session.run Limits.standard (ascii "def f(a): return push(x, a)\nx = [1]\ny = [2]"))
      (Session.start (Streams.reliable []))
    let other : Session := { session with world :=
      { session.world with heap := session.world.heap.change 1 fun items => .list 1 :: items } }
    let span : Span := ⟨0, 0, 1, 1⟩
    let expr : Expr := .call span (ascii "f") [.number span 2]
    session.Resting ∧ other.Resting ∧ session.SameOutside other ∧
    other.world.heap.items 1 = [.list 1, .int 2] ∧
    EndAlike (Run.expression Limits.standard 9 expr) (Run.expression Limits.standard 9 expr)
      session other
      (fun value twin after last =>
        after.world.heap.Same last.world.heap value twin ∧ after.SameOutside last)
      Session.SameOutside ∧
    (stateAfter (Run.expression Limits.standard 9 expr) session).world.heap.items 2 =
      [.int 1, .int 2] := by
  intro session other span expr
  have idle : session.Idle := .run _ _ (.start _)
  have made : ∀ element ∈ Value.list 1 :: session.world.heap.items 1,
      element.Below session.lists := by
    rw [show session.world.heap.items 1 = [.int 2] by decide +kernel,
      show session.lists = 2 by decide +kernel]
    simp [Value.Below]
  have rests : session.Resting := idle.resting
  have otherRests : other.Resting := (Session.Idle.change made idle).resting
  have outside : session.SameOutside other := ⟨rfl, rfl⟩
  have read : session.functions.functions.flatMap (fun function => function.body.reads) =
      [ascii "x", ascii "a"] := by decide +kernel
  have list : session.global? (ascii "x") = some (.list 0) ∧
      other.global? (ascii "x") = some (.list 0) := by decide +kernel
  have unbound : session.global? (ascii "a") = none ∧ other.global? (ascii "a") = none := by
    decide +kernel
  have items : session.world.heap.items 0 = [.int 1] ∧ other.world.heap.items 0 = [.int 1] := by
    decide +kernel
  have denotes : session.world.heap.Same other.world.heap (.list 0) (.list 0) := by
    refine ⟨fun one two => one = 0 ∧ two = 0, ?_, .list ⟨rfl, rfl⟩⟩
    rintro _ _ ⟨rfl, rfl⟩
    rw [items.1, items.2]
    exact .cons (.int 1) .nil
  have agree (name : Name) (mentioned : name ∈ expr.reads ∨
      ∃ function ∈ session.functions.functions, name ∈ function.body.reads) :
      Option.Rel (session.world.heap.Same other.world.heap) (session.global? name)
        (other.global? name) := by
    have member : name ∈ [ascii "x", ascii "a"] := by
      rcases mentioned with inside | ⟨function, member, inside⟩
      · cases inside
      · rw [← read]
        exact List.mem_flatMap.mpr ⟨function, member, inside⟩
    rcases List.mem_cons.mp member with rfl | rest
    · rw [list.1, list.2]
      exact .some denotes
    · rw [List.mem_singleton.mp rest, unbound.1, unbound.2]
      exact .none
  obtain ⟨alike, -⟩ := expression_depends_on_its_variables rests otherRests outside
    Limits.standard agree
  exact ⟨rests, otherRests, outside, by decide +kernel, alike 9, by decide +kernel⟩

end Scriptling
