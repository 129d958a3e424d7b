/-
This file proves that it does not matter where a program defines its functions,
as long as they have names of their own. All of them are registered before the
first statement is executed. When a definition is executed, its function is
registered once more, and that changes nothing: until then nobody has registered
another function under that name, for all that is ever executed are statements of
the program and bodies of registered functions, and these define no function of
that name inside.

What is left are the other statements, in their order. So two programs do the
same if they have the same definitions and the same other statements, however
these are interleaved. They need not even stand at the same places of a source.
-/

import Mathlib
import Scriptling.Proofs.Session.Histories
import Scriptling.Proofs.Session.Twins

namespace Scriptling

/-! ### Sessions that differ in nothing but their history -/

/-- Two sessions are the same but for their logs, their counts of statements and the places of their
functions. -/
structure Session.SameBut (move : Span → Span) (first second : Session) : Prop where
  globals : first.globals = second.globals
  locals : first.locals = second.locals
  depth : first.depth = second.depth
  functions : first.functions.moved move = second.functions.moved move
  world : first.world = second.world

theorem Pairing.pairs_shifted_zero : (shifted 0).Pairs = Eq := by
  funext one two
  rw [pairs_shifted, Nat.zero_add]

theorem Value.alike_eq : Value.Alike Eq = Eq := by
  funext value twin
  refine propext ⟨fun alike => ?_, fun same => ?_⟩
  · cases alike with
    | none => rfl
    | int number => rfl
    | str text => rfl
    | list same => rw [same]
  · subst same
    cases value with
    | none => exact .none
    | int number => exact .int number
    | str text => exact .str text
    | list handle => exact .list rfl

theorem Frame.alike_eq : Frame.Alike Eq = Eq := by
  have bindings : (fun binding twin : Name × Value =>
      binding.1 = twin.1 ∧ binding.2.Alike Eq twin.2) = Eq := by
    funext binding twin
    rw [Value.alike_eq, ← Prod.ext_iff]
  funext first second
  obtain ⟨first⟩ := first
  obtain ⟨second⟩ := second
  unfold Frame.Alike
  rw [bindings, List.forall₂_eq_eq_eq, Frame.mk.injEq]

theorem Heap.twins_shifted_zero {first second : Heap} :
    Heap.Twins (.shifted 0) first second ↔ first = second := by
  constructor
  · rintro ⟨⟨made, size, same⟩, matched⟩
    rw [Pairing.pairs_shifted_zero] at matched
    obtain ⟨cells⟩ := first
    obtain ⟨others⟩ := second
    have sizes : cells.size = others.size := size.trans same.symm
    rw [Heap.mk.injEq]
    refine Array.ext sizes fun handle inside within => ?_
    have items := matched handle handle rfl
    rw [Value.alike_eq, List.forall₂_eq_eq_eq] at items
    simpa [Heap.items, inside, within] using items
  · rintro rfl
    refine ⟨⟨first.size, (Nat.zero_add _).symm, (Nat.zero_add _).symm⟩, ?_⟩
    rw [Pairing.pairs_shifted_zero]
    rintro handle _ rfl
    rw [Value.alike_eq, List.forall₂_eq_eq_eq]

/-- Two sessions without a limit on statements are alike but for where their functions were read. -/
abbrev Likeness.moving {limits : Limits} (unlimited : limits.steps = none)
    (move : Span → Span) : Likeness :=
  .shifted limits 0 move (.inl unlimited)

/-- Two runs end alike, in sessions that are alike. -/
abbrev Likeness.EndsAlike (likeness : Likeness) (first second : Run Unit)
    (session other : Session) : Prop :=
  EndAlike first second session other
    (fun result twin final last => result = twin ∧ final.Alike likeness last)
    (Session.Alike likeness)

namespace Session

variable {limits : Limits} {move : Span → Span} (unlimited : limits.steps = none)

theorem sameBut_refl (session : Session) : session.SameBut move session :=
  ⟨rfl, rfl, rfl, rfl, rfl⟩

/-- What differs in nothing but its history is alike once its functions are moved. -/
theorem SameBut.alike {first second : Session} (same : first.SameBut move second) :
    first.Alike (.moving unlimited move)
      { second with functions := second.functions.moved move } where
  globals := by
    show first.globals.Alike (Pairing.shifted 0).Pairs second.globals
    rw [Pairing.pairs_shifted_zero, Frame.alike_eq]
    exact same.globals
  locals := by
    show List.Forall₂ (Frame.Alike (Pairing.shifted 0).Pairs) first.locals second.locals
    rw [Pairing.pairs_shifted_zero, Frame.alike_eq, List.forall₂_eq_eq_eq]
    exact same.locals
  depth := same.depth
  functions := same.functions
  mentioned _ _ _ _ := trivial
  world := by
    rw [same.world]
    exact ⟨Heap.twins_shifted_zero.mpr rfl, rfl⟩
  steps := .inl unlimited

/-- Two sessions that are like a third one differ in nothing but their history. -/
theorem Alike.sameBut {first second third : Session}
    (one : first.Alike (.moving unlimited move) third)
    (two : second.Alike (.moving unlimited move) third) :
    first.SameBut move second := by
  have frame {frame twin : Frame} (alike : frame.Alike (Pairing.shifted 0).Pairs twin) :
      frame = twin := by
    rwa [Pairing.pairs_shifted_zero, Frame.alike_eq] at alike
  have frames {frames twins : List Frame}
      (alike : List.Forall₂ (Frame.Alike (Pairing.shifted 0).Pairs) frames twins) :
      frames = twins := by
    rwa [Pairing.pairs_shifted_zero, Frame.alike_eq, List.forall₂_eq_eq_eq] at alike
  have world {world other : World} (alike : world.Alike (.shifted 0) other) : world = other := by
    obtain ⟨heap, streams⟩ := alike
    obtain ⟨lists, _⟩ := world
    obtain ⟨others, _⟩ := other
    rw [World.mk.injEq]
    exact ⟨Heap.twins_shifted_zero.mp heap, streams⟩
  exact ⟨(frame one.globals).trans (frame two.globals).symm,
    (frames one.locals).trans (frames two.locals).symm, one.depth.trans two.depth.symm,
    one.functions.trans two.functions.symm, (world one.world).trans (world two.world).symm⟩

end Session

/-! ### Statements that define no function of certain names -/

/-- A statement defines no function that has one of some names, however deep inside. -/
def Stmt.Spares (names : List Name) (statement : Stmt) : Prop :=
  statement.EachFunction fun inner => inner.name ∉ names

mutual

theorem Stmt.eachFunction_moved (move : Span → Span) {property : Function → Prop} :
    ∀ statement : Stmt, (statement.moved move).EachFunction property ↔
      statement.EachFunction fun function => property (function.moved move)
  | .define _ _ _ body => and_congr_right fun _ => body.eachFunction_moved move
  | .forLoop _ _ _ body | .whileLoop _ _ body => body.eachFunction_moved move
  | .branch _ _ body others =>
    and_congr (body.eachFunction_moved move) (others.eachFunction_moved move)
  | .expr _ | .returns .. | .assign .. | .pass _ | .breaks _ | .continues _ | .imports .. => Iff.rfl

theorem Branches.eachFunction_moved (move : Span → Span) {property : Function → Prop} :
    ∀ branches : Branches, (branches.moved move).EachFunction property ↔
      branches.EachFunction fun function => property (function.moved move)
  | .arm _ body others =>
    and_congr (body.eachFunction_moved move) (others.eachFunction_moved move)
  | .otherwise body => body.eachFunction_moved move
  | .done => Iff.rfl

end

theorem Stmt.spares_moved {names : List Name} (move : Span → Span) (statement : Stmt) :
    (statement.moved move).Spares names ↔ statement.Spares names :=
  statement.eachFunction_moved move

/-- The statements of a program besides the definitions at its top level, in order. -/
def Program.others (program : Program) : List Stmt :=
  program.items.filter fun item => item.function?.isNone

/-- The functions that a program defines at its top level have names of their own: no other of these
functions has the same name, and nothing else that may be executed defines one of that name. -/
structure Program.Hoistable (program : Program) (session : Session) : Prop where
  distinct : (program.functions.map Function.name).Nodup
  bodies : ∀ function ∈ program.functions,
    function.body.Spares (program.functions.map Function.name)
  others : ∀ statement ∈ program.others, statement.Spares (program.functions.map Function.name)
  registered : ∀ function ∈ session.functions.functions,
    function.body.Spares (program.functions.map Function.name)

/-! ### What may be registered on the way -/

section

variable (functions : List Function)

/-- A function is one of those, or has none of their names, and its body defines none that has. -/
def Function.Settled (function : Function) : Prop :=
  (function.name ∈ functions.map Function.name → function ∈ functions) ∧
    function.body.Spares (functions.map Function.name)

/-- All of some functions are registered, and no others under their names. -/
structure Session.Hoisted (session : Session) : Prop where
  settled : session.EachFunction (Function.Settled functions)
  registered : ∀ function ∈ functions, function.name ∈ session.functions.names

variable {functions}

theorem Stmt.Spares.settled {statement : Stmt}
    (spares : statement.Spares (functions.map Function.name)) :
    statement.EachFunction (Function.Settled functions) := by
  refine statement.eachFunction_iff.mpr fun inner inside => ?_
  obtain ⟨fresh, body⟩ := spares.of_part inside
  exact ⟨fun named => absurd named fresh, body⟩

theorem Registry.mem_names_register {registry : Registry} {name : Name}
    (old : name ∈ registry.names) (function : Function) :
    name ∈ (registry.register function).names := by
  rw [Registry.names_register]
  split
  next => exact old
  next => exact List.mem_append_left _ old

theorem Registry.mem_register_self (registry : Registry) (function : Function) :
    function ∈ (registry.register function).functions :=
  Entries.mem_insert_self

/-- No other function is left under the name of a function that has been registered. -/
theorem Registry.name_ne_of_mem_register {registry : Registry} {function other : Function}
    (member : other ∈ (registry.register function).functions) (apart : other ≠ function) :
    other.name ≠ function.name :=
  Entries.key_ne_of_mem_insert member apart

/-- To register a function again changes nothing. -/
theorem Registry.register_eq_self {registry : Registry} {function : Function}
    (known : function.name ∈ registry.names)
    (only : ∀ other ∈ registry.functions, other.name = function.name → other = function) :
    registry.register function = registry :=
  congrArg Registry.mk (Entries.insert_eq_self known only)

theorem sessionInvariant_hoisted :
    SessionInvariant (Function.Settled functions) (Session.Hoisted functions) where
  streams _ hoisted := ⟨hoisted.settled, hoisted.registered⟩
  note _ hoisted := ⟨hoisted.settled, hoisted.registered⟩
  register isSettled hoisted :=
    ⟨(sessionInvariant_eachFunction _).register isSettled hoisted.settled,
      fun function member => Registry.mem_names_register (hoisted.registered function member) _⟩
  lookup found hoisted := hoisted.settled _ (List.mem_of_find?_eq_some found)
  heap _ hoisted := ⟨hoisted.settled, hoisted.registered⟩
  enter hoisted := ⟨hoisted.settled, hoisted.registered⟩
  deepen hoisted := ⟨hoisted.settled, hoisted.registered⟩
  leave hoisted := ⟨hoisted.settled, hoisted.registered⟩
  define defined hoisted := by
    refine ⟨(sessionInvariant_eachFunction _).define defined hoisted.settled, ?_⟩
    rw [(Session.eq_of_define defined).1]
    exact hoisted.registered
  steps _ hoisted := ⟨hoisted.settled, hoisted.registered⟩
  atTop hoisted := ⟨hoisted.settled, hoisted.registered⟩

theorem Session.Hoisted.register_eq_self {session : Session} (hoisted : session.Hoisted functions)
    (distinct : (functions.map Function.name).Nodup) {function : Function}
    (member : function ∈ functions) : session.functions.register function = session.functions := by
  refine Registry.register_eq_self (hoisted.registered function member) fun other old same => ?_
  have named : other.name ∈ functions.map Function.name := same ▸ List.mem_map_of_mem member
  exact List.inj_on_of_nodup_map distinct ((hoisted.settled other old).1 named) member same

/-! ### Before the first statement -/

theorem Registry.mem_names_foldl {registry : Registry} {name : Name}
    (known : name ∈ registry.names ∨ name ∈ functions.map Function.name) :
    name ∈ (functions.foldl Registry.register registry).names := by
  induction functions generalizing registry with
  | nil => exact known.resolve_right List.not_mem_nil
  | cons function rest hypothesis =>
    refine hypothesis ?_
    rcases known with old | new
    · exact .inl (Registry.mem_names_register old function)
    · rcases List.mem_cons.mp new with rfl | later
      · exact .inl (List.mem_map_of_mem (Registry.mem_register_self registry function))
      · exact .inr later

/-- Once all functions are registered, no other function is left under one of their names. -/
theorem Registry.settled_foldl {rest : List Function} {registry : Registry}
    (inner : ∀ function ∈ rest, function.Settled functions)
    (outer : ∀ function ∈ registry.functions,
      function.Settled functions ∨
        function.name ∈ rest.map Function.name ∧
          function.body.Spares (functions.map Function.name)) :
    ∀ function ∈ (rest.foldl Registry.register registry).functions,
      function.Settled functions := by
  induction rest generalizing registry with
  | nil => exact fun function member => (outer function member).resolve_right fun both =>
      List.not_mem_nil both.1
  | cons function rest hypothesis =>
    obtain ⟨head, tail⟩ := List.forall_mem_cons.mp inner
    refine hypothesis tail fun other member => ?_
    by_cases same : other = function
    · exact .inl (same ▸ head)
    · have old := (Registry.mem_register member).resolve_left same
      refine (outer other old).imp_right fun both => ⟨?_, both.2⟩
      exact (List.mem_cons.mp both.1).resolve_left
        (Registry.name_ne_of_mem_register member same)

end

theorem Registry.foldl_moved (move : Span → Span) (functions : List Function)
    (registry : Registry) :
    (functions.foldl Registry.register registry).moved move =
      (functions.map (Function.moved move)).foldl Registry.register (registry.moved move) := by
  induction functions generalizing registry with
  | nil => rfl
  | cons function rest hypothesis =>
    rw [List.foldl_cons, hypothesis, Registry.register_moved, List.map_cons, List.foldl_cons]

/-- Programs that define the same functions prepare a session in the same way. -/
theorem Run.sameBut_prepare {first second : Program} {move : Span → Span}
    (functions : first.functions.map (Function.moved move) =
      second.functions.map (Function.moved move)) (session : Session) :
    (stateAfter (prepare first) session).SameBut move (stateAfter (prepare second) session) := by
  obtain ⟨log, -, here⟩ := stateAfter_prepare first session
  obtain ⟨other, -, there⟩ := stateAfter_prepare second session
  rw [here, there]
  refine ⟨rfl, rfl, rfl, ?_, rfl⟩
  dsimp only
  rw [Registry.foldl_moved, Registry.foldl_moved, functions]

namespace Program.Hoistable

variable {program : Program} {session : Session} (hoistable : program.Hoistable session)

include hoistable

theorem settled {function : Function} (member : function ∈ program.functions) :
    function.Settled program.functions :=
  ⟨fun _ => member, hoistable.bodies function member⟩

theorem hoisted_prepare :
    (stateAfter (Run.prepare program) session).Hoisted program.functions := by
  obtain ⟨log, -, same⟩ := Run.stateAfter_prepare program session
  rw [same]
  refine ⟨Registry.settled_foldl (fun _ => hoistable.settled) fun function member => ?_,
    fun function member => Registry.mem_names_foldl (.inr (List.mem_map_of_mem member))⟩
  have spares := hoistable.registered function member
  by_cases named : function.name ∈ program.functions.map Function.name
  · exact .inr ⟨named, spares⟩
  · exact .inl ⟨fun among => absurd among named, spares⟩

/-- Whatever a program executes registers its own functions, or functions of other names. -/
theorem item_settled {item : Stmt} (member : item ∈ program.items) :
    item.EachFunction (Function.Settled program.functions) := by
  cases defines : item.function? with
  | none =>
    have other : item ∈ program.others := List.mem_filter.mpr ⟨member, by rw [defines]; rfl⟩
    exact (hoistable.others item other).settled
  | some function =>
    have own := hoistable.settled (List.mem_filterMap.mpr ⟨item, member, defines⟩)
    cases item <;> cases defines
    exact ⟨own, own.2.settled⟩

/-- It does not matter where the definitions stand. -/
theorem of_moved {other : Program} {move : Span → Span}
    (functions : program.functions.map (Function.moved move) =
      other.functions.map (Function.moved move))
    (others : program.others.map (Stmt.moved move) = other.others.map (Stmt.moved move)) :
    other.Hoistable session := by
  have names : program.functions.map Function.name = other.functions.map Function.name := by
    have named : Function.name ∘ Function.moved move = Function.name := rfl
    have same := congrArg (List.map Function.name) functions
    rwa [List.map_map, List.map_map, named] at same
  obtain ⟨distinct, bodies, statements, registered⟩ := hoistable
  rw [names] at distinct bodies statements registered
  refine ⟨distinct, fun function member => ?_, fun statement member => ?_, registered⟩
  · have inside : function.moved move ∈ program.functions.map (Function.moved move) := by
      rw [functions]
      exact List.mem_map_of_mem member
    obtain ⟨twin, among, same⟩ := List.mem_map.mp inside
    have body : twin.body.moved move = function.body.moved move := congrArg Function.body same
    rw [← Stmt.spares_moved move, ← body, Stmt.spares_moved move]
    exact bodies twin among
  · have inside : statement.moved move ∈ program.others.map (Stmt.moved move) := by
      rw [others]
      exact List.mem_map_of_mem member
    obtain ⟨twin, among, same⟩ := List.mem_map.mp inside
    rw [← Stmt.spares_moved move, ← same, Stmt.spares_moved move]
    exact statements twin among

end Program.Hoistable

/-! ### Executing definitions -/

namespace Run

variable {limits : Limits} (unlimited : limits.steps = none) {functions : List Function}

include unlimited

/-- A definition whose function is registered already changes nothing but the history. -/
theorem execute_definition (fuel : Nat) {function : Function} {session : Session}
    (registered : session.functions.register function = session.functions) :
    ∃ log steps, execute limits (fuel + 1) function.definition session =
      .ok .done { session with log, steps } := by
  have left : ∀ most ∈ limits.steps, session.steps < most := by
    rw [unlimited]
    exact fun _ none => nomatch none
  have ticked : tick limits function.definition.span session =
      .ok () { session with steps := session.steps + 1 } := tick_eq_ok left
  obtain ⟨log, done⟩ := register_eq_ok function { session with steps := session.steps + 1 }
  rw [registered] at done
  refine ⟨log, session.steps + 1, ?_⟩
  unfold execute Function.definition
  simp only [Machine.execute]
  exact (bind_of_ok ticked).trans (bind_of_ok done)

/-- Where all functions are registered, executing some statements is executing those that are no
definitions, wherever these stand. -/
theorem endsAlike_others {move : Span → Span} (fuel : Nat)
    (distinct : (functions.map Function.name).Nodup) {items : List Stmt}
    (defined : ∀ item ∈ items, ∀ function ∈ item.function?, function ∈ functions)
    (settled : ∀ item ∈ items, item.EachFunction (Function.Settled functions))
    {first second : Session} (hoisted : first.Hoisted functions)
    (alike : first.Alike (.moving unlimited move) second) :
    (Likeness.moving unlimited move).EndsAlike (executeAll limits (fuel + 1) items)
      (executeAll limits (fuel + 1)
        ((items.filter fun item => item.function?.isNone).map (Stmt.moved move)))
      first second := by
  induction items generalizing first second with
  | nil => exact ⟨rfl, alike⟩
  | cons item rest hypothesis =>
    obtain ⟨own, laterDefined⟩ := List.forall_mem_cons.mp defined
    obtain ⟨head, laterSettled⟩ := List.forall_mem_cons.mp settled
    cases defines : item.function? with
    | none =>
      rw [List.filter_cons_of_pos (by rw [defines]; rfl), List.map_cons]
      let likeness := Likeness.moving unlimited move
      have ended := (Machine.relates_evaluate_execute likeness (fuel + 1)).2 first.locals.length
        (Likeness.binds_shifted limits 0 move _ _) item (fun _ _ => trivial) first second
        ⟨alike, rfl⟩
      have keeps := sessionInvariant_hoisted.keeps_execute (fun _ known => known.2.settled) limits
        (fuel + 1) head
      refine endAlike_bind ((ended.withEnds (keeps first hoisted)).weaken ?_ fun _ _ cut => cut.1)
      rintro flow twin final last ⟨⟨flows, still⟩, now, -⟩
      cases flows with
      | done => exact hypothesis laterDefined laterSettled now still.toAlike
      | returns _ => exact ⟨rfl, still.toAlike⟩
      | breaks => exact ⟨rfl, still.toAlike⟩
      | continues => exact ⟨rfl, still.toAlike⟩
    | some function =>
      rw [List.filter_cons_of_neg (by rw [defines]; exact Bool.false_ne_true)]
      have definition : item = function.definition := by
        cases item <;> cases defines
        rfl
      obtain ⟨log, steps, executed⟩ := execute_definition unlimited fuel
        (hoisted.register_eq_self distinct (own function defines))
      rw [← definition] at executed
      refine (endAlike_congr (bind_of_ok executed) rfl).mpr ?_
      exact hypothesis laterDefined laterSettled ⟨hoisted.settled, hoisted.registered⟩
        ⟨alike.globals, alike.locals, alike.depth, alike.functions, alike.mentioned, alike.world,
          .inl unlimited⟩

/-- Without fuel nothing is executed, and it only matters whether there is anything. -/
theorem endsAlike_outOfFuel {move : Span → Span} {items others : List Stmt}
    (same : items = [] ↔ others = []) {first second : Session}
    (alike : first.Alike (.moving unlimited move) second) :
    (Likeness.moving unlimited move).EndsAlike (executeAll limits 0 items)
      (executeAll limits 0 others) first second := by
  cases items with
  | nil =>
    rw [same.mp rfl]
    exact ⟨rfl, alike⟩
  | cons item rest =>
    cases others with
    | nil => exact absurd (same.mpr rfl) (List.cons_ne_nil item rest)
    | cons other more => exact ⟨rfl, alike⟩

end Run

theorem Program.length_items (program : Program) :
    program.items.length = program.functions.length + program.others.length := by
  unfold Program.functions Program.others
  induction program.items with
  | nil => rfl
  | cons item rest hypothesis =>
    cases defines : item.function? with
    | none => simp [defines, hypothesis, Nat.add_assoc]
    | some function => simp [defines, hypothesis, Nat.add_right_comm]

namespace Program.Hoistable

variable {first second : Program} {session : Session} (hoistable : first.Hoistable session)
  {limits : Limits} (unlimited : limits.steps = none) {move : Span → Span}

include hoistable

/-- Once a session is prepared, only the other statements of a program matter. -/
theorem endsAlike_others (fuel : Nat) {twin : Session}
    (alike : (stateAfter (Run.prepare first) session).Alike (.moving unlimited move) twin) :
    (Likeness.moving unlimited move).EndsAlike (Run.executeAll limits (fuel + 1) first.items)
      (Run.executeAll limits (fuel + 1) (first.others.map (Stmt.moved move)))
      (stateAfter (Run.prepare first) session) twin :=
  Run.endsAlike_others unlimited fuel hoistable.distinct
    (fun item member _ defines => List.mem_filterMap.mpr ⟨item, member, defines⟩)
    (fun _ => hoistable.item_settled) hoistable.hoisted_prepare alike

variable (functions : first.functions.map (Function.moved move) =
    second.functions.map (Function.moved move))
  (others : first.others.map (Stmt.moved move) = second.others.map (Stmt.moved move))

include unlimited functions others

/-- There is one run that both programs end like. -/
theorem exists_endsAlike (fuel : Nat) {twin : Session}
    (here : (stateAfter (Run.prepare first) session).Alike (.moving unlimited move) twin)
    (there : (stateAfter (Run.prepare second) session).Alike (.moving unlimited move) twin) :
    ∃ middle, (Likeness.moving unlimited move).EndsAlike (Run.executeAll limits fuel first.items)
        middle (stateAfter (Run.prepare first) session) twin ∧
      (Likeness.moving unlimited move).EndsAlike (Run.executeAll limits fuel second.items)
        middle (stateAfter (Run.prepare second) session) twin := by
  cases fuel with
  | zero =>
    have lengths : second.items.length = first.items.length := by
      have definitions := congrArg List.length functions
      have statements := congrArg List.length others
      rw [List.length_map, List.length_map] at definitions statements
      rw [second.length_items, first.length_items, definitions, statements]
    have empty : second.items = [] ↔ first.items = [] := by
      rw [← List.length_eq_zero_iff, lengths, List.length_eq_zero_iff]
    exact ⟨_, Run.endsAlike_outOfFuel unlimited Iff.rfl here,
      Run.endsAlike_outOfFuel unlimited empty there⟩
  | succ fuel =>
    have one := hoistable.endsAlike_others unlimited fuel here
    rw [others] at one
    exact ⟨_, one, (hoistable.of_moved functions others).endsAlike_others unlimited fuel there⟩

theorem endAlike_program (fuel : Nat) :
    EndAlike (Run.program limits fuel first) (Run.program limits fuel second) session session
      (fun _ _ => Session.SameBut move) (Session.SameBut move) := by
  let prepared := stateAfter (Run.prepare second) session
  obtain ⟨middle, one, two⟩ := hoistable.exists_endsAlike unlimited functions others fuel
    ((Run.sameBut_prepare functions session).alike unlimited)
    (prepared.sameBut_refl.alike unlimited)
  rw [endAlike_congr (Run.program_eq_finished limits fuel first session)
    (Run.program_eq_finished limits fuel second session)]
  refine ((Run.endAlike_finished one).trans (Run.endAlike_finished two).symm).weaken ?_ ?_
  · rintro _ _ final last ⟨_, between, here, there⟩
    exact here.2.toAlike.sameBut unlimited there.2.toAlike
  · rintro final last ⟨between, here, there⟩
    exact here.toAlike.sameBut unlimited there.toAlike

end Program.Hoistable

/-- The position of definitions is irrelevant. Let the functions that a program defines at its top
level have names of their own, and let another program have the same definitions and the same other
statements, each in the same order, wherever in a source these were read. Without a limit on
statements both programs end alike, however much fuel there is: both go through, or the same cuts
them short. Afterwards the same has been written and read, the variables have the same values, and
the same functions are registered in the same order. So it is for sources that spell the programs.

With `id` for `move` the statements of both programs are the very same, and with a constant function
they may have been read anywhere. -/
theorem definitions_may_stand_anywhere {first second : Program} {session : Session}
    (hoistable : first.Hoistable session) (move : Span → Span)
    (functions : first.functions.map (Function.moved move) =
      second.functions.map (Function.moved move))
    (others : first.others.map (Stmt.moved move) = second.others.map (Stmt.moved move))
    {limits : Limits} (unlimited : limits.steps = none) :
    (∀ fuel, EndAlike (Run.program limits fuel first) (Run.program limits fuel second) session
      session (fun _ _ => Session.SameBut move) (Session.SameBut move)) ∧
    ∀ source other, Program.ofSource source = .ok first → Program.ofSource other = .ok second →
      EndAlike (Session.run limits source) (Session.run limits other) session session
        (fun _ _ => Session.SameBut move) (Session.SameBut move) := by
  have programs := hoistable.endAlike_program unlimited functions others
  refine ⟨programs, fun source other spelled respelled => ?_⟩
  unfold Session.run
  rw [spelled, respelled]
  exact endAlike_operation.mpr (programs ampleFuel)

/-- A function is called in the line before its definition, and that is as good as after it. -/
theorem definition_may_follow_call :
    let early := ascii "def f(): return 1\nx = f()"
    let late := ascii "x = f()\ndef f(): return 1"
    let session := Session.start (Streams.reliable [])
    let nowhere (_ : Span) : Span := ⟨0, 0, 0, 0⟩
    ∃ first second final last, Program.ofSource early = .ok first ∧
      Program.ofSource late = .ok second ∧ first.Hoistable session ∧
      first.functions.map (Function.moved nowhere) =
        second.functions.map (Function.moved nowhere) ∧
      first.others.map (Stmt.moved nowhere) = second.others.map (Stmt.moved nowhere) ∧
      Session.run Limits.standard early session = .ok () final ∧
      Session.run Limits.standard late session = .ok () last ∧
      final.SameBut nowhere last ∧ last.global? (ascii "x") = some (.int 1) := by
  obtain ⟨first, isFirst, spelled⟩ : ∃ first : Program,
      first = ⟨[
        .define ⟨0, 17, 1, 1⟩ (ascii "f") []
          (.returns ⟨9, 17, 1, 10⟩ (some (.number ⟨16, 17, 1, 17⟩ 1))),
        .assign ⟨18, 25, 2, 1⟩ (ascii "x") (.call ⟨22, 25, 2, 5⟩ (ascii "f") [])]⟩ ∧
      Program.ofSource (ascii "def f(): return 1\nx = f()") = .ok first := ⟨_, rfl, by cbv⟩
  obtain ⟨second, isSecond, respelled⟩ : ∃ second : Program,
      second = ⟨[
        .assign ⟨0, 7, 1, 1⟩ (ascii "x") (.call ⟨4, 7, 1, 5⟩ (ascii "f") []),
        .define ⟨8, 25, 2, 1⟩ (ascii "f") []
          (.returns ⟨17, 25, 2, 10⟩ (some (.number ⟨24, 25, 2, 17⟩ 1)))]⟩ ∧
      Program.ofSource (ascii "x = f()\ndef f(): return 1") = .ok second := ⟨_, rfl, by cbv⟩
  intro early late session nowhere
  have hoistable : first.Hoistable session := by
    rw [isFirst]
    refine ⟨List.nodup_singleton _, fun function member => ?_, fun statement member => ?_,
      fun _ none => absurd none List.not_mem_nil⟩
    · rw [List.mem_singleton.mp member]
      trivial
    · rw [List.mem_singleton.mp member]
      trivial
  have functions : first.functions.map (Function.moved nowhere) =
      second.functions.map (Function.moved nowhere) := by
    rw [isFirst, isSecond]
    rfl
  have others : first.others.map (Stmt.moved nowhere) =
      second.others.map (Stmt.moved nowhere) := by
    rw [isFirst, isSecond]
    rfl
  have unlimited : Limits.standard.steps = none := rfl
  obtain ⟨-, alike⟩ := definitions_may_stand_anywhere hoistable nowhere functions others unlimited
  have through : ((Session.run Limits.standard early).run' session).isSome = true := by
    decide +kernel
  have bound : (stateAfter (Session.run Limits.standard late) session).global? (ascii "x") =
      some (.int 1) := by decide +kernel
  obtain ⟨_, final, _, last, here, there, same⟩ | ⟨abort, final, last, here, -, -⟩ :=
    (alike early late spelled respelled).cases
  · rw [stateAfter_of_ok there] at bound
    exact ⟨first, second, final, last, spelled, respelled, hoistable, functions, others, here,
      there, same, bound⟩
  · rw [EStateM.run', EStateM.run, here] at through
    cases through

end Scriptling
