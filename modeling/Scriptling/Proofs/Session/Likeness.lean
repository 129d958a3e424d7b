/-
This file says when two sessions are alike. Their streams and the calls in
progress are the same, their functions are the same but for where they were read,
and their variables have values that are alike, at least those that are ever
read. What the two top-level frames have in common besides is left open, since
programs bind variables there and expressions do not. Neither the log nor lists
that no variable leads to are compared.

Whatever is done to a session can be done to another one that is alike. Each
action of a run does the same in both, and they are alike afterwards.
-/

import Scriptling.Proofs.Heap.Pairing
import Scriptling.Proofs.Session.Invariant
import Scriptling.Proofs.Tree.Places
import Scriptling.Proofs.Tree.Variables
import Scriptling.Proofs.Twins

namespace Scriptling

/-- What becomes of two things in which a name is bound: both are full, or both have changed and are
related. -/
inductive DefinedAlike {Bound : Type} (related : Bound → Bound → Prop) :
    Except Cause Bound → Except Cause Bound → Prop
  | ok {first second : Bound} : related first second →
    DefinedAlike related (.ok first) (.ok second)
  | error (cause : Cause) : DefinedAlike related (.error cause) (.error cause)

/-! ### Frames -/

/-- Two frames bind the same names in the same order, to values that are alike. -/
def Frame.Alike (pairs : Nat → Nat → Prop) (first second : Frame) : Prop :=
  List.Forall₂ (fun binding twin => binding.1 = twin.1 ∧ binding.2.Alike pairs twin.2)
    first.bindings second.bindings

namespace Frame

variable {pairs : Nat → Nat → Prop}

theorem alike_empty : empty.Alike pairs empty :=
  .nil

theorem Alike.find? {first second : Frame} (alike : first.Alike pairs second) (name : Name) :
    Option.Rel (Value.Alike pairs) (first.find? name) (second.find? name) := by
  obtain ⟨bindings⟩ := first
  obtain ⟨twins⟩ := second
  unfold Frame.find? Entries.find?
  dsimp only [Frame.Alike] at alike ⊢
  induction alike with
  | nil => exact .none
  | @cons binding twin _ _ head _ hypothesis =>
    obtain ⟨same, value⟩ := head
    rw [List.find?_cons, List.find?_cons, same]
    cases twin.1 == name with
    | true => exact .some value
    | false => exact hypothesis

theorem Alike.names {first second : Frame} (alike : first.Alike pairs second) :
    first.names = second.names :=
  map_congr_forall₂ alike fun _ _ => And.left

theorem Alike.define {first second : Frame} (alike : first.Alike pairs second) (name : Name)
    {value twin : Value} (values : value.Alike pairs twin) :
    DefinedAlike (Alike pairs) (first.define name value) (second.define name twin) := by
  have bound (frame : Frame) : frame.binds name = frame.names.any (· == name) := by
    rw [Frame.names, Entries.names, List.any_map]
    rfl
  have binds : first.binds name = second.binds name := by
    rw [bound, bound, alike.names]
  unfold Frame.define
  rw [binds, Frame.size, Frame.size, alike.length_eq]
  split
  next =>
    refine .ok ?_
    have contains : Entries.contains Prod.fst first.bindings name =
        Entries.contains Prod.fst second.bindings name := binds
    dsimp only [Alike, Entries.insert]
    rw [contains]
    split
    next =>
      refine List.rel_map (fun binding twin both => ?_) alike
      rw [both.1]
      split
      next => exact ⟨rfl, values⟩
      next => exact both
    next => exact List.rel_append alike (.cons ⟨rfl, values⟩ .nil)
  next => exact .error _

end Frame

/-- The value of a name is alike in two chains of frames that are alike. -/
theorem Frame.alike_lookup {pairs : Nat → Nat → Prop} {first second : List Frame}
    (alike : List.Forall₂ (Frame.Alike pairs) first second) (name : Name) :
    Option.Rel (Value.Alike pairs) (Frame.lookup first name) (Frame.lookup second name) := by
  unfold Frame.lookup
  induction alike with
  | nil => exact .none
  | @cons frame twin _ _ head _ hypothesis =>
    rw [List.findSome?_cons, List.findSome?_cons]
    have found := head.find? name
    generalize frame.find? name = one, twin.find? name = two at found ⊢
    cases found with
    | none => exact hypothesis
    | some alike => exact .some alike

/-! ### Sessions -/

/-- What two sessions have in common that are run side by side. Both are held to the same limits. -/
structure Likeness where
  limits : Limits
  pairing : Pairing
  /-- Where the second session has what the first one runs. -/
  move : Span → Span
  /-- A statement that exceeds the limits is reported with its place. -/
  placed : limits.steps = none ∨ move = id
  /-- The names of the variables that may be read. -/
  mentions : Name → Prop
  /-- What holds of the two top-level frames. -/
  globals : Frame → Frame → Prop
  find? {first second : Frame} {name : Name} : globals first second → mentions name →
    Option.Rel (Value.Alike pairing.Pairs) (first.find? name) (second.find? name)

namespace Likeness

/-- Values that are alike in the sessions. -/
abbrev Values (likeness : Likeness) : Value → Value → Prop :=
  Value.Alike likeness.pairing.Pairs

/-- Binding a name keeps the innermost frames alike, if so many frames are above the top-level
one. -/
def Binds (likeness : Likeness) (frames : Nat) : Prop :=
  0 < frames ∨ ∀ {first second : Frame} (name : Name) {value twin : Value},
    likeness.globals first second → likeness.Values value twin →
      DefinedAlike likeness.globals (first.define name value) (second.define name twin)

/-- Where nothing is moved, any statement is reported with its own place. -/
theorem placed_id (limits : Limits) : limits.steps = none ∨ (id : Span → Span) = id :=
  .inr rfl

/-- Two sessions are alike but for some lists that the first one has from before, and but for where
their functions were read. -/
def shifted (limits : Limits) (lists : Nat) (move : Span → Span)
    (placed : limits.steps = none ∨ move = id) : Likeness where
  limits := limits
  pairing := .shifted lists
  move := move
  placed := placed
  mentions _ := True
  globals := Frame.Alike (Pairing.shifted lists).Pairs
  find? alike _ := alike.find? _

theorem binds_shifted (limits : Limits) (lists : Nat) (move : Span → Span)
    (placed : limits.steps = none ∨ move = id) (frames : Nat) :
    (shifted limits lists move placed).Binds frames :=
  .inr fun name _ _ globals values => globals.define name values

end Likeness

/-- The worlds of two sessions: lists that stand for each other, and the same streams. -/
structure World.Alike (pairing : Pairing) (first second : World) : Prop where
  heap : Heap.Twins pairing first.heap second.heap
  streams : first.streams = second.streams

namespace Session

/-- Two sessions are alike, wherever in a run they are. -/
structure Alike (likeness : Likeness) (first second : Session) : Prop where
  globals : likeness.globals first.globals second.globals
  locals : List.Forall₂ (Frame.Alike likeness.pairing.Pairs) first.locals second.locals
  depth : first.depth = second.depth
  functions : first.functions.moved likeness.move = second.functions
  mentioned : ∀ function ∈ first.functions.functions, ∀ name ∈ function.body.reads,
    likeness.mentions name
  world : first.world.Alike likeness.pairing second.world
  /-- Statements are counted alike, unless nobody looks at the count. -/
  steps : likeness.limits.steps = none ∨ first.steps = second.steps

/-- Two sessions are alike, with so many frames above the top-level one. -/
structure AlikeWith (likeness : Likeness) (frames : Nat) (first second : Session) : Prop
    extends Alike likeness first second where
  frames : first.locals.length = frames

end Session

/-! ### Work on the world -/

namespace World

variable {pairing : Pairing}

/-- Two pieces of work on worlds that are alike. -/
abbrev Relates {First Second : Type} (pairing : Pairing) (related : First → Second → Prop)
    (first : WorldAction First) (second : WorldAction Second) : Prop :=
  Scriptling.Relates (World.Alike pairing) (World.Alike pairing) related first second

theorem relates_onOutput (request : Sink → Except Fault Unit × Sink) :
    Relates pairing Eq (onOutput request) (onOutput request) := by
  rintro ⟨lists, streams⟩ ⟨others, _⟩ ⟨heap, rfl⟩
  unfold onOutput EndAlike
  dsimp only
  cases (request streams.out).1 with
  | ok granted => exact ⟨rfl, heap, rfl⟩
  | error fault => exact ⟨rfl, heap, rfl⟩

theorem relates_complain (pieces : List String) :
    Relates pairing Eq (complain pieces) (complain pieces) := by
  rintro ⟨lists, streams⟩ ⟨others, _⟩ ⟨heap, rfl⟩
  unfold complain EndAlike
  dsimp only
  cases (streams.err.writeAll (pieces.map encode)).1 with
  | ok granted => exact ⟨rfl, heap, rfl⟩
  | error fault => exact ⟨rfl, heap, rfl⟩

theorem relates_readLine : Relates pairing Eq readLine readLine := by
  rintro ⟨lists, streams⟩ ⟨others, _⟩ ⟨heap, rfl⟩
  unfold readLine EndAlike
  dsimp only
  cases streams.input.readLine.1 with
  | ok line => exact ⟨rfl, heap, rfl⟩
  | error fault => exact ⟨rfl, heap, rfl⟩

/-- Answers that are read off the lists. -/
theorem relates_settle {answer other : Heap → Answer}
    (answers : ∀ first second : Heap, Heap.Twins pairing first second →
      (answer first).Alike pairing.Pairs (other second)) :
    Relates pairing (Value.Alike pairing.Pairs) (do settle (answer (← get).heap))
      (do settle (other (← get).heap)) :=
  relates_get fun first second alike => by
    obtain ⟨value, heap⟩ := alike.heap.settle (answers _ _ alike.heap)
    exact ⟨value, heap, alike.streams⟩

end World

namespace Builtin

variable {pairing : Pairing} {arguments twins : List Value}
  (alike : List.Forall₂ (Value.Alike pairing.Pairs) arguments twins)

include alike

theorem relates_printCall :
    World.Relates pairing (Value.Alike pairing.Pairs) (printCall arguments) (printCall twins) := by
  refine relates_get fun first second worlds => ?_
  have lines : printedLine first.heap arguments = printedLine second.heap twins := by
    unfold printedLine
    rw [map_congr_forall₂ alike fun _ _ => worlds.heap.matched.render]
  rw [lines]
  exact relates_then (World.relates_onOutput _) (fun _ => relates_pure .none) _ _ worlds

theorem relates_prompt : World.Relates pairing Eq (prompt arguments) (prompt twins) := by
  cases alike with
  | nil => exact relates_pure rfl
  | cons head _ =>
    cases head with
    | none => exact relates_pure rfl
    | int number =>
      exact relates_then (World.relates_onOutput _) fun _ => World.relates_onOutput _
    | str text => exact World.relates_onOutput fun sink => sink.write text.bytes
    | list _ => exact relates_pure rfl

theorem relates_inputCall :
    World.Relates pairing (Value.Alike pairing.Pairs) (inputCall arguments) (inputCall twins) :=
  relates_then (relates_prompt alike) fun _ =>
    relates_then (World.relates_onOutput _) fun _ =>
      relates_then World.relates_readLine fun _ => relates_pure (.str _)

theorem relates_call (builtin : Builtin) :
    World.Relates pairing (Value.Alike pairing.Pairs) (builtin.call arguments)
      (builtin.call twins) := by
  have asks (builtin : Builtin) : World.Relates pairing (Value.Alike pairing.Pairs)
      (do World.settle (builtin.answer (← get).heap arguments))
      (do World.settle (builtin.answer (← get).heap twins)) :=
    World.relates_settle fun _ _ heaps => alike_answer heaps.matched builtin alike
  cases builtin with
  | print => exact relates_printCall alike
  | input => exact relates_inputCall alike
  | _ => exact asks _

end Builtin

/-! ### Sessions that change alike -/

namespace Session

variable {likeness : Likeness} {frames : Nat} {first second : Session}

theorem Alike.withWorld (alike : Alike likeness first second) {world other : World}
    (worlds : world.Alike likeness.pairing other) :
    Alike likeness { first with world } { second with world := other } :=
  ⟨alike.globals, alike.locals, alike.depth, alike.functions, alike.mentioned, worlds,
    alike.steps⟩

theorem AlikeWith.withWorld (alike : AlikeWith likeness frames first second) {world other : World}
    (worlds : world.Alike likeness.pairing other) :
    AlikeWith likeness frames { first with world } { second with world := other } :=
  ⟨alike.toAlike.withWorld worlds, alike.frames⟩

/-- A name is found in both sessions or in neither, with values that are alike. -/
theorem Alike.lookup (alike : Alike likeness first second) {name : Name}
    (mentioned : likeness.mentions name) :
    Option.Rel likeness.Values (first.lookup name) (second.lookup name) := by
  have inner := Frame.alike_lookup alike.locals name
  have outer := likeness.find? alike.globals mentioned
  unfold Session.lookup
  generalize Frame.lookup first.locals name = one, Frame.lookup second.locals name = two at inner ⊢
  cases inner with
  | none => exact outer
  | some value => exact .some value

theorem AlikeWith.define (alike : AlikeWith likeness frames first second)
    (binds : likeness.Binds frames) (name : Name) {value twin : Value}
    (values : likeness.Values value twin) :
    DefinedAlike (AlikeWith likeness frames) (first.define name value)
      (second.define name twin) := by
  obtain ⟨⟨globals, locals, depth, functions, mentioned, world, steps⟩, count⟩ := alike
  obtain ⟨top, inner, calls, registry, lists, log, begun⟩ := first
  obtain ⟨otherTop, otherInner, otherCalls, otherRegistry, otherLists, otherLog, otherBegun⟩ :=
    second
  dsimp only at globals locals depth functions mentioned world steps count
  unfold Session.define
  cases locals with
  | nil =>
    have none : ¬0 < frames := by
      rw [← count]
      exact Nat.lt_irrefl 0
    have defined := binds.resolve_left none name globals values
    dsimp only
    generalize top.define name value = one, otherTop.define name twin = two at defined ⊢
    cases defined with
    | ok related => exact .ok ⟨⟨related, .nil, depth, functions, mentioned, world, steps⟩, count⟩
    | error cause => exact .error cause
  | @cons frame other _ _ head tail =>
    have defined := head.define name values
    dsimp only
    generalize frame.define name value = one, other.define name twin = two at defined ⊢
    cases defined with
    | ok related =>
      exact .ok ⟨⟨globals, .cons related tail, depth, functions, mentioned, world, steps⟩, count⟩
    | error cause => exact .error cause

theorem AlikeWith.enter (alike : AlikeWith likeness frames first second) :
    AlikeWith likeness (frames + 1) first.enter second.enter :=
  ⟨⟨alike.globals, .cons Frame.alike_empty alike.locals, alike.depth, alike.functions,
    alike.mentioned, alike.world, alike.steps⟩, congrArg Nat.succ alike.frames⟩

theorem AlikeWith.deepen (alike : AlikeWith likeness frames first second) :
    AlikeWith likeness frames first.deepen second.deepen :=
  ⟨⟨alike.globals, alike.locals, congrArg Nat.succ alike.depth, alike.functions,
    alike.mentioned, alike.world, alike.steps⟩, alike.frames⟩

theorem Alike.leave (alike : Alike likeness first second) :
    Alike likeness first.leave second.leave := by
  have outer := List.forall₂_drop 1 alike.locals
  rw [List.drop_one, List.drop_one] at outer
  exact ⟨alike.globals, outer, congrArg Nat.pred alike.depth, alike.functions, alike.mentioned,
    alike.world, alike.steps⟩

theorem AlikeWith.leave (alike : AlikeWith likeness (frames + 1) first second) :
    AlikeWith likeness frames first.leave second.leave :=
  ⟨alike.toAlike.leave, (List.length_tail ..).trans (congrArg Nat.pred alike.frames)⟩

end Session

/-! ### Actions of a run -/

/-- Two runs in sessions that are alike, with so many frames above the top-level one. -/
abbrev Likeness.Relates {First Second : Type} (likeness : Likeness) (frames : Nat)
    (related : First → Second → Prop) (first : Run First) (second : Run Second) : Prop :=
  Scriptling.Relates (Session.AlikeWith likeness frames) (Session.Alike likeness) related first
    second

namespace Run

variable {likeness : Likeness} {frames : Nat} {First Second : Type}
  {related : First → Second → Prop}

theorem endAlike_onWorld {first : WorldAction First} {second : WorldAction Second}
    {session other : Session} {given : First → Second → Session → Session → Prop}
    {failed : Session → Session → Prop} :
    EndAlike (onWorld first) (onWorld second) session other given failed ↔
      EndAlike first second session.world other.world
        (fun result twin world last =>
          given result twin { session with world } { other with world := last })
        fun world last => failed { session with world } { other with world := last } := by
  unfold onWorld EndAlike
  dsimp only
  cases first session.world with
  | ok result world => cases second other.world <;> exact Iff.rfl
  | error fault world =>
    cases second other.world with
    | ok twin last => exact Iff.rfl
    | error same last => exact and_congr_left' (Abort.refused.injEq fault same ▸ Iff.rfl)

theorem relates_onWorld {first : WorldAction First} {second : WorldAction Second}
    (worlds : World.Relates likeness.pairing related first second) :
    likeness.Relates frames related (onWorld first) (onWorld second) :=
  fun _ _ alike => endAlike_onWorld.mpr ((worlds _ _ alike.world).weaken
    (fun _ _ _ _ held => ⟨held.1, alike.withWorld held.2⟩)
    fun _ _ held => alike.toAlike.withWorld held)

theorem relates_ask {question : Session → First} {other : Session → Second}
    (answers : ∀ first second, Session.AlikeWith likeness frames first second →
      related (question first) (other second)) :
    likeness.Relates frames related (Machine.ask question : Run First)
      (Machine.ask other : Run Second) :=
  fun first second alike => ⟨answers first second alike, alike⟩

theorem relates_note (event twin : Event) :
    likeness.Relates frames Eq (note event) (note twin) :=
  relates_modify fun _ _ alike => ⟨⟨alike.globals, alike.locals, alike.depth, alike.functions,
    alike.mentioned, alike.world, alike.steps⟩, alike.frames⟩

theorem relates_announce (diagnostic : Diagnostic) :
    likeness.Relates frames Eq (announce diagnostic) (announce diagnostic) :=
  relates_onWorld (World.relates_complain _)

/-- The places of messages are logged, but they are not written to the stream. -/
theorem relates_report {diagnostic twin : Diagnostic} (same : diagnostic.pieces = twin.pieces) :
    likeness.Relates frames Eq (report diagnostic) (report twin) :=
  relates_then (relates_note _ _) fun _ => by
    unfold announce
    rw [same]
    exact relates_onWorld (World.relates_complain _)

theorem relates_bindName (binds : likeness.Binds frames) (name : Name) {value twin : Value}
    (values : likeness.Values value twin) :
    likeness.Relates frames Eq (bind name value) (bind name twin) := by
  refine relates_get fun first second alike => ?_
  have defined := alike.define binds name values
  generalize first.define name value = one, second.define name twin = two at defined ⊢
  cases defined with
  | ok later => exact ⟨rfl, later⟩
  | error cause => exact relates_report rfl first second alike

/-- Parameters are bound to values that are alike. -/
theorem relates_bindAll (binds : likeness.Binds frames) (names : List Name)
    {values twins : List Value} (alike : List.Forall₂ likeness.Values values twins) :
    likeness.Relates frames Eq (bindAll names values) (bindAll names twins) := by
  induction names generalizing values twins with
  | nil => exact relates_pure rfl
  | cons name names hypothesis =>
    cases alike with
    | nil => exact relates_pure rfl
    | cons head tail =>
      exact relates_then (relates_bindName binds name head) fun _ => hypothesis tail

theorem relates_register {function : Function}
    (mentioned : ∀ name ∈ function.body.reads, likeness.mentions name) :
    likeness.Relates frames Eq (register function)
      (register (function.moved likeness.move)) := by
  have last : likeness.Relates frames Eq (do
      note (.registering function.name function.arity)
      modify fun session =>
        { session with functions := session.functions.register function } : Run Unit) (do
      note (.registering function.name function.arity)
      modify fun session => { session with
        functions := session.functions.register (function.moved likeness.move) } : Run Unit) := by
    refine relates_then (relates_note _ _) fun _ => relates_modify fun first second alike => ?_
    refine ⟨⟨alike.globals, alike.locals, alike.depth, ?_, ?_, alike.world, alike.steps⟩,
      alike.frames⟩
    · dsimp only
      rw [Registry.register_moved, alike.functions]
    · intro other member
      rcases Registry.mem_register member with rfl | old
      · exact mentioned
      · exact alike.mentioned other old
  have named : (function.moved likeness.move).name = function.name := rfl
  unfold register
  rw [named]
  dsimp only
  split
  next => exact relates_then (relates_note _ _) fun _ => last
  next => exact last

theorem relates_tick (span : Span) :
    likeness.Relates frames Eq (tick likeness.limits span)
      (tick likeness.limits (likeness.move span)) := by
  have counted : likeness.Relates frames Eq
      (modify fun session => { session with steps := session.steps + 1 } : Run Unit)
      (modify fun session => { session with steps := session.steps + 1 }) :=
    relates_modify fun _ _ alike => ⟨⟨alike.globals, alike.locals, alike.depth, alike.functions,
      alike.mentioned, alike.world, alike.steps.imp_right (congrArg Nat.succ)⟩, alike.frames⟩
  unfold tick
  refine relates_then counted fun _ => ?_
  cases limited : likeness.limits.steps with
  | none => exact relates_pure rfl
  | some limit =>
    have someLimit : likeness.limits.steps ≠ none := by
      rw [limited]
      exact Option.some_ne_none limit
    refine relates_get fun first second alike => ?_
    rw [alike.steps.resolve_left someLimit, likeness.placed.resolve_left someLimit]
    split
    next => exact ⟨rfl, alike.toAlike⟩
    next => exact ⟨rfl, alike⟩

/-- Either both calls go ahead, with the same function, or both are reported. -/
theorem relates_callee (span twin : Span) (name : Name) (given : Nat) :
    likeness.Relates frames
      (fun found other => found.map (Function.moved likeness.move) = other ∧
        ∀ function ∈ found, ∀ name ∈ function.body.reads, likeness.mentions name)
      (callee likeness.limits span name given) (callee likeness.limits twin name given) := by
  have refusal (cause : Cause) : likeness.Relates frames
      (fun found other : Option Function => found.map (Function.moved likeness.move) = other ∧
        ∀ function ∈ found, ∀ name ∈ function.body.reads, likeness.mentions name)
      (do report (cause.placed span); return none) (do report (cause.placed twin); return none) :=
    relates_then (relates_report rfl) fun _ =>
      relates_pure ⟨rfl, fun _ member => nomatch member⟩
  unfold callee
  refine relates_get fun first second alike => ?_
  rw [← alike.functions, ← alike.depth, Registry.lookup_moved]
  cases found : first.functions.lookup name with
  | none => exact refusal _ first second alike
  | some function =>
    have arity : (function.moved likeness.move).arity = function.arity := rfl
    dsimp only [Option.map_some]
    rw [arity]
    split
    next => exact refusal _ first second alike
    next =>
      split
      next => exact refusal _ first second alike
      next =>
        refine ⟨⟨rfl, fun other same => ?_⟩, alike⟩
        rw [← Option.some.inj same]
        exact alike.mentioned function (List.mem_of_find?_eq_some found)

theorem endAlike_closing {first : Run First} {second : Run Second} {session other : Session}
    {given : First → Second → Session → Session → Prop} {failed : Session → Session → Prop} :
    EndAlike (closing first) (closing second) session other given failed ↔
      EndAlike first second session other
        (fun result twin final last => given result twin final.leave last.leave)
        fun final last => failed final.leave last.leave := by
  unfold closing EndAlike
  dsimp only
  cases first session with
  | ok result final => cases second other <;> exact Iff.rfl
  | error abort final => cases second other <;> exact Iff.rfl

/-- The frame of a call is opened, filled and dropped on both sides. -/
theorem relates_inCall {first : Run First} {second : Run Second} (parameters : List Name)
    {values twins : List Value} (alike : List.Forall₂ likeness.Values values twins)
    (inside : likeness.Relates (frames + 1) related first second) :
    likeness.Relates frames related (inCall parameters values first)
      (inCall parameters twins second) := by
  have opened : likeness.Relates (frames + 1) Eq
      (do bindAll parameters values; modify Session.deepen : Run Unit)
      (do bindAll parameters twins; modify Session.deepen) :=
    relates_then (relates_bindAll (.inl (Nat.succ_pos frames)) parameters alike) fun _ =>
      relates_modify fun _ _ filled => filled.deepen
  intro session other start
  refine endAlike_bind ?_
  refine (opened _ _ start.enter).weaken (fun _ _ ready twin held => ?_) fun _ _ cut => cut
  exact endAlike_closing.mpr ((inside _ _ held.2).weaken
    (fun _ _ _ _ ended => ⟨ended.1, ended.2.leave⟩) fun _ _ cut => cut.leave)

end Run

end Scriptling
