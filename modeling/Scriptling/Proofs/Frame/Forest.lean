/-
This file compares the two ways in which frames are kept. A session keeps one
chain of them, the innermost first. A host that numbers its frames keeps any
number of chains, which may share their outer frames. When both of them open
frames, bind names and close frames, the chain of the frame that the host stands
in is that of the session, and every name has the same value.
-/

import Scriptling.Frame.Forest
import Scriptling.Session

namespace Scriptling

namespace Forest

/-- Every frame is enclosed by an older one. -/
def Aged (forest : Forest) : Prop :=
  ∀ number outer, forest.enclosing? number = some outer → outer < number

/-! ### Chains -/

theorem chain_of_some {forest : Forest} {number outer : Nat}
    (inside : forest.enclosing? number = some outer) (older : outer < number) :
    forest.chain number = forest.frame number :: forest.chain outer := by
  rw [chain, inside]
  exact congrArg _ (if_pos older)

theorem chain_of_none {forest : Forest} {number : Nat}
    (outermost : forest.enclosing? number = none) :
    forest.chain number = [forest.frame number] := by
  rw [chain, outermost]

/-- Forests in which the frames up to some number are alike have the same chains up to there. -/
theorem chain_congr {forest other : Forest} (aged : forest.Aged) {number : Nat}
    (frames : ∀ inner ≤ number, other.frame inner = forest.frame inner)
    (around : ∀ inner ≤ number, other.enclosing? inner = forest.enclosing? inner) :
    other.chain number = forest.chain number := by
  induction number using Nat.strongRecOn with
  | ind number hypothesis =>
    have same := around number (Nat.le_refl _)
    cases inside : forest.enclosing? number with
    | none =>
      rw [chain_of_none inside, chain_of_none (same.trans inside), frames number (Nat.le_refl _)]
    | some outer =>
      have older := aged number outer inside
      rw [chain_of_some inside older, chain_of_some (same.trans inside) older,
        frames number (Nat.le_refl _), hypothesis outer older
          (fun inner le => frames inner (Nat.le_trans le (Nat.le_of_lt older)))
          fun inner le => around inner (Nat.le_trans le (Nat.le_of_lt older))]

/-! ### A new frame -/

section

variable {forest : Forest} {enclosing : Option Nat}

theorem grow_old {number : Nat} (old : number < forest.size) :
    (forest.grow enclosing).2.frame number = forest.frame number ∧
      (forest.grow enclosing).2.enclosing? number = forest.enclosing? number := by
  have inside : number < forest.frames.size := old
  simp [grow, frame, enclosing?, Array.getElem?_push_lt inside, Array.getElem?_eq_getElem inside]

theorem grow_new : (forest.grow enclosing).2.frame forest.size = Frame.empty ∧
    (forest.grow enclosing).2.enclosing? forest.size = enclosing := by
  simp [grow, frame, enclosing?, size]

theorem enclosing?_of_size_le {number : Nat} (beyond : forest.size ≤ number) :
    forest.enclosing? number = none := by
  have outside : forest.frames.size ≤ number := beyond
  simp [enclosing?, Array.getElem?_eq_none outside]

theorem size_grow : (forest.grow enclosing).2.size = forest.size + 1 := by
  simp [grow, size]

theorem Aged.grow (aged : forest.Aged) (inside : ∀ outer ∈ enclosing, outer < forest.size) :
    (forest.grow enclosing).2.Aged := by
  intro number outer around
  rcases Nat.lt_trichotomy number forest.size with old | rfl | beyond
  · rw [(grow_old old).2] at around
    exact aged number outer around
  · rw [grow_new.2] at around
    exact inside outer around
  · rw [enclosing?_of_size_le (size_grow ▸ beyond)] at around
    cases around

/-- A new frame stands in front of the chain of the frame that encloses it. -/
theorem chain_grow {number : Nat} (aged : forest.Aged) (inside : number < forest.size) :
    (forest.grow (some number)).2.chain forest.size = Frame.empty :: forest.chain number := by
  have older (inner : Nat) (le : inner ≤ number) := Nat.lt_of_le_of_lt le inside
  rw [chain_of_some grow_new.2 inside, grow_new.1,
    chain_congr aged (fun inner le => (grow_old (older inner le)).1)
      fun inner le => (grow_old (older inner le)).2]

end

/-! ### A frame put in the place of another -/

section

variable {forest : Forest} {number : Nat} {frame : Frame}

theorem size_replace : (forest.replace number frame).size = forest.size := by
  simp [replace, size]

theorem frame_replace (inside : number < forest.size) :
    (forest.replace number frame).frame number = frame := by
  have inside : number < forest.frames.size := inside
  simp [replace, Forest.frame, Array.getElem?_modify, Array.getElem?_eq_getElem inside]

theorem frame_replace_of_ne {other : Nat} (differ : number ≠ other) :
    (forest.replace number frame).frame other = forest.frame other := by
  simp [replace, Forest.frame, Array.getElem?_modify, differ]

theorem enclosing?_replace {other : Nat} :
    (forest.replace number frame).enclosing? other = forest.enclosing? other := by
  by_cases same : number = other <;>
    cases found : forest.frames[other]? <;>
    simp [replace, enclosing?, Array.getElem?_modify, same, found]

theorem Aged.replace (aged : forest.Aged) : (forest.replace number frame).Aged := by
  intro inner outer around
  exact aged inner outer (enclosing?_replace.symm.trans around)

theorem chain_replace (aged : forest.Aged) (inside : number < forest.size) :
    (forest.replace number frame).chain number = frame :: (forest.chain number).tail := by
  cases around : forest.enclosing? number with
  | none =>
    rw [chain_of_none around, chain_of_none (enclosing?_replace.trans around),
      frame_replace inside, List.tail_cons]
  | some outer =>
    have older := aged number outer around
    have apart (inner : Nat) (le : inner ≤ outer) : number ≠ inner :=
      Nat.ne_of_gt (Nat.lt_of_le_of_lt le older)
    rw [chain_of_some around older, chain_of_some (enclosing?_replace.trans around) older,
      frame_replace inside, List.tail_cons,
      chain_congr aged (fun inner le => frame_replace_of_ne (apart inner le))
        fun inner _ => enclosing?_replace]

/-- A name is bound in the first frame of the chain, or refused by it. -/
theorem chain_define {outer : List Frame} (aged : forest.Aged) (inside : number < forest.size)
    (chain : forest.chain number = frame :: outer) (name : Name) (value : Value) :
    (forest.define number name value).map (fun after => after.chain number) =
      (frame.define name value).map fun after => after :: outer := by
  have innermost : forest.frame number = frame := by
    rw [Forest.chain] at chain
    exact (List.cons.inj chain).1
  rw [define, innermost]
  cases frame.define name value with
  | error cause => rfl
  | ok after =>
    refine congrArg Except.ok ?_
    exact (chain_replace aged inside).trans (by rw [chain, List.tail_cons])

theorem eq_replace_of_define {after : Forest} {name : Name} {value : Value}
    (taken : forest.define number name value = .ok after) :
    ∃ frame, after = forest.replace number frame := by
  rw [define] at taken
  cases innermost : (forest.frame number).define name value with
  | error cause =>
    rw [innermost] at taken
    cases taken
  | ok frame =>
    rw [innermost] at taken
    exact ⟨frame, (Except.ok.inj taken).symm⟩

end

end Forest

/-! ### The chain of a session -/

/-- In a session too, a name is bound in the first frame of the chain, or refused by it. -/
theorem Session.chain_define {session : Session} {frame : Frame} {outer : List Frame}
    (chain : session.chain = frame :: outer) (name : Name) (value : Value) :
    (session.define name value).map Session.chain =
      (frame.define name value).map fun after => after :: outer := by
  rcases session with ⟨globals, locals, depth, functions, world, log, steps⟩
  cases locals with
  | nil =>
    obtain ⟨rfl, rfl⟩ := List.cons.inj chain
    simp only [Session.define]
    cases globals.define name value <;> rfl
  | cons innermost rest =>
    obtain ⟨rfl, rfl⟩ := List.cons.inj chain
    simp only [Session.define]
    cases innermost.define name value <;> rfl

theorem Session.chain_leave_of_alone {session : Session} {frame : Frame}
    (alone : session.chain = [frame]) : session.leave.chain = [frame] := by
  rcases session with ⟨globals, locals, depth, functions, world, log, steps⟩
  cases locals with
  | nil => exact alone
  | cons innermost rest => simp [Session.chain] at alone

theorem Session.chain_leave {session : Session} {frame : Frame} {outer : List Frame}
    (chain : session.chain = frame :: outer) (around : outer ≠ []) :
    session.leave.chain = outer := by
  rcases session with ⟨globals, locals, depth, functions, world, log, steps⟩
  cases locals with
  | nil => exact absurd (List.cons.inj chain).2.symm around
  | cons innermost rest => exact (List.cons.inj chain).2

/-! ### Both side by side -/

/-- What a host does with frames: it opens one inside the frame it stands in, binds a name there,
or goes back to the frame around. -/
inductive FrameStep where
  | enter
  | bind (name : Name) (value : Value)
  | leave

/-- A step among numbered frames, from the frame that the host stands in. A name that a full frame
refuses changes nothing, and nothing is around the outermost frame. -/
def Forest.step : Nat × Forest → FrameStep → Nat × Forest
  | (number, forest), .enter => forest.grow (some number)
  | (number, forest), .bind name value =>
    match forest.define number name value with
    | .ok after => (number, after)
    | .error _ => (number, forest)
  | (number, forest), .leave => ((forest.enclosing? number).getD number, forest)

/-- The same step in a session. -/
def Session.step (session : Session) : FrameStep → Session
  | .enter => session.enter
  | .bind name value =>
    match session.define name value with
    | .ok after => after
    | .error _ => session
  | .leave => session.leave

/-- The host stands in the innermost frame of the session. -/
structure Forest.Mirrors (place : Nat × Forest) (session : Session) : Prop where
  inside : place.1 < place.2.size
  aged : place.2.Aged
  chain : place.2.chain place.1 = session.chain

theorem Forest.Mirrors.define {number : Nat} {forest : Forest} {session : Session}
    (mirrors : Mirrors (number, forest) session) (name : Name) (value : Value) :
    (forest.define number name value).map (fun after => after.chain number) =
      (session.define name value).map Session.chain := by
  cases chain : session.chain with
  | nil => simp [Session.chain] at chain
  | cons frame outer =>
    rw [Session.chain_define chain,
      Forest.chain_define mirrors.aged mirrors.inside (mirrors.chain.trans chain)]

theorem Forest.mirrors_start (streams : Streams) :
    Mirrors (0, Forest.start) (Session.start streams) where
  inside := Nat.zero_lt_one
  aged number outer around := by
    rcases number with - | number <;> cases around
  chain := chain_of_none rfl

section

variable {number : Nat} {forest : Forest} {session : Session}

theorem Forest.Mirrors.enter (mirrors : Mirrors (number, forest) session) :
    Mirrors (forest.grow (some number)) session.enter where
  inside := size_grow ▸ Nat.lt_succ_self forest.size
  aged := mirrors.aged.grow fun _ around => Option.some.inj around ▸ mirrors.inside
  chain := (chain_grow mirrors.aged mirrors.inside).trans (congrArg _ mirrors.chain)

theorem Forest.Mirrors.bind (mirrors : Mirrors (number, forest) session) (name : Name)
    (value : Value) :
    Mirrors (Forest.step (number, forest) (.bind name value))
      (session.step (.bind name value)) := by
  have alike := mirrors.define name value
  simp only [Forest.step, Session.step]
  cases taken : forest.define number name value with
  | error cause =>
    cases also : session.define name value with
    | error _ => exact mirrors
    | ok bound => simp [taken, also, Except.map] at alike
  | ok after =>
    cases also : session.define name value with
    | error cause => simp [taken, also, Except.map] at alike
    | ok bound =>
      obtain ⟨frame, rfl⟩ := eq_replace_of_define taken
      rw [taken, also] at alike
      exact ⟨size_replace.symm ▸ mirrors.inside, mirrors.aged.replace, Except.ok.inj alike⟩

theorem Forest.Mirrors.leave (mirrors : Mirrors (number, forest) session) :
    Mirrors ((forest.enclosing? number).getD number, forest) session.leave := by
  obtain ⟨inside, aged, chain⟩ := mirrors
  cases around : forest.enclosing? number with
  | none =>
    -- Neither of them has anything around, so both stay where they are.
    have alone : session.chain = [forest.frame number] :=
      chain.symm.trans (chain_of_none around)
    exact ⟨inside, aged, (chain_of_none around).trans (Session.chain_leave_of_alone alone).symm⟩
  | some outer =>
    have older := aged number outer around
    have inner : session.chain = forest.frame number :: forest.chain outer :=
      chain.symm.trans (chain_of_some around older)
    refine ⟨Nat.lt_trans older inside, aged, (Session.chain_leave inner ?_).symm⟩
    rw [Forest.chain]
    exact List.cons_ne_nil _ _

end

theorem Forest.Mirrors.step {place : Nat × Forest} {session : Session}
    (mirrors : Mirrors place session) (move : FrameStep) :
    Mirrors (Forest.step place move) (session.step move) := by
  cases move with
  | enter => exact mirrors.enter
  | bind name value => exact mirrors.bind name value
  | leave => exact mirrors.leave

/-- After any steps the host stands in the innermost frame of the session. -/
theorem Forest.mirrors_run (streams : Streams) (moves : List FrameStep) :
    Mirrors (moves.foldl Forest.step (0, Forest.start))
      (moves.foldl Session.step (Session.start streams)) := by
  suffices kept : ∀ place session, Mirrors place session →
      Mirrors (moves.foldl Forest.step place) (moves.foldl Session.step session) from
    kept _ _ (mirrors_start streams)
  induction moves with
  | nil => exact fun _ _ mirrors => mirrors
  | cons move rest hypothesis =>
    exact fun place session mirrors => hypothesis _ _ (mirrors.step move)

/-- A name has the same value among numbered frames as in a session, after any steps. -/
theorem Forest.lookup_eq_session_lookup (streams : Streams) (moves : List FrameStep)
    (name : Name) :
    let place := moves.foldl Forest.step (0, Forest.start)
    place.2.lookup place.1 name =
      (moves.foldl Session.step (Session.start streams)).lookup name := by
  intro place
  rw [Forest.lookup, (mirrors_run streams moves).chain, Session.lookup_eq]

end Scriptling
