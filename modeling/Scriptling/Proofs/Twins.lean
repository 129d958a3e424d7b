/-
This file says how two pieces of work end that are done side by side, each from a
state of its own. They end alike if both go through or both are cut short by the
same fault. What they give and where they end need not be the same; how these are
related is asked of the ends of the first steps, with what is asked of the rests
from there on.

Work that is done on both sides keeps a relation between the two states. It may
be cut short in the middle of something, and then less is asked of the states.
-/

import Mathlib.Data.List.Forall2
import Scriptling.Proofs.Steps

namespace Scriptling

variable {Fault State First Second FirstResult SecondResult : Type}

/-- Two pieces of work end alike: both go through, with results and states for which `given` holds,
or the same fault cuts both short, in states for which `failed` holds. -/
def EndAlike (first : EStateM Fault State First) (second : EStateM Fault State Second)
    (start other : State) (given : First → Second → State → State → Prop)
    (failed : State → State → Prop) : Prop :=
  match first start, second other with
  | .ok result final, .ok twin last => given result twin final last
  | .error fault final, .error same last => fault = same ∧ failed final last
  | _, _ => False

section

variable {start other : State} {given : First → Second → State → State → Prop}
  {failed : State → State → Prop}

theorem endAlike_of_ok {first : EStateM Fault State First} {second : EStateM Fault State Second}
    {result : First} {twin : Second} {final last : State} (one : first start = .ok result final)
    (two : second other = .ok twin last) :
    EndAlike first second start other given failed ↔ given result twin final last := by
  unfold EndAlike
  rw [one, two]

theorem endAlike_of_error {first : EStateM Fault State First} {second : EStateM Fault State Second}
    {fault same : Fault} {final last : State} (one : first start = .error fault final)
    (two : second other = .error same last) :
    EndAlike first second start other given failed ↔ fault = same ∧ failed final last := by
  unfold EndAlike
  rw [one, two]

/-- Work that ends in the same ways ends alike. -/
theorem endAlike_congr {first one : EStateM Fault State First}
    {second two : EStateM Fault State Second} {before after : State}
    (here : first start = one before) (there : second other = two after) :
    EndAlike first second start other given failed ↔
      EndAlike one two before after given failed := by
  unfold EndAlike
  rw [here, there]

/-- What ends alike goes through on both sides or is cut short on both. -/
theorem EndAlike.cases {first : EStateM Fault State First} {second : EStateM Fault State Second}
    (alike : EndAlike first second start other given failed) :
    (∃ result final twin last, first start = .ok result final ∧ second other = .ok twin last ∧
      given result twin final last) ∨
    ∃ fault final last, first start = .error fault final ∧ second other = .error fault last ∧
      failed final last := by
  unfold EndAlike at alike
  cases one : first start with
  | ok result final =>
    cases two : second other with
    | ok twin last =>
      rw [one, two] at alike
      exact .inl ⟨result, final, twin, last, rfl, rfl, alike⟩
    | error fault last =>
      rw [one, two] at alike
      exact alike.elim
  | error fault final =>
    cases two : second other with
    | ok twin last =>
      rw [one, two] at alike
      exact alike.elim
    | error same last =>
      rw [one, two] at alike
      obtain ⟨rfl, failed⟩ := alike
      exact .inr ⟨fault, final, last, rfl, rfl, failed⟩

/-- What is asked of the ends may be relaxed. -/
theorem EndAlike.weaken {first : EStateM Fault State First}
    {second : EStateM Fault State Second}
    {otherGiven : First → Second → State → State → Prop} {otherFailed : State → State → Prop}
    (alike : EndAlike first second start other given failed)
    (givenWeaker : ∀ result twin final last, given result twin final last →
      otherGiven result twin final last)
    (failedWeaker : ∀ final last, failed final last → otherFailed final last) :
    EndAlike first second start other otherGiven otherFailed := by
  obtain ⟨result, final, twin, last, one, two, holds⟩ | ⟨fault, final, last, one, two, holds⟩ :=
    alike.cases
  · exact (endAlike_of_ok one two).mpr (givenWeaker _ _ _ _ holds)
  · exact (endAlike_of_error one two).mpr ⟨rfl, failedWeaker _ _ holds⟩

/-- What is asked of the ends may speak of what each piece of work does by itself. -/
theorem EndAlike.withEnds {first : EStateM Fault State First}
    {second : EStateM Fault State Second} {firstGiven : First → State → Prop}
    {firstFailed : Fault → State → Prop}
    (alike : EndAlike first second start other given failed)
    (ends : Ends first start firstGiven firstFailed) :
    EndAlike first second start other
      (fun result twin final last => given result twin final last ∧ firstGiven result final)
      fun final last => failed final last ∧ ∃ fault, firstFailed fault final := by
  obtain ⟨result, final, twin, last, one, two, holds⟩ | ⟨fault, final, last, one, two, holds⟩ :=
    alike.cases
  · exact (endAlike_of_ok one two).mpr ⟨holds, ends.of_ok one⟩
  · exact (endAlike_of_error one two).mpr ⟨rfl, holds, fault, ends.of_error one⟩

/-- What holds of the states in either end holds of the states after the work. -/
theorem EndAlike.stateAfter {first : EStateM Fault State First}
    {second : EStateM Fault State Second} {property : State → State → Prop}
    (alike : EndAlike first second start other (fun _ _ final last => property final last)
      property) : property (stateAfter first start) (stateAfter second other) := by
  obtain ⟨result, final, twin, last, one, two, holds⟩ | ⟨fault, final, last, one, two, holds⟩ :=
    alike.cases
  · rw [stateAfter_of_ok one, stateAfter_of_ok two]
    exact holds
  · rw [stateAfter_of_error one, stateAfter_of_error two]
    exact holds

theorem EndAlike.symm {first : EStateM Fault State First} {second : EStateM Fault State Second}
    (alike : EndAlike first second start other given failed) :
    EndAlike second first other start (fun twin result last final => given result twin final last)
      fun last final => failed final last := by
  obtain ⟨result, final, twin, last, one, two, holds⟩ | ⟨fault, final, last, one, two, holds⟩ :=
    alike.cases
  · exact (endAlike_of_ok two one).mpr holds
  · exact (endAlike_of_error two one).mpr ⟨rfl, holds⟩

/-- Work that ends like a third piece of work in two ways ends alike. -/
theorem EndAlike.trans {Third : Type} {first : EStateM Fault State First}
    {second : EStateM Fault State Second} {third : EStateM Fault State Third} {another : State}
    {laterGiven : Second → Third → State → State → Prop} {laterFailed : State → State → Prop}
    (one : EndAlike first second start other given failed)
    (two : EndAlike second third other another laterGiven laterFailed) :
    EndAlike first third start another
      (fun result reply final last => ∃ twin middle, given result twin final middle ∧
        laterGiven twin reply middle last)
      fun final last => ∃ middle, failed final middle ∧ laterFailed middle last := by
  obtain ⟨result, final, twin, middle, here, there, holds⟩ | ⟨fault, final, middle, here, there,
    holds⟩ := one.cases
  · obtain ⟨_, _, reply, last, same, beyond, later⟩ | ⟨_, _, _, same, -, -⟩ := two.cases
    · obtain ⟨rfl, rfl⟩ := EStateM.Result.ok.inj (there.symm.trans same)
      exact (endAlike_of_ok here beyond).mpr ⟨twin, middle, holds, later⟩
    · exact nomatch there.symm.trans same
  · obtain ⟨_, _, _, _, same, -, -⟩ | ⟨_, _, last, same, beyond, later⟩ := two.cases
    · exact nomatch there.symm.trans same
    · obtain ⟨rfl, rfl⟩ := EStateM.Result.error.inj (there.symm.trans same)
      exact (endAlike_of_error here beyond).mpr ⟨rfl, middle, holds, later⟩

end

/-- Two sequences of steps end alike if their first steps do and the rests after them. -/
theorem endAlike_bind {start other : State} {first : EStateM Fault State First}
    {second : EStateM Fault State Second} {firstRest : First → EStateM Fault State FirstResult}
    {secondRest : Second → EStateM Fault State SecondResult}
    {given : FirstResult → SecondResult → State → State → Prop} {failed : State → State → Prop}
    (alike : EndAlike first second start other
      (fun value twin middle between =>
        EndAlike (firstRest value) (secondRest twin) middle between given failed) failed) :
    EndAlike (first >>= firstRest) (second >>= secondRest) start other given failed := by
  obtain ⟨result, final, twin, last, one, two, holds⟩ | ⟨fault, final, last, one, two, holds⟩ :=
    alike.cases
  · unfold EndAlike at holds ⊢
    rw [bind_of_ok one, bind_of_ok two]
    exact holds
  · exact (endAlike_of_error (bind_of_error one) (bind_of_error two)).mpr ⟨rfl, holds⟩

/-! ### Work that keeps two states related -/

/-- Done side by side from states that are related, two pieces of work end alike. If they go
through, what they give is related and the states still are; if they are cut short, the states are
related as far as that can be asked of them. -/
def Relates (kept cut : State → State → Prop) (related : First → Second → Prop)
    (first : EStateM Fault State First) (second : EStateM Fault State Second) : Prop :=
  ∀ start other, kept start other →
    EndAlike first second start other
      (fun result twin final last => related result twin ∧ kept final last) cut

section

variable {kept cut : State → State → Prop} {related : First → Second → Prop}

theorem relates_pure {result : First} {twin : Second} (holds : related result twin) :
    Relates kept cut related (pure result : EStateM Fault State First) (pure twin) :=
  fun _ _ start => ⟨holds, start⟩

theorem relates_throw (weaker : ∀ start other, kept start other → cut start other)
    (fault : Fault) :
    Relates kept cut related (throw fault : EStateM Fault State First)
      (throw fault : EStateM Fault State Second) :=
  fun _ _ start => ⟨rfl, weaker _ _ start⟩

theorem relates_bind {goal : FirstResult → SecondResult → Prop}
    {first : EStateM Fault State First} {second : EStateM Fault State Second}
    {firstRest : First → EStateM Fault State FirstResult}
    {secondRest : Second → EStateM Fault State SecondResult}
    (head : Relates kept cut related first second)
    (tail : ∀ result twin, related result twin →
      Relates kept cut goal (firstRest result) (secondRest twin)) :
    Relates kept cut goal (first >>= firstRest) (second >>= secondRest) :=
  fun start other alike => endAlike_bind ((head start other alike).weaken
    (fun result twin _ _ held => tail result twin held.1 _ _ held.2) fun _ _ held => held)

/-- A first step whose result is the same on both sides. -/
theorem relates_then {goal : FirstResult → SecondResult → Prop}
    {first second : EStateM Fault State First}
    {firstRest : First → EStateM Fault State FirstResult}
    {secondRest : First → EStateM Fault State SecondResult}
    (head : Relates kept cut Eq first second)
    (tail : ∀ result, Relates kept cut goal (firstRest result) (secondRest result)) :
    Relates kept cut goal (first >>= firstRest) (second >>= secondRest) := by
  refine relates_bind head fun result twin same => ?_
  cases same
  exact tail result

theorem relates_modify {change : State → State} {twinChange : State → State}
    (keeps : ∀ start other, kept start other → kept (change start) (twinChange other)) :
    Relates kept cut Eq (modify change : EStateM Fault State Unit) (modify twinChange) :=
  fun start other alike => ⟨rfl, keeps start other alike⟩

/-- Work that depends on the states. -/
theorem relates_get {firstRest : State → EStateM Fault State First}
    {secondRest : State → EStateM Fault State Second}
    (rest : ∀ start other, kept start other →
      EndAlike (firstRest start) (secondRest other) start other
        (fun result twin final last => related result twin ∧ kept final last) cut) :
    Relates kept cut related (get >>= firstRest) (get >>= secondRest) :=
  fun start other alike => endAlike_bind (rest start other alike)

theorem relates_mapM {Item : Type} {first : Item → EStateM Fault State First}
    {second : Item → EStateM Fault State Second} {items : List Item}
    (each : ∀ item ∈ items, Relates kept cut related (first item) (second item)) :
    Relates kept cut (List.Forall₂ related) (items.mapM first) (items.mapM second) := by
  induction items with
  | nil =>
    rw [List.mapM_nil, List.mapM_nil]
    exact relates_pure .nil
  | cons item rest hypothesis =>
    obtain ⟨head, tail⟩ := List.forall_mem_cons.mp each
    rw [List.mapM_cons, List.mapM_cons]
    exact relates_bind head fun _ _ alike => relates_bind (hypothesis tail) fun _ _ all =>
      relates_pure (.cons alike all)

end

end Scriptling
