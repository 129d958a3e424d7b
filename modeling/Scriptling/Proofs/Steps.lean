/-
This file says how work ends that is done one step after another on a state and
may be cut short. What is asked of its end is asked of the end of its first step,
with what is asked of the rest from there on, so any piece of work is followed
through from its start.
-/

namespace Scriptling

variable {Fault State Result First Second : Type}

/-- How work ends that begins in a state: with a result and a state for which `given` holds, or
with a fault and a state for which `failed` holds. -/
def Ends (work : EStateM Fault State Result) (start : State) (given : Result → State → Prop)
    (failed : Fault → State → Prop) : Prop :=
  match work start with
  | .ok result final => given result final
  | .error fault final => failed fault final

section

variable {start : State} {given : Result → State → Prop} {failed : Fault → State → Prop}

theorem ends_get {given : State → State → Prop} :
    Ends (get : EStateM Fault State State) start given failed ↔ given start start :=
  Iff.rfl

theorem ends_modify {change : State → State} {given : Unit → State → Prop} :
    Ends (modify change : EStateM Fault State Unit) start given failed ↔
      given () (change start) :=
  Iff.rfl

theorem ends_bind {first : EStateM Fault State First} {rest : First → EStateM Fault State Result} :
    Ends (first >>= rest) start given failed ↔
      Ends first start (fun value middle => Ends (rest value) middle given failed) failed := by
  show (match EStateM.bind first rest start with
    | .ok result final => given result final
    | .error fault final => failed fault final) ↔ _
  unfold EStateM.bind Ends
  cases first start with
  | ok value middle => exact Iff.rfl
  | error fault middle => exact Iff.rfl

theorem ends_discard {work : EStateM Fault State Result} {given : Unit → State → Prop} :
    Ends (discard work) start given failed ↔
      Ends work start (fun _ final => given () final) failed := by
  have steps : discard work = work >>= fun _ => pure () :=
    (bind_pure_comp (fun _ => ()) work).symm
  rw [steps, ends_bind]
  exact Iff.rfl

/-- What is asked of the end may be relaxed. -/
theorem Ends.weaken {work : EStateM Fault State Result} {otherGiven : Result → State → Prop}
    {otherFailed : Fault → State → Prop} (ends : Ends work start given failed)
    (givenWeaker : ∀ result final, given result final → otherGiven result final)
    (failedWeaker : ∀ fault final, failed fault final → otherFailed fault final) :
    Ends work start otherGiven otherFailed := by
  unfold Ends at ends ⊢
  cases ended : work start with
  | ok result final =>
    rw [ended] at ends
    exact givenWeaker result final ends
  | error fault final =>
    rw [ended] at ends
    exact failedWeaker fault final ends

/-- Work that ends alike ends as is asked. -/
theorem ends_congr {first second : EStateM Fault State Result} {other : State}
    (same : first start = second other) :
    Ends first start given failed ↔ Ends second other given failed := by
  unfold Ends
  rw [same]

/-- After a first step that goes through, the rest decides how the work ends. -/
theorem ends_bind_of_ok {first : EStateM Fault State First}
    {rest : First → EStateM Fault State Result} {value : First} {middle : State}
    (through : first start = .ok value middle) :
    Ends (first >>= rest) start given failed ↔ Ends (rest value) middle given failed := by
  rw [ends_bind]
  unfold Ends
  rw [through]

/-- Work that went through went through in its first step. -/
theorem bind_eq_ok {first : EStateM Fault State First}
    {rest : First → EStateM Fault State Result} {result : Result} {final : State} :
    (first >>= rest) start = .ok result final ↔
      ∃ value middle, first start = .ok value middle ∧ rest value middle = .ok result final := by
  show EStateM.bind first rest start = _ ↔ _
  unfold EStateM.bind
  cases first start with
  | ok value middle =>
    constructor
    · intro ended
      exact ⟨value, middle, rfl, ended⟩
    · rintro ⟨_, _, same, ended⟩
      cases same
      exact ended
  | error fault middle =>
    constructor
    · intro ended
      cases ended
    · rintro ⟨_, _, same, _⟩
      cases same

/-- After a first step that goes through, the rest decides the end. -/
theorem bind_of_ok {first : EStateM Fault State First} {rest : First → EStateM Fault State Result}
    {value : First} {middle : State} (through : first start = .ok value middle) :
    (first >>= rest) start = rest value middle := by
  show EStateM.bind first rest start = _
  unfold EStateM.bind
  rw [through]

/-- A first step that is cut short is the end. -/
theorem bind_of_error {first : EStateM Fault State First}
    {rest : First → EStateM Fault State Result} {fault : Fault} {middle : State}
    (cut : first start = .error fault middle) : (first >>= rest) start = .error fault middle := by
  show EStateM.bind first rest start = _
  unfold EStateM.bind
  rw [cut]

/-- What is asked of the end may speak of how the work ends. -/
theorem Ends.withEnd {work : EStateM Fault State Result} (ends : Ends work start given failed) :
    Ends work start (fun result final => work start = .ok result final ∧ given result final)
      fun fault final => work start = .error fault final ∧ failed fault final := by
  unfold Ends at ends ⊢
  cases ended : work start with
  | ok result final =>
    rw [ended] at ends
    exact ⟨rfl, ends⟩
  | error fault final =>
    rw [ended] at ends
    exact ⟨rfl, ends⟩

/-- Work that goes through ends as is said of a result. -/
theorem Ends.of_ok {work : EStateM Fault State Result} {result : Result} {final : State}
    (ends : Ends work start given failed) (through : work start = .ok result final) :
    given result final := by
  unfold Ends at ends
  rw [through] at ends
  exact ends

/-- Work that is cut short ends as is said of a fault. -/
theorem Ends.of_error {work : EStateM Fault State Result} {fault : Fault} {final : State}
    (ends : Ends work start given failed) (cut : work start = .error fault final) :
    failed fault final := by
  unfold Ends at ends
  rw [cut] at ends
  exact ends

end

/-! ### What work gives -/

/-- What some work gives has a property, whatever it begins with. -/
def Gives (property : Result → Prop) (work : EStateM Fault State Result) : Prop :=
  ∀ start, Ends work start (fun result _ => property result) fun _ _ => True

section

variable {property : Result → Prop}

theorem gives_pure {result : Result} (holds : property result) :
    Gives property (pure result : EStateM Fault State Result) :=
  fun _ => holds

theorem Gives.weaken {other : Result → Prop} {work : EStateM Fault State Result}
    (gives : Gives property work) (weaker : ∀ result, property result → other result) :
    Gives other work :=
  fun start => Ends.weaken (gives start) (fun result _ => weaker result) fun _ _ cut => cut

/-- Work of which something is known, and work that goes on from there. -/
theorem gives_bind_of {condition : First → Prop} {first : EStateM Fault State First}
    {rest : First → EStateM Fault State Result} (known : Gives condition first)
    (last : ∀ value, condition value → Gives property (rest value)) :
    Gives property (first >>= rest) := by
  intro start
  rw [ends_bind]
  exact (known start).weaken (fun value middle holds => last value holds middle)
    fun _ _ _ => trivial

theorem gives_of_forall {work : EStateM Fault State Result} (all : ∀ result, property result) :
    Gives property work := by
  intro start
  unfold Ends
  cases work start with
  | ok result final => exact all result
  | error fault final => trivial

/-- Where nothing is known of the first step, the last one decides what work gives. -/
theorem gives_bind {first : EStateM Fault State First}
    {rest : First → EStateM Fault State Result} (last : ∀ value, Gives property (rest value)) :
    Gives property (first >>= rest) :=
  gives_bind_of (gives_of_forall fun _ => trivial) fun value _ => last value

end

/-! ### The state after work -/

/-- The state in which work ends, whether it went through or not. -/
def stateAfter (work : EStateM Fault State Result) (start : State) : State :=
  match work start with
  | .ok _ final => final
  | .error _ final => final

theorem stateAfter_of_ok {work : EStateM Fault State Result} {start final : State}
    {result : Result} (through : work start = .ok result final) :
    stateAfter work start = final := by
  unfold stateAfter
  rw [through]

theorem stateAfter_of_error {work : EStateM Fault State Result} {start final : State}
    {fault : Fault} (cut : work start = .error fault final) : stateAfter work start = final := by
  unfold stateAfter
  rw [cut]

/-- Work ends in the state after it. -/
theorem ends_stateAfter (work : EStateM Fault State Result) (start : State) :
    Ends work start (fun _ final => final = stateAfter work start)
      fun _ final => final = stateAfter work start := by
  unfold Ends stateAfter
  cases work start with
  | ok result final => rfl
  | error fault final => rfl

/-- Work that ends alike leaves the same state. -/
theorem stateAfter_congr {first second : EStateM Fault State Result} {start other : State}
    (same : first start = second other) : stateAfter first start = stateAfter second other := by
  unfold stateAfter
  rw [same]

/-- What holds of the state in either end holds of the state after the work. -/
theorem Ends.stateAfter {work : EStateM Fault State Result} {start : State}
    {property : State → Prop}
    (ends : Ends work start (fun _ final => property final) fun _ final => property final) :
    property (stateAfter work start) := by
  unfold Ends at ends
  unfold Scriptling.stateAfter
  cases ended : work start with
  | ok result final =>
    rw [ended] at ends
    exact ends
  | error fault final =>
    rw [ended] at ends
    exact ends

end Scriptling
