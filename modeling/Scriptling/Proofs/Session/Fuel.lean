/-
This file says what fuel has to do with a run. A run that does not end for lack
of fuel ends in the very same way when it is given more, and it comes to the
same nodes on its way.
-/

import Scriptling.Proofs.Session.Watched

namespace Scriptling

/-- Work ended for lack of fuel. -/
def Exhausted {State Result : Type} (ended : EStateM.Result Abort State Result) : Prop :=
  ∃ final, ended = .error .outOfFuel final

theorem exhausted_bind {State First Second : Type} {first : EStateM Abort State First}
    {rest : First → EStateM Abort State Second} {start : State}
    (exhausted : Exhausted (first start)) : Exhausted ((first >>= rest) start) := by
  obtain ⟨final, ended⟩ := exhausted
  refine ⟨final, ?_⟩
  show EStateM.bind first rest start = _
  unfold EStateM.bind
  rw [ended]

theorem not_exhausted_iff {State Result : Type} {work : EStateM Abort State Result}
    {start : State} :
    ¬Exhausted (work start) ↔
      Ends work start (fun _ _ => True) fun abort _ => abort ≠ .outOfFuel := by
  unfold Ends
  cases ended : work start with
  | ok result final => exact iff_of_true (fun ⟨_, same⟩ => nomatch same) trivial
  | error abort final =>
    refine not_congr ⟨?_, ?_⟩
    · rintro ⟨_, same⟩
      cases same
      rfl
    · rintro rfl
      exact ⟨final, rfl⟩

namespace Watched

variable {Result : Type}

/-- The first work ends as the second does, unless it lacks fuel. -/
def Spares (first second : Watched Result) : Prop :=
  ∀ watch, Exhausted (first watch) ∨ first watch = second watch

theorem spares_refl (work : Watched Result) : Spares work work :=
  fun _ => Or.inr rfl

theorem spares_bind {First Second : Type} {condition : First → Prop} {first second : Watched First}
    {firstRest secondRest : First → Watched Second} (spares : Spares first second)
    (gives : Gives condition first)
    (rest : ∀ value, condition value → Spares (firstRest value) (secondRest value)) :
    Spares (first >>= firstRest) (second >>= secondRest) := by
  intro watch
  rcases spares watch with exhausted | same
  · exact Or.inl (exhausted_bind exhausted)
  · show Exhausted (EStateM.bind first firstRest watch) ∨
      EStateM.bind first firstRest watch = EStateM.bind second secondRest watch
    unfold EStateM.bind
    rw [← same]
    cases ended : first watch with
    | ok value middle => exact rest value ((gives watch).of_ok ended) middle
    | error abort middle => exact Or.inr rfl

theorem spares_closing {first second : Watched Result} (spares : Spares first second) :
    Spares (closing first) (closing second) := by
  intro watch
  unfold closing
  rcases spares watch with ⟨final, ended⟩ | same
  · rw [ended]
    exact Or.inl ⟨_, rfl⟩
  · rw [same]
    exact Or.inr rfl

theorem spares_inCall {first second : Watched Result} (spares : Spares first second)
    (parameters : List Name) (values : List Value) :
    Spares (inCall parameters values first) (inCall parameters values second) :=
  spares_bind (spares_refl (act (Run.openCall parameters values)))
    (gives_of_forall fun _ => trivial) fun _ _ => spares_closing spares

/-- Work belongs with the same work on more fuel. -/
def sparing : Coupling Watched Watched where
  holds condition first second := Spares first second ∧ Gives condition first
  pure _ holds := ⟨spares_refl _, gives_pure holds⟩
  bind first rest :=
    ⟨spares_bind first.1 first.2 fun value holds => (rest value holds).1,
      gives_bind_of first.2 fun value holds => (rest value holds).2⟩

theorem sparing_refl (work : Watched Result) : sparing.pairs work work :=
  ⟨spares_refl work, gives_of_forall fun _ => trivial⟩

theorem coupled_sparing (limits : Limits) (extra : Nat) :
    Coupled (fun _ => True) limits limits extra sparing sparing where
  widen := id
  exhausted _ _ := ⟨fun watch => Or.inl ⟨watch, rfl⟩, gives_of_forall fun _ => trivial⟩
  ask _ := sparing_refl _
  visit _ := sparing_refl _
  builtin _ _ := sparing_refl _
  settle _ := sparing_refl _
  callee _ _ _ := ⟨spares_refl _, gives_of_forall fun _ _ _ => trivial⟩
  inCall function values _ paired :=
    ⟨spares_inCall paired.1 function.parameters values, gives_of_forall fun _ => trivial⟩
  opening _ := sparing_refl _
  bind _ _ := sparing_refl _
  register _ _ := sparing_refl _
  ignore _ := sparing_refl _

section

variable {limits : Limits} {fuel more : Nat} (le : fuel ≤ more)

include le

theorem spares_evaluate (expr : Expr) :
    Spares (Machine.evaluate limits fuel expr) (Machine.evaluate limits more expr) := by
  obtain ⟨extra, rfl⟩ := Nat.exists_eq_add_of_le le
  exact (((coupled_sparing limits extra).evaluate_execute
    (fun function _ => function.body.eachFunction_of_forall fun _ => trivial) fuel).1 expr).1

theorem spares_executeAll (statements : List Stmt) :
    Spares (Machine.executeAll limits fuel statements)
      (Machine.executeAll limits more statements) := by
  obtain ⟨extra, rfl⟩ := Nat.exists_eq_add_of_le le
  exact ((coupled_sparing limits extra).executeAll
    (fun function _ => function.body.eachFunction_of_forall fun _ => trivial) fuel statements
      fun statement _ => statement.eachFunction_of_forall fun _ => trivial).1

/-- What is executed without lack of fuel is executed in the same way with more of it. -/
theorem executeAll_of_le {statements : List Stmt} {watch : Watch}
    (enough : ¬Exhausted ((Machine.executeAll limits fuel statements : Watched Unit) watch)) :
    (Machine.executeAll limits more statements : Watched Unit) watch =
      (Machine.executeAll limits fuel statements : Watched Unit) watch :=
  ((spares_executeAll le statements watch).resolve_left enough).symm

end

end Watched

namespace Run

theorem exhausted_forget {Result : Type} {ended : EStateM.Result Abort Watch Result} :
    Exhausted (Watched.forget ended) ↔ Exhausted ended := by
  constructor
  · rintro ⟨session, same⟩
    cases ended with
    | ok result watch => cases same
    | error abort watch =>
      cases same
      exact ⟨watch, rfl⟩
  · rintro ⟨watch, rfl⟩
    exact ⟨watch.session, rfl⟩

/-- What spares other work under watch ends like it in the plain run, unless it lacks fuel. -/
theorem eq_of_spares {Result : Type} {watched other : Watched Result} {run otherRun : Run Result}
    (spares : Watched.Spares watched other)
    (plain : ∀ watch, Watched.forget (watched watch) = run watch.session)
    (otherPlain : ∀ watch, Watched.forget (other watch) = otherRun watch.session)
    {session : Session} (enough : ¬Exhausted (run session)) : otherRun session = run session := by
  have same := plain ⟨session, []⟩
  have otherSame := otherPlain ⟨session, []⟩
  dsimp only at same otherSame
  rw [← same, exhausted_forget] at enough
  rw [← same, ← otherSame, (spares ⟨session, []⟩).resolve_left enough]

section

variable {limits : Limits} {fuel more : Nat} (le : fuel ≤ more) {session : Session}

include le

/-- What is evaluated without lack of fuel is evaluated in the same way with more of it. -/
theorem evaluate_of_le {expr : Expr} (enough : ¬Exhausted (evaluate limits fuel expr session)) :
    evaluate limits more expr session = evaluate limits fuel expr session :=
  eq_of_spares (Watched.spares_evaluate le expr) (Watched.forget_evaluate limits fuel expr)
    (Watched.forget_evaluate limits more expr) enough

/-- What is executed without lack of fuel is executed in the same way with more of it. -/
theorem executeAll_of_le {statements : List Stmt}
    (enough : ¬Exhausted (executeAll limits fuel statements session)) :
    executeAll limits more statements session = executeAll limits fuel statements session :=
  eq_of_spares (Watched.spares_executeAll le statements)
    (Watched.forget_executeAll limits fuel statements)
    (Watched.forget_executeAll limits more statements) enough

end

end Run

end Scriptling
