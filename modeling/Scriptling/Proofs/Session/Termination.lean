/-
This file proves that every run with a budget comes to an end. An evaluation has
fuel for so many nodes on its way down, and it must be shown that some fuel is
always enough. Between two statements it only goes down one expression, and no
expression is higher than the statement it stands in. Every round of a loop and
every call begins a statement, and only so many may be begun. So the fuel that is
needed is the height of the highest statement for every statement in the budget.

Functions can be redefined while a run goes on, but only by definitions that
stand in its statements. So no statement that is ever executed is higher than the
program and the functions the session had before.
-/

import Scriptling.Proofs.Session.Fuel
import Scriptling.Proofs.Session.Invariant
import Scriptling.Proofs.Tree.Height

namespace Scriptling

/-- The bodies of a session's functions are no higher than a height, and the count of statements
is between two numbers. -/
structure Session.Within (height least most : Nat) (session : Session) : Prop where
  functions : session.EachFunction fun function => function.body.height ≤ height
  least : least ≤ session.steps
  most : session.steps ≤ most

theorem Session.Within.mono {height least fewer most : Nat} {session : Session}
    (within : session.Within height least most) (le : fewer ≤ least) :
    session.Within height fewer most :=
  ⟨within.functions, Nat.le_trans le within.least, within.most⟩

/-- When at least so many statements have been begun before, some work does not lack fuel, and so
many have been begun after it. What it gives satisfies a condition. If it is cut short, then no more
than one statement too many has been counted. -/
def Lasts {Result : Type} (height most before after : Nat) (condition : Result → Prop)
    (work : Run Result) : Prop :=
  ∀ session : Session, session.Within height before most →
    Ends work session (fun result final => final.Within height after most ∧ condition result)
      fun abort final => abort ≠ .outOfFuel ∧ final.steps ≤ most + 1

section

variable {height most before middle after : Nat} {First Second : Type}

theorem Lasts.mono {condition : First → Prop} {work : Run First} {fewer : Nat}
    (lasts : Lasts height most before after condition work) (le : fewer ≤ after) :
    Lasts height most before fewer condition work :=
  fun session within => (lasts session within).weaken
    (fun _ _ kept => ⟨kept.1.mono le, kept.2⟩) fun _ _ cut => cut

end

/-! ### Loops and chains -/

namespace Machine

variable {height most before : Nat}

end Machine

/-! ### Whole runs -/

namespace Run

/-- From some fuel on, work does not lack any, and more of it does not change how it ends. -/
def Terminates {Result : Type} (bound : Nat) (work : Nat → Run Result) (session : Session) : Prop :=
  ∀ fuel ≥ bound, ¬Exhausted (work fuel session) ∧ work fuel session = work bound session

/-- A run does not lack fuel at its end if it did not before. -/
theorem not_exhausted_finished {Result : Type} {run : Run Result} {session : Session}
    (enough : ¬Exhausted (run session)) : ¬Exhausted (finished run session) := by
  have finishes (abort? : Option Abort) (after : Session) :
      Ends (finish abort?) after (fun _ _ => True) fun abort _ => abort ≠ .outOfFuel := by
    refine ((sessionInvariant_eachFunction fun _ => True).ends_finish abort?
      fun _ _ => trivial).weaken (fun _ _ _ => trivial) ?_
    rintro _ _ ⟨-, fault, rfl⟩
    exact Abort.noConfusion
  rw [not_exhausted_iff, ends_finished]
  exact (not_exhausted_iff.mp enough).weaken (fun _ after _ => finishes none after)
    fun abort after cut => (finishes (some abort) after).weaken (fun _ _ _ => cut)
      fun _ _ cut => cut

theorem Terminates.finished {Result : Type} {bound : Nat} {work : Nat → Run Result}
    {session : Session} (ends : Terminates bound work session) :
    Terminates bound (fun fuel => Run.finished (work fuel)) session :=
  fun fuel enough => ⟨not_exhausted_finished (ends fuel enough).1,
    finished_congr (ends fuel enough).2⟩

section

variable (limits : Limits) {most : Nat} (limited : limits.steps = some most) (session : Session)

include limited

end

end Run

end Scriptling
