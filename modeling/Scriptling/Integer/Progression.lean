/-
This file writes arithmetic progressions as text. The terms are joined by a
comma and a space, and the text ends at the bound or as soon as it has reached
its limit. It also ends before a term that would not be a number of 64 bits.
-/

import Scriptling.Integer.Decimal

namespace Scriptling.Progression

/-- The length at which no more terms are added. -/
def textLimit : Nat := 492

/-- Whether a term lies before the bound in the direction of the step. -/
def continues (stop step term : Int64) : Bool :=
  (0 < step && term < stop) || (step < 0 && stop < term)

/-- The term after another, if that is a number of 64 bits. -/
def next? (step term : Int64) : Option Int64 :=
  let sum := term.toInt + step.toInt
  if Int64.minValue.toInt ≤ sum ∧ sum ≤ Int64.maxValue.toInt then some (term + step) else none

/-- A text and one more term. -/
def addTerm (text : Bytes) (term : Int64) : Bytes :=
  text ++ (if text.isEmpty then [] else ascii ", ") ++ Decimal.write term

theorem length_lt_addTerm (text : Bytes) (term : Int64) :
    text.length < (addTerm text term).length := by
  have := List.length_pos_iff.2 (Decimal.writeInt_ne_nil term.toInt)
  simp only [addTerm, Decimal.write, List.length_append]
  omega

/-- The terms from `term` on, after a text. -/
def writeAfter (stop step : Int64) (text : Bytes) (term : Int64) : Bytes :=
  if continues stop step term then
    if textLimit ≤ (addTerm text term).length then addTerm text term
    else
      match next? step term with
      | some next => writeAfter stop step (addTerm text term) next
      | none => addTerm text term
  else text
termination_by textLimit - text.length
decreasing_by
  have := length_lt_addTerm text term
  omega

/-- The text of a progression. -/
def write (start stop step : Int64) : Bytes :=
  writeAfter stop step [] start

end Scriptling.Progression
