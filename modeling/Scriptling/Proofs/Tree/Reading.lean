/-
This file follows a reader through the steps it is made of. Each of them looks
at the next token and then takes it, leaves it or refuses it. In between, tokens
may be skipped up to one to stop at.
-/

import Scriptling.Proofs.Steps
import Scriptling.Tree.Cursor

namespace Scriptling

namespace Cursor

/-! ### The tokens ahead -/

theorem current_of_nil {cursor : Cursor} (nothing : cursor.ahead = []) :
    cursor.current = cursor.finish := by
  unfold Cursor.current
  rw [nothing]
  rfl

theorem ahead_eq_cons {cursor : Cursor} (more : cursor.ahead ≠ []) :
    cursor.ahead = cursor.current :: cursor.advance.ahead := by
  obtain ⟨ahead, finish, taken, depths⟩ := cursor
  obtain ⟨token, rest, rfl⟩ := List.exists_cons_of_ne_nil more
  rfl

theorem ahead_skipUntil (stop : Token → Bool) (cursor : Cursor) :
    (cursor.skipUntil stop).ahead = cursor.ahead.dropWhile fun token => !stop token := by
  let skip (token : Token) : Bool := !stop token
  have split : (cursor.ahead.takeWhile skip ++ cursor.ahead.dropWhile skip).drop
      (cursor.ahead.takeWhile skip).length = cursor.ahead.dropWhile skip := List.drop_left
  rw [List.takeWhile_append_dropWhile] at split
  exact split

/-- Skipping ends at a token to stop at, or at the end of the input. -/
theorem current_skipUntil (stop : Token → Bool) (cursor : Cursor) :
    stop (cursor.skipUntil stop).current = true ∨ (cursor.skipUntil stop).ahead = [] := by
  cases left : (cursor.skipUntil stop).ahead with
  | nil => exact Or.inr rfl
  | cons token rest =>
    left
    have current : (cursor.skipUntil stop).current = token := by
      unfold Cursor.current
      rw [left]
      rfl
    have kept := List.head?_dropWhile_not (fun token => !stop token) cursor.ahead
    rw [← ahead_skipUntil, left] at kept
    rw [current]
    simpa using kept

theorem current_skipNewlines (cursor : Cursor) :
    cursor.skipNewlines.current.kind ≠ .newline ∨ cursor.skipNewlines.ahead = [] :=
  (cursor.current_skipUntil fun token => token.kind != .newline).imp_left bne_iff_ne.mp

theorem current_toNewline (cursor : Cursor) :
    cursor.toNewline.current.kind = .newline ∨ cursor.toNewline.ahead = [] :=
  (cursor.current_skipUntil fun token => token.kind == .newline).imp_left eq_of_beq

/-- A newline that comes next is skipped. -/
theorem skipNewlines_advance {cursor : Cursor} {token : Token} {rest : List Token}
    (next : cursor.ahead = token :: rest) (newline : token.kind = .newline) :
    cursor.advance.skipNewlines = cursor.skipNewlines := by
  obtain ⟨ahead, finish, taken, depths⟩ := cursor
  subst next
  let skip (other : Token) : Bool := !(other.kind != .newline)
  have skipped : skip token = true := by
    show (!(token.kind != .newline)) = true
    rw [newline]
    rfl
  show _ = Cursor.mk ((token :: rest).drop ((token :: rest).takeWhile skip).length) finish
    (taken + ((token :: rest).takeWhile skip).length) depths
  rw [List.takeWhile_cons_of_pos skipped, List.length_cons, List.drop_succ_cons,
    Nat.add_comm _ 1, ← Nat.add_assoc]
  rfl

end Cursor

/-! ### Steps of a reader -/

namespace Reader

variable {Result : Type} {cursor : Cursor} {refused : Diagnostic → Cursor → Prop}

theorem ends_take {given : Token → Cursor → Prop} :
    Ends take cursor given refused ↔ given cursor.current cursor.advance :=
  Iff.rfl

theorem ends_sees {kind : TokenKind} {given : Bool → Cursor → Prop} :
    Ends (sees kind) cursor given refused ↔ given (cursor.current.kind == kind) cursor :=
  Iff.rfl

theorem ends_skipNewlines {given : Unit → Cursor → Prop} :
    Ends skipNewlines cursor given refused ↔ given () cursor.skipNewlines :=
  Iff.rfl

theorem ends_accept {kind : TokenKind} {given : Bool → Cursor → Prop} :
    Ends (accept kind) cursor given refused ↔
      if cursor.current.kind = kind then given true cursor.advance else given false cursor := by
  unfold accept
  rw [ends_bind, ends_sees]
  by_cases same : cursor.current.kind = kind
  · rw [if_pos (beq_iff_eq.mpr same), if_pos same]
    exact Iff.rfl
  · rw [if_neg (mt beq_iff_eq.mp same), if_neg same]
    exact Iff.rfl

theorem ends_expect {kind : TokenKind} {expected : Expectation}
    {given : Token → Cursor → Prop} :
    Ends (expect kind expected) cursor given refused ↔
      if cursor.current.kind = kind then given cursor.current cursor.advance
      else refused (cursor.current.unexpected expected) cursor := by
  unfold expect
  rw [ends_bind, ends_sees]
  by_cases same : cursor.current.kind = kind
  · rw [if_pos (beq_iff_eq.mpr same), if_pos same]
    exact Iff.rfl
  · rw [if_neg (mt beq_iff_eq.mp same), if_neg same]
    exact Iff.rfl

end Reader

end Scriptling
