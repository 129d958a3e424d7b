/-
This file places what a reader refuses. A reader goes forward only, token by
token, and when it refuses it does so at the token before which it stands. So
every message about the grammar is about one token, and what is refused after a
statement that could not be read stands no earlier than the fault of that one.

All of this is what a reader does from two cursors that are one and the same.
-/

import Scriptling.Proofs.Tree.Guidance
import Scriptling.Tree.Source

namespace Scriptling

/-! ### Going forward -/

/-- A cursor stands further on than another by the tokens that were taken in between. -/
structure Cursor.Follows (later earlier : Cursor) : Prop where
  taken : earlier.taken ≤ later.taken
  ahead : later.ahead = earlier.ahead.drop (later.taken - earlier.taken)
  finish : later.finish = earlier.finish

namespace Cursor

/-- All tokens from a cursor on, the end of the input last. -/
def tokens (cursor : Cursor) : List Token :=
  cursor.ahead ++ [cursor.finish]

theorem Follows.refl (cursor : Cursor) : cursor.Follows cursor := by
  refine ⟨Nat.le_refl _, ?_, rfl⟩
  rw [Nat.sub_self, List.drop_zero]

theorem Follows.trans {first second third : Cursor} (later : third.Follows second)
    (earlier : second.Follows first) : third.Follows first := by
  have takenLater := later.taken
  have takenEarlier := earlier.taken
  refine ⟨Nat.le_trans takenEarlier takenLater, ?_, later.finish.trans earlier.finish⟩
  rw [later.ahead, earlier.ahead, List.drop_drop]
  congr 1
  omega

theorem follows_advance (cursor : Cursor) : cursor.advance.Follows cursor := by
  refine ⟨Nat.le_add_right _ _, ?_, rfl⟩
  show cursor.ahead.tail = cursor.ahead.drop (cursor.taken + 1 - cursor.taken)
  rw [Nat.add_sub_cancel_left, List.drop_one]

theorem follows_skipUntil (stop : Token → Bool) (cursor : Cursor) :
    (cursor.skipUntil stop).Follows cursor := by
  refine ⟨Nat.le_add_right _ _, ?_, rfl⟩
  show cursor.ahead.drop _ = cursor.ahead.drop (cursor.taken + _ - cursor.taken)
  rw [Nat.add_sub_cancel_left]

theorem follows_skipNewlines (cursor : Cursor) : cursor.skipNewlines.Follows cursor :=
  cursor.follows_skipUntil _

theorem follows_toNewline (cursor : Cursor) : cursor.toNewline.Follows cursor :=
  cursor.follows_skipUntil _

theorem Follows.length_le {later earlier : Cursor} (follows : later.Follows earlier) :
    later.ahead.length ≤ earlier.ahead.length := by
  rw [follows.ahead, List.length_drop]
  exact Nat.sub_le _ _

/-- A cursor that has taken a token has fewer of them ahead. -/
theorem Follows.shorter {later earlier : Cursor} (follows : later.Follows earlier)
    (taken : earlier.taken < later.taken) (more : earlier.ahead ≠ []) :
    later.ahead.length < earlier.ahead.length := by
  have words := List.length_pos_iff.mpr more
  rw [follows.ahead, List.length_drop]
  omega

/-- On the way to the next newline, a token that is none is left behind. -/
theorem Follows.shorter_toNewline {later earlier : Cursor} (follows : later.Follows earlier)
    (other : earlier.current.kind ≠ .newline) (more : earlier.ahead ≠ []) :
    later.toNewline.ahead.length < earlier.ahead.length := by
  have on := later.follows_toNewline.trans follows
  rcases Nat.eq_or_lt_of_le on.taken with same | further
  · -- Nothing has been taken, so the newline to go on from would be the token that is none.
    have stays := on.ahead
    rw [same, Nat.sub_self, List.drop_zero] at stays
    have current : later.toNewline.current = earlier.current := by
      unfold Cursor.current
      rw [on.finish, stays]
    rcases later.current_toNewline with newline | nothing
    · exact absurd (current ▸ newline) other
    · exact absurd (stays.symm.trans nothing) more
  · exact on.shorter further more

/-- What comes after a cursor comes after any earlier one. -/
theorem Follows.tokens {later earlier : Cursor} (follows : later.Follows earlier) :
    later.tokens <:+ earlier.tokens := by
  have suffix : later.ahead <:+ earlier.ahead := by
    rw [follows.ahead]
    exact List.drop_suffix _ _
  obtain ⟨before, split⟩ := suffix
  refine ⟨before, ?_⟩
  unfold Cursor.tokens
  rw [← split, follows.finish, List.append_assoc]

/-- The next token is the first of all that come. -/
theorem tokens_eq_cons (cursor : Cursor) : ∃ rest, cursor.tokens = cursor.current :: rest := by
  obtain ⟨ahead, finish, taken, depths⟩ := cursor
  cases ahead with
  | nil => exact ⟨[], rfl⟩
  | cons token rest => exact ⟨rest ++ [finish], rfl⟩

/-- Two cursors that are one, wherever it has come to from its origin. -/
def SameFrom (origin first second : Cursor) : Prop :=
  second = first ∧ first.Follows origin

theorem likeness_sameFrom (origin : Cursor) : Likeness (SameFrom origin) where
  current same := congrArg (Token.kind ∘ Cursor.current) same.1.symm
  following same := congrArg (Token.kind ∘ Cursor.following) same.1.symm
  advance same _ := ⟨congrArg Cursor.advance same.1, (follows_advance _).trans same.2⟩
  skipNewlines same :=
    ⟨congrArg Cursor.skipNewlines same.1, (follows_skipNewlines _).trans same.2⟩

end Cursor

/-- A message refuses a token. -/
def Token.Refused (token : Token) (diagnostic : Diagnostic) : Prop :=
  ∃ expected note, diagnostic = token.refusal expected note

/-- A message that refuses a token is about its place. -/
theorem Token.Refused.span {token : Token} {diagnostic : Diagnostic}
    (refused : token.Refused diagnostic) : diagnostic.span = some token.span := by
  obtain ⟨expected, note, rfl⟩ := refused
  cases note <;> rfl

namespace Reader

/-- Statements are read in order, and one that cannot be read is refused where its fault stands.
One that can be read has taken a token. -/
theorem orderly_statement (room : Nat) (surroundings : Surroundings) (cursor : Cursor) :
    Ends (statement room surroundings) cursor
      (fun _ after => after.Follows cursor ∧ cursor.taken < after.taken)
      fun diagnostic after => after.Follows cursor ∧ after.current.Refused diagnostic := by
  have guided := guided_statement (Cursor.likeness_sameFrom cursor) room surroundings cursor cursor
    ⟨rfl, .refl cursor⟩ trivial
  refine guided.weaken ?_ ?_
  · rintro item after ⟨taken, _, _, -, -, -, follows⟩
    exact ⟨follows, taken⟩
  · rintro diagnostic after ⟨expected, note, _, refused, -, -, follows⟩
    exact ⟨follows, expected, note, refused⟩

/-! ### Whole sources -/

/-- Every message that reading on adds to those there are refuses a token that comes. -/
theorem diagnostics_statementsAfter (items : List Stmt) (diagnostics : List Diagnostic)
    (rounds : Nat) (cursor : Cursor) :
    ∃ further, (statementsAfter (statement nestingLimit .topLevel) items diagnostics rounds
        cursor).diagnostics = diagnostics.reverse ++ further ∧
      ∀ diagnostic ∈ further, ∃ token ∈ cursor.tokens, token.Refused diagnostic := by
  induction rounds generalizing items diagnostics cursor with
  | zero => exact ⟨[], (List.append_nil _).symm, List.forall_mem_nil _⟩
  | succ rounds hypothesis =>
    have skipped := cursor.follows_skipNewlines
    have read := orderly_statement nestingLimit .topLevel cursor.skipNewlines
    unfold statementsAfter
    dsimp only
    split
    next => exact ⟨[], (List.append_nil _).symm, List.forall_mem_nil _⟩
    next =>
      split
      next item after through =>
        obtain ⟨further, found, refused⟩ := hypothesis (item :: items) diagnostics after
        have follows := (read.of_ok through).1.trans skipped
        refine ⟨further, found, fun diagnostic member => ?_⟩
        obtain ⟨token, inside, same⟩ := refused diagnostic member
        exact ⟨token, follows.tokens.mem inside, same⟩
      next first after cut =>
        obtain ⟨further, found, refused⟩ := hypothesis items (first :: diagnostics) after.toNewline
        obtain ⟨follows, refusedFirst⟩ := read.of_error cut
        have stands := follows.trans skipped
        refine ⟨first :: further, ?_, List.forall_mem_cons.mpr ⟨?_, fun diagnostic member => ?_⟩⟩
        · rw [found, List.reverse_cons, List.append_assoc]
          rfl
        · obtain ⟨rest, begins⟩ := after.tokens_eq_cons
          refine ⟨after.current, stands.tokens.mem ?_, refusedFirst⟩
          rw [begins]
          exact List.mem_cons_self
        · obtain ⟨token, inside, same⟩ := refused diagnostic member
          have later := after.follows_toNewline.trans stands
          exact ⟨token, later.tokens.mem inside, same⟩

end Reader

end Scriptling
