/-
This file proves that reading a source takes every word of it once and never the
end of the input. A cursor counts the tokens that were taken, so it can be told
from any cursor whether the end was ever among them: then the tokens taken and
the words ahead are more than the words of the source, and they stay more however
far one reads on.

So a reader that ends with as many as there are has taken only words, in their
order. A program is read until no word is left, whatever is wrong with it, and
therefore every string that is not closed is reported.
-/

import Scriptling.Proofs.Tree.Recovery

namespace Scriptling

namespace Cursor

/-! ### Tokens taken and ahead -/

/-- The tokens that were taken and the words ahead. -/
def reckoned (cursor : Cursor) : Nat :=
  cursor.taken + cursor.ahead.length

theorem reckoned_advance {cursor : Cursor} (more : cursor.ahead ≠ []) :
    cursor.advance.reckoned = cursor.reckoned := by
  have word := List.length_pos_iff.mpr more
  show cursor.taken + 1 + cursor.ahead.tail.length = cursor.taken + cursor.ahead.length
  rw [List.length_tail]
  omega

/-- Taking the end of the input is the one thing that counts more. -/
theorem reckoned_advance_of_nil {cursor : Cursor} (nothing : cursor.ahead = []) :
    cursor.advance.reckoned = cursor.reckoned + 1 := by
  show cursor.taken + 1 + cursor.ahead.tail.length = cursor.taken + cursor.ahead.length + 1
  rw [nothing, List.tail_nil]
  omega

theorem reckoned_skipUntil (stop : Token → Bool) (cursor : Cursor) :
    (cursor.skipUntil stop).reckoned = cursor.reckoned := by
  have shorter := (List.takeWhile_prefix (fun token => !stop token) (l := cursor.ahead)).length_le
  show cursor.taken + _ + (cursor.ahead.drop _).length = cursor.taken + cursor.ahead.length
  rw [List.length_drop]
  omega

/-- Reading on never counts less, so the end of the input once taken is counted ever after. -/
theorem Follows.reckoned_le {later earlier : Cursor} (follows : later.Follows earlier) :
    earlier.reckoned ≤ later.reckoned := by
  have taken := follows.taken
  unfold reckoned
  rw [follows.ahead, List.length_drop]
  omega

/-- A cursor in a source of so many words has taken only words. -/
structure Thrifty (words : Nat) (cursor : Cursor) : Prop where
  reckoned : cursor.reckoned = words
  finish : cursor.finish.kind = .endOfInput

namespace Thrifty

variable {words : Nat} {cursor : Cursor} (thrifty : cursor.Thrifty words)

include thrifty

/-- Past a word as many have been taken as there were. -/
theorem advance (word : cursor.current.kind ≠ .endOfInput) : cursor.advance.Thrifty words := by
  have more : cursor.ahead ≠ [] := fun nothing =>
    word (current_of_nil nothing ▸ thrifty.finish)
  exact ⟨(reckoned_advance more).trans thrifty.reckoned, thrifty.finish⟩

theorem skipUntil (stop : Token → Bool) : (cursor.skipUntil stop).Thrifty words :=
  ⟨(reckoned_skipUntil stop cursor).trans thrifty.reckoned, thrifty.finish⟩

theorem skipNewlines : cursor.skipNewlines.Thrifty words :=
  thrifty.skipUntil _

theorem toNewline : cursor.toNewline.Thrifty words :=
  thrifty.skipUntil _

end Thrifty

/-- Two cursors that are one, which has come from its origin and taken only words. -/
def SameThrifty (words : Nat) (origin first second : Cursor) : Prop :=
  SameFrom origin first second ∧ first.Thrifty words

theorem likeness_sameThrifty (words : Nat) (origin : Cursor) :
    Likeness (SameThrifty words origin) where
  current same := (likeness_sameFrom origin).current same.1
  following same := (likeness_sameFrom origin).following same.1
  advance same word := ⟨(likeness_sameFrom origin).advance same.1 word, same.2.advance word⟩
  skipNewlines same := ⟨(likeness_sameFrom origin).skipNewlines same.1, same.2.skipNewlines⟩

end Cursor

namespace Reader

/-! ### Readers that take only words -/

section

variable {Result : Type} {words : Nat} {cursor : Cursor}

/-- A reader that is guided by the kinds never takes the end of the input, whether it gives a
result or refuses a token. -/
theorem thrifty_of_guided {least : Nat} {reader : Reader Result}
    (guided : Guided (Cursor.SameThrifty words cursor) least reader reader)
    (thrifty : cursor.Thrifty words) :
    Ends reader cursor (fun _ after => after.Thrifty words ∧ after.Follows cursor)
      fun _ after => after.Thrifty words ∧ after.Follows cursor := by
  refine (guided cursor cursor ⟨⟨rfl, .refl cursor⟩, thrifty⟩ trivial).weaken ?_ ?_
  · rintro result after ⟨-, _, _, -, -, ⟨-, follows⟩, stays⟩
    exact ⟨stays, follows⟩
  · rintro diagnostic after ⟨_, _, _, -, -, ⟨-, follows⟩, stays⟩
    exact ⟨stays, follows⟩

theorem thrifty_statement (room : Nat) (surroundings : Surroundings)
    (thrifty : cursor.Thrifty words) :
    Ends (statement room surroundings) cursor
      (fun _ after => after.Thrifty words ∧ after.Follows cursor)
      fun _ after => after.Thrifty words ∧ after.Follows cursor :=
  thrifty_of_guided (guided_statement (Cursor.likeness_sameThrifty words cursor) room surroundings)
    thrifty

/-- An expression that spans a source ends before its end. -/
theorem thrifty_wholeExpression (thrifty : cursor.Thrifty words) :
    Ends wholeExpression cursor
      (fun _ after => (after.Thrifty words ∧ after.Follows cursor) ∧
        after.current.kind = .endOfInput)
      fun _ after => after.Thrifty words ∧ after.Follows cursor := by
  have likeness := Cursor.likeness_sameThrifty words cursor
  unfold wholeExpression
  rw [ends_bind]
  refine (thrifty_of_guided (guided_expression likeness nestingLimit) thrifty).weaken ?_
    fun _ _ stays => stays
  rintro value after ⟨stays, follows⟩
  have skipped := after.follows_skipNewlines.trans follows
  rw [ends_bind, ends_skipNewlines, ends_bind, ends_sees]
  by_cases ends : after.skipNewlines.current.kind = .endOfInput
  · rw [if_pos (beq_iff_eq.mpr ends)]
    exact ⟨⟨stays.skipNewlines, skipped⟩, ends⟩
  · rw [if_neg (mt beq_iff_eq.mp ends)]
    exact ⟨stays.skipNewlines, skipped⟩

end

/-! ### Rounds -/

section

variable {words : Nat} {cursor after : Cursor} (thrifty : cursor.Thrifty words)

include thrifty

/-- Where fewer words are ahead, more have been taken. -/
theorem taken_of_fewer (later : after.Thrifty words)
    (fewer : after.ahead.length < cursor.ahead.length) : cursor.taken < after.taken := by
  have before : cursor.taken + cursor.ahead.length = words := thrifty.reckoned
  have since : after.taken + after.ahead.length = words := later.reckoned
  omega

/-- A round that gives a statement takes words only, and one at least. -/
theorem thrifty_round_ok {item : Stmt} (through : round cursor = some (.ok item after)) :
    after.Thrifty words ∧ cursor.taken < after.taken := by
  have fewer := (round_ok thrifty.finish through).2
  have read := (round_eq_some.mp through).2
  have later := ((thrifty_statement _ _ thrifty.skipNewlines).of_ok read).1
  exact ⟨later, taken_of_fewer thrifty later fewer⟩

/-- So does a round that fails, with the words that are passed over up to the next newline. -/
theorem thrifty_round_error {diagnostic : Diagnostic}
    (cut : round cursor = some (.error diagnostic after)) :
    after.toNewline.Thrifty words ∧ cursor.taken < after.toNewline.taken := by
  have fewer := (round_error thrifty.finish cut).2
  have read := (round_eq_some.mp cut).2
  have later := ((thrifty_statement _ _ thrifty.skipNewlines).of_error read).1.toNewline
  exact ⟨later, taken_of_fewer thrifty later fewer⟩

end

/-- As many rounds as there are words lead to the end of the input, and to no end beyond it. -/
theorem stopped_statementsAfter {words : Nat} (items : List Stmt) (diagnostics : List Diagnostic)
    {rounds : Nat} {cursor : Cursor} (thrifty : cursor.Thrifty words)
    (enough : cursor.ahead.length ≤ rounds) :
    let stopped :=
      (statementsAfter (statement nestingLimit .topLevel) items diagnostics rounds cursor).stopped
    stopped.Thrifty words ∧ stopped.current.kind = .endOfInput ∧ stopped.Follows cursor := by
  -- A round takes a word at least, so the words ahead fall as the rounds do.
  induction rounds generalizing items diagnostics cursor with
  | zero =>
    have nothing := List.eq_nil_of_length_eq_zero (Nat.le_zero.mp enough)
    exact ⟨thrifty, Cursor.current_of_nil nothing ▸ thrifty.finish, .refl cursor⟩
  | succ rounds hypothesis =>
    unfold statementsAfter
    dsimp only
    split
    next ends => exact ⟨thrifty.skipNewlines, ends, cursor.follows_skipNewlines⟩
    next more =>
      split
      next item after read =>
        have through := round_eq_some.mpr ⟨more, read⟩
        have fewer := (round_ok thrifty.finish through).2
        obtain ⟨stays, ends, follows⟩ := hypothesis (item :: items) diagnostics
          (thrifty_round_ok thrifty through).1 (by omega)
        have read := ((orderly_statement _ _ _).of_ok read).1
        exact ⟨stays, ends, follows.trans (read.trans cursor.follows_skipNewlines)⟩
      next first after read =>
        have cut := round_eq_some.mpr ⟨more, read⟩
        have fewer := (round_error thrifty.finish cut).2
        obtain ⟨stays, ends, follows⟩ := hypothesis items (first :: diagnostics)
          (thrifty_round_error thrifty cut).1 (by omega)
        have read := ((orderly_statement _ _ _).of_error read).1
        exact ⟨stays, ends, follows.trans
          (after.follows_toNewline.trans (read.trans cursor.follows_skipNewlines))⟩

end Reader

/-! ### Whole sources -/

namespace Cursor

/-- Before the first word of a source nothing has been taken. -/
theorem thrifty_ofTokens (source : Bytes) :
    (ofTokens (Tokens.ofSource source)).Thrifty (Tokens.ofSource source).words.length :=
  ⟨Nat.zero_add _, (Tokens.kind_ofSource source).1⟩

/-- Where the end of a source comes next, no word of it is ahead. -/
theorem Follows.ahead_eq_nil {source : Bytes} {cursor : Cursor}
    (follows : cursor.Follows (ofTokens (Tokens.ofSource source)))
    (ends : cursor.current.kind = .endOfInput) : cursor.ahead = [] := by
  by_contra more
  have member : cursor.current ∈ cursor.ahead :=
    ahead_eq_cons more ▸ List.mem_cons_self
  rw [follows.ahead] at member
  exact (Tokens.kind_ofSource source).2 _ (List.mem_of_mem_drop member) ends

/-- Where the end of a source comes next, every word has been taken, once each. -/
theorem Thrifty.all_taken {source : Bytes} {cursor : Cursor}
    (thrifty : cursor.Thrifty (Tokens.ofSource source).words.length)
    (follows : cursor.Follows (ofTokens (Tokens.ofSource source)))
    (ends : cursor.current.kind = .endOfInput) :
    cursor.ahead = [] ∧ cursor.taken = (Tokens.ofSource source).words.length := by
  have nothing := follows.ahead_eq_nil ends
  have reckoned : cursor.taken + cursor.ahead.length = _ := thrifty.reckoned
  rw [nothing] at reckoned
  exact ⟨nothing, reckoned⟩

/-- Whoever has taken the end of a source is never thrifty again. -/
theorem not_thrifty_of_end_taken {source : Bytes} {cursor later : Cursor}
    (follows : cursor.Follows (ofTokens (Tokens.ofSource source)))
    (ends : cursor.current.kind = .endOfInput) (follow : later.Follows cursor.advance) :
    ¬later.Thrifty (Tokens.ofSource source).words.length := by
  intro thrifty
  have before := follows.reckoned_le
  have taken := reckoned_advance_of_nil (follows.ahead_eq_nil ends)
  have since := follow.reckoned_le
  rw [(thrifty_ofTokens source).reckoned] at before
  rw [thrifty.reckoned] at since
  omega

end Cursor

/-- A fault of a token is among the messages of the program, whatever else is wrong. -/
theorem Program.mem_of_problem {source : Bytes} {token : Token}
    (member : token ∈ (Tokens.ofSource source).words) {diagnostic : Diagnostic}
    (fault : token.problem? = some diagnostic) :
    ∃ diagnostics, ofSource source = .error diagnostics ∧ diagnostic ∈ diagnostics := by
  have among : diagnostic ∈ (Tokens.ofSource source).words.filterMap Token.problem? :=
    List.mem_filterMap.mpr ⟨token, member, fault⟩
  unfold ofSource
  dsimp only
  split
  next none =>
    rw [(List.append_eq_nil_iff.mp none).1] at among
    cases among
  next =>
    exact ⟨_, rfl, (List.mergeSort_perm _ _).mem_iff.mpr (List.mem_append_left _ among)⟩

/-- Reading a source ends, and takes each of its words once and never its end. A program is read
until no word is left, whether its statements can be read or not, and each round takes a word at
least. An expression takes words only, all of them where it spans the source. Had either taken the
end, wherever that was, its cursor would not be thrifty. So the reader of a program has seen every
token, and reports each string that is not closed. -/
theorem every_word_is_taken_once (source : Bytes) :
    let tokens := Tokens.ofSource source
    let start := Cursor.ofTokens tokens
    let stopped := (Reader.statements start).stopped
    (start.Thrifty tokens.words.length ∧ stopped.current.kind = .endOfInput ∧
      stopped.ahead = [] ∧ stopped.taken = tokens.words.length) ∧
    (∀ cursor, cursor.Thrifty tokens.words.length →
      (∀ item after, Reader.round cursor = some (.ok item after) →
        after.Thrifty tokens.words.length ∧ cursor.taken < after.taken) ∧
      ∀ diagnostic after, Reader.round cursor = some (.error diagnostic after) →
        after.toNewline.Thrifty tokens.words.length ∧ cursor.taken < after.toNewline.taken) ∧
    Ends Reader.wholeExpression start
      (fun _ after => after.ahead = [] ∧ after.taken = tokens.words.length)
      (fun _ after => after.Thrifty tokens.words.length) ∧
    (∀ cursor later : Cursor, cursor.Follows start → cursor.current.kind = .endOfInput →
      later.Follows cursor.advance → ¬later.Thrifty tokens.words.length) ∧
    tokens.problemsSeen stopped = tokens.words.filterMap Token.problem? ∧
    ∀ token ∈ tokens.words, token.closed = false → ∃ diagnostic diagnostics,
      token.problem? = some diagnostic ∧ Program.ofSource source = .error diagnostics ∧
        diagnostic ∈ diagnostics := by
  intro tokens start stopped
  have thrifty : start.Thrifty tokens.words.length := Cursor.thrifty_ofTokens source
  obtain ⟨stays, ends, follows⟩ := Reader.stopped_statementsAfter [] [] thrifty (Nat.le_refl _)
  obtain ⟨nothing, taken⟩ := stays.all_taken follows ends
  refine ⟨⟨thrifty, ends, nothing, taken⟩, fun cursor begins => ⟨fun item after through => ?_,
    fun diagnostic after cut => ?_⟩, ?_, fun cursor later follows ended follow => ?_, ?_,
    fun token member opened => ?_⟩
  · exact Reader.thrifty_round_ok begins through
  · exact Reader.thrifty_round_error begins cut
  · exact (Reader.thrifty_wholeExpression thrifty).weaken
      (fun _ _ whole => whole.1.1.all_taken whole.1.2 whole.2) fun _ _ refused => refused.1
  · exact Cursor.not_thrifty_of_end_taken follows ended follow
  · unfold Tokens.problemsSeen
    rw [List.take_of_length_le (taken ▸ Nat.le_add_right _ 2)]
  · have fault : token.problem? =
        some ((Cause.unterminatedString token.span.line).placed token.span) := by
      unfold Token.problem?
      rw [opened]
      rfl
    obtain ⟨diagnostics, refused, among⟩ := Program.mem_of_problem member fault
    exact ⟨_, diagnostics, fault, refused, among⟩

/-- After three statements that cannot be read, of which one lacks its body, an open string is
reported all the same. -/
theorem open_string_after_faults_is_reported :
    let source := ascii "x = (\nbreak\nif a:\n\n) 'b"
    let tokens := Tokens.ofSource source
    let stopped := (Reader.statements (Cursor.ofTokens tokens)).stopped
    let literal : Token := ⟨.string, ascii "b", 0, ⟨21, 23, 5, 3⟩, false⟩
    tokens.words.length = 13 ∧ stopped.taken = 13 ∧ literal ∈ tokens.words ∧
    ∃ diagnostic diagnostics, literal.problem? = some diagnostic ∧
      Program.ofSource source = .error diagnostics ∧ diagnostic ∈ diagnostics ∧
      diagnostic.message = "unterminated string literal at line 5" := by
  intro source tokens stopped literal
  obtain ⟨⟨-, -, -, taken⟩, -, -, -, -, reported⟩ := every_word_is_taken_once source
  have words : tokens.words.length = 13 := by decide +kernel
  have member : literal ∈ tokens.words := by decide +kernel
  obtain ⟨diagnostic, diagnostics, fault, refused, among⟩ := reported literal member rfl
  refine ⟨words, taken.trans words, member, diagnostic, diagnostics, fault, refused, among, ?_⟩
  rw [← Option.some.inj fault]
  decide +kernel

end Scriptling
