/-
This file proves that reading recovers at the newline after a fault, whatever the
fault was. Every statement of a program is begun in the same way, so what is read
from a newline on depends on the tokens from there on alone. Those are the tokens
of the rest of the source, moved by what stands before it, and the messages about
them move along.

The reader counts its rounds, and the rest of the source has rounds of its own.
So the messages are first told without counting: each round takes a token, and
the rounds that are granted never run out.

That every statement is begun in the same way is how programs are read here. A
reader that counts the bodies and the levels it is in, and is stopped by a fault
anywhere inside of them, has put its counters back by the next statement.
-/

import Mathlib.Data.List.Forall2
import Scriptling.Proofs.Token.Resumption
import Scriptling.Proofs.Tree.Refusals
import Scriptling.Proofs.Tree.Tracking

namespace Scriptling

/-- The messages about the grammar that a source is refused with, in the order of reading. -/
def Program.refusals (source : Bytes) : List Diagnostic :=
  (Reader.statements (Cursor.ofTokens (Tokens.ofSource source))).diagnostics

/-- The same message about a token after so many more bytes and lines. The line is named in the
text as well. -/
structure Diagnostic.Moved (bytes lines : Nat) (early late : Diagnostic) : Prop where
  kind : late.kind = early.kind
  span : late.span = early.span.map (Span.moved bytes lines)
  message : ∃ expected line kind text, early.line = some line ∧
    early.message = (Cause.unexpected expected line kind text).message ∧
    late.message = (Cause.unexpected expected (line + lines) kind text).message
  notes : late.notes = early.notes

theorem Token.moved_refusal (token : Token) (expected : Expectation) (note : Option Note)
    (bytes lines : Nat) : (token.refusal expected note).Moved bytes lines
      ((token.moved bytes lines).refusal expected note) := by
  cases note with
  | none => exact ⟨rfl, rfl, ⟨expected, _, token.kind, token.text, rfl, rfl, rfl⟩, rfl⟩
  | some note => exact ⟨rfl, rfl, ⟨expected, _, token.kind, token.text, rfl, rfl, rfl⟩, rfl⟩

namespace Cursor

/-! ### Cursors further down -/

/-- The same tokens come, after so many more bytes and lines. -/
structure MovedBy (bytes lines : Nat) (early late : Cursor) : Prop where
  ahead : late.ahead = early.ahead.map (Token.moved bytes lines)
  finish : late.finish = early.finish.moved bytes lines

section

variable {bytes lines : Nat} {early late : Cursor} (moved : MovedBy bytes lines early late)

include moved

theorem MovedBy.current : late.current = early.current.moved bytes lines := by
  unfold Cursor.current
  rw [moved.ahead, moved.finish]
  cases early.ahead <;> rfl

theorem MovedBy.advance : MovedBy bytes lines early.advance late.advance := by
  refine ⟨?_, moved.finish⟩
  show late.ahead.tail = early.ahead.tail.map _
  rw [moved.ahead, List.map_tail]

/-- Where to stop is decided by the kinds of the tokens, which stay as they are. -/
theorem MovedBy.skipUntil {stop : Token → Bool}
    (unmoved : ∀ token : Token, stop (token.moved bytes lines) = stop token) :
    MovedBy bytes lines (early.skipUntil stop) (late.skipUntil stop) := by
  refine ⟨?_, moved.finish⟩
  have same : (fun token => !stop token) ∘ Token.moved bytes lines = fun token => !stop token :=
    funext fun token => congrArg not (unmoved token)
  rw [ahead_skipUntil, ahead_skipUntil, moved.ahead, List.dropWhile_map, same]

theorem MovedBy.skipNewlines : MovedBy bytes lines early.skipNewlines late.skipNewlines :=
  moved.skipUntil fun _ => rfl

end

theorem likeness_movedBy (bytes lines : Nat) : Likeness (MovedBy bytes lines) where
  current moved := by
    rw [moved.current]
    rfl
  following {early late} moved := by
    show early.advance.current.kind = late.advance.current.kind
    rw [moved.advance.current]
    rfl
  advance moved _ := moved.advance
  skipNewlines := MovedBy.skipNewlines

end Cursor

namespace Reader

/-! ### Reading round by round -/

/-- One round of reading: a statement after the newlines that come next, unless the input ends
there. Whatever came before, it is begun with all levels left and outside of every function and
loop. -/
def round (cursor : Cursor) : Option (EStateM.Result Diagnostic Cursor Stmt) :=
  if cursor.skipNewlines.current.kind = .endOfInput then none
  else some (statement nestingLimit .topLevel cursor.skipNewlines)

/-- Reading from a cursor to the end of the input gives these messages. -/
inductive Reports : Cursor → List Diagnostic → Prop
  | ended {cursor : Cursor} (ends : round cursor = none) : Reports cursor []
  | passed {cursor after : Cursor} {item : Stmt} {diagnostics : List Diagnostic}
      (through : round cursor = some (.ok item after)) (reports : Reports after diagnostics) :
      Reports cursor diagnostics
  | failed {cursor after : Cursor} {first : Diagnostic} {rest : List Diagnostic}
      (cut : round cursor = some (.error first after)) (reports : Reports after.toNewline rest) :
      Reports cursor (first :: rest)

/-- From a cursor on, the first statement that cannot be read gives this message, and reading goes
on at the next newline or at the end of the input. -/
inductive FailsFirst : Cursor → Diagnostic → Cursor → Prop
  | here {cursor after : Cursor} {first : Diagnostic}
      (cut : round cursor = some (.error first after)) : FailsFirst cursor first after.toNewline
  | later {cursor after stop : Cursor} {item : Stmt} {first : Diagnostic}
      (through : round cursor = some (.ok item after)) (fails : FailsFirst after first stop) :
      FailsFirst cursor first stop

theorem round_eq_none {cursor : Cursor} :
    round cursor = none ↔ cursor.skipNewlines.current.kind = .endOfInput := by
  unfold round
  split
  next ends => exact ⟨fun _ => ends, fun _ => rfl⟩
  next more => exact ⟨nofun, fun ends => absurd ends more⟩

theorem round_eq_some {cursor : Cursor} {result : EStateM.Result Diagnostic Cursor Stmt} :
    round cursor = some result ↔ cursor.skipNewlines.current.kind ≠ .endOfInput ∧
      statement nestingLimit .topLevel cursor.skipNewlines = result := by
  unfold round
  split
  next ends => exact ⟨nofun, fun both => absurd ends both.1⟩
  next more => exact ⟨fun same => ⟨more, Option.some.inj same⟩, fun both => congrArg some both.2⟩

section

variable {cursor after : Cursor} (ends : cursor.finish.kind = .endOfInput)

include ends

theorem round_of_nil (nothing : cursor.ahead = []) : round cursor = none := by
  have left : cursor.skipNewlines.ahead = [] := by
    unfold Cursor.skipNewlines
    rw [Cursor.ahead_skipUntil, nothing]
    rfl
  exact round_eq_none.mpr (Cursor.current_of_nil left ▸ ends)

/-- A statement is begun before a word that is no newline. -/
theorem skipNewlines_of_more (more : cursor.skipNewlines.current.kind ≠ .endOfInput) :
    cursor.skipNewlines.ahead ≠ [] ∧ cursor.skipNewlines.current.kind ≠ .newline := by
  have words : cursor.skipNewlines.ahead ≠ [] := fun nothing =>
    more (Cursor.current_of_nil nothing ▸ ends)
  exact ⟨words, cursor.current_skipNewlines.resolve_right words⟩

/-- After a round the input ends where it did, and fewer words are ahead. -/
theorem round_ok {item : Stmt} (through : round cursor = some (.ok item after)) :
    after.finish.kind = .endOfInput ∧ after.ahead.length < cursor.ahead.length := by
  obtain ⟨more, read⟩ := round_eq_some.mp through
  obtain ⟨words, -⟩ := skipNewlines_of_more ends more
  obtain ⟨follows, taken⟩ := (orderly_statement _ _ _).of_ok read
  have skipped := cursor.follows_skipNewlines.length_le
  exact ⟨follows.finish ▸ ends, Nat.lt_of_lt_of_le (follows.shorter taken words) skipped⟩

theorem round_error {diagnostic : Diagnostic}
    (cut : round cursor = some (.error diagnostic after)) :
    after.toNewline.finish.kind = .endOfInput ∧
      after.toNewline.ahead.length < cursor.ahead.length := by
  obtain ⟨more, read⟩ := round_eq_some.mp cut
  obtain ⟨words, other⟩ := skipNewlines_of_more ends more
  obtain ⟨follows, -⟩ := (orderly_statement _ _ _).of_error read
  have skipped := cursor.follows_skipNewlines.length_le
  exact ⟨follows.finish ▸ ends, Nat.lt_of_lt_of_le (follows.shorter_toNewline other words) skipped⟩

end

/-- As many rounds as there are words are enough to read to the end. -/
theorem reports_statementsAfter (items : List Stmt) (diagnostics : List Diagnostic) {rounds : Nat}
    {cursor : Cursor} (ends : cursor.finish.kind = .endOfInput)
    (enough : cursor.ahead.length ≤ rounds) :
    ∃ further, (statementsAfter (statement nestingLimit .topLevel) items diagnostics rounds
        cursor).diagnostics = diagnostics.reverse ++ further ∧ Reports cursor further := by
  -- A round takes a token at least, so the tokens fall as the rounds do.
  induction rounds generalizing items diagnostics cursor with
  | zero =>
    have nothing := List.eq_nil_of_length_eq_zero (Nat.le_zero.mp enough)
    exact ⟨[], (List.append_nil _).symm, .ended (round_of_nil ends nothing)⟩
  | succ rounds hypothesis =>
    unfold statementsAfter
    dsimp only
    split
    next done => exact ⟨[], (List.append_nil _).symm, .ended (round_eq_none.mpr done)⟩
    next more =>
      split
      next item after read =>
        have through := round_eq_some.mpr ⟨more, read⟩
        obtain ⟨endsAfter, fewer⟩ := round_ok ends through
        obtain ⟨further, found, reports⟩ :=
          hypothesis (item :: items) diagnostics endsAfter (by omega)
        exact ⟨further, found, .passed through reports⟩
      next first after read =>
        have cut := round_eq_some.mpr ⟨more, read⟩
        obtain ⟨endsAfter, fewer⟩ := round_error ends cut
        obtain ⟨further, found, reports⟩ :=
          hypothesis items (first :: diagnostics) endsAfter (by omega)
        refine ⟨first :: further, ?_, .failed cut reports⟩
        rw [found, List.reverse_cons, List.append_assoc]
        rfl

theorem reports_statements {cursor : Cursor} (ends : cursor.finish.kind = .endOfInput) :
    Reports cursor (statements cursor).diagnostics := by
  obtain ⟨further, found, reports⟩ := reports_statementsAfter [] [] ends (Nat.le_refl _)
  unfold statements
  rw [found]
  exact reports

section

variable {cursor after : Cursor} {diagnostics : List Diagnostic}
  (reports : Reports cursor diagnostics)

include reports

theorem Reports.of_none (ends : round cursor = none) : diagnostics = [] := by
  cases reports with
  | ended => rfl
  | passed through => cases ends.symm.trans through
  | failed cut => cases ends.symm.trans cut

theorem Reports.of_ok {item : Stmt} (through : round cursor = some (.ok item after)) :
    Reports after diagnostics := by
  cases reports with
  | ended ends => cases ends.symm.trans through
  | passed other reports =>
    cases through.symm.trans other
    exact reports
  | failed cut => cases through.symm.trans cut

theorem Reports.of_error {first : Diagnostic} (cut : round cursor = some (.error first after)) :
    ∃ rest, diagnostics = first :: rest ∧ Reports after.toNewline rest := by
  cases reports with
  | ended ends => cases ends.symm.trans cut
  | passed through => cases cut.symm.trans through
  | failed other reports =>
    cases cut.symm.trans other
    exact ⟨_, rfl, reports⟩

end

/-- Where there is a first message, a statement gives it, and the others are reported from where
reading goes on. -/
theorem Reports.failsFirst {cursor : Cursor} {first : Diagnostic} {rest : List Diagnostic}
    (reports : Reports cursor (first :: rest)) :
    ∃ stop, FailsFirst cursor first stop ∧ Reports stop rest := by
  generalize all : first :: rest = diagnostics at reports
  induction reports with
  | ended => cases all
  | passed through _ hypothesis =>
    obtain ⟨stop, fails, others⟩ := hypothesis all
    exact ⟨stop, .later through fails, others⟩
  | failed cut reports =>
    cases all
    exact ⟨_, .here cut, reports⟩

/-! ### Reading further down -/

section

variable {bytes lines : Nat} {early late after : Cursor}
  (skipped : Cursor.MovedBy bytes lines early.skipNewlines late.skipNewlines)

include skipped

theorem round_moved_of_none (ends : round early = none) : round late = none := by
  rw [round_eq_none] at ends ⊢
  rw [← (Cursor.likeness_movedBy bytes lines).current skipped]
  exact ends

theorem round_moved_of_ok {item : Stmt} (through : round early = some (.ok item after)) :
    ∃ other final, round late = some (.ok other final) ∧
      Cursor.MovedBy bytes lines after final := by
  have likeness := Cursor.likeness_movedBy bytes lines
  obtain ⟨more, read⟩ := round_eq_some.mp through
  obtain ⟨-, other, final, same, -, moved⟩ :=
    (guided_statement likeness nestingLimit .topLevel _ _ skipped trivial).of_ok read
  rw [likeness.current skipped] at more
  exact ⟨other, final, round_eq_some.mpr ⟨more, same⟩, moved⟩

theorem round_moved_of_error {diagnostic : Diagnostic}
    (cut : round early = some (.error diagnostic after)) :
    ∃ other final, round late = some (.error other final) ∧ diagnostic.Moved bytes lines other ∧
      Cursor.MovedBy bytes lines after final := by
  have likeness := Cursor.likeness_movedBy bytes lines
  obtain ⟨more, read⟩ := round_eq_some.mp cut
  obtain ⟨expected, note, final, rfl, same, moved⟩ :=
    (guided_statement likeness nestingLimit .topLevel _ _ skipped trivial).of_error read
  rw [likeness.current skipped] at more
  refine ⟨_, final, round_eq_some.mpr ⟨more, same⟩, ?_, moved⟩
  rw [moved.current]
  exact Token.moved_refusal _ _ _ _ _

/-- What is reported further down is what is reported further up, moved. -/
theorem Reports.forall₂_moved {first second : List Diagnostic} (one : Reports early first)
    (other : Reports late second) : List.Forall₂ (Diagnostic.Moved bytes lines) first second := by
  induction one generalizing late second with
  | ended ends =>
    rw [other.of_none (round_moved_of_none skipped ends)]
    exact .nil
  | passed through _ hypothesis =>
    obtain ⟨_, final, same, moved⟩ := round_moved_of_ok skipped through
    exact hypothesis moved.skipNewlines (other.of_ok same)
  | failed cut _ hypothesis =>
    obtain ⟨diagnostic, final, same, movedFirst, moved⟩ := round_moved_of_error skipped cut
    obtain ⟨rest, rfl, reports⟩ := other.of_error same
    exact .cons movedFirst (hypothesis (moved.skipUntil fun _ => rfl).skipNewlines reports)

end

/-- Where reading goes on comes after the statements that were read, before a newline or at the
end of the input. -/
theorem FailsFirst.stands {cursor stop : Cursor} {first : Diagnostic}
    (fails : FailsFirst cursor first stop) :
    stop.Follows cursor ∧ (stop.current.kind = .newline ∨ stop.ahead = []) := by
  induction fails with
  | @here cursor after first cut =>
    obtain ⟨-, read⟩ := round_eq_some.mp cut
    have follows := ((orderly_statement _ _ _).of_error read).1
    exact ⟨after.follows_toNewline.trans (follows.trans cursor.follows_skipNewlines),
      after.current_toNewline⟩
  | @later cursor after stop item first through _ hypothesis =>
    obtain ⟨-, read⟩ := round_eq_some.mp through
    have follows := ((orderly_statement _ _ _).of_ok read).1
    exact ⟨hypothesis.1.trans (follows.trans cursor.follows_skipNewlines), hypothesis.2⟩

end Reader

/-! ### The rest of the source -/

theorem Program.reports_ofSource (source : Bytes) :
    Reader.Reports (Cursor.ofTokens (Tokens.ofSource source)) (refusals source) :=
  Reader.reports_statements (Tokens.kind_ofSource source).1

theorem Program.refusals_nil : refusals [] = [] := by
  have tokens : Tokens.ofSource [] = ⟨[], Tokens.finishAt Position.start⟩ :=
    Tokens.scanAfter_of_nil rfl
  unfold refusals
  rw [tokens]
  rfl

/-- Before a newline of a source the same comes as from that newline on in the rest of it. -/
theorem Cursor.Follows.movedBy {source : Bytes} {stop : Cursor}
    (follows : stop.Follows (ofTokens (Tokens.ofSource source)))
    (newline : stop.current.kind = .newline) :
    MovedBy stop.current.span.start
      ((Position.start.advance (source.take stop.current.span.start)).line - 1)
      (ofTokens (Tokens.ofSource (source.drop stop.current.span.start))).skipNewlines
      stop.skipNewlines := by
  have more : stop.ahead ≠ [] := by
    intro nothing
    rw [current_of_nil nothing, follows.finish] at newline
    cases newline.symm.trans (Tokens.kind_ofSource source).1
  have split := ahead_eq_cons more
  have words : (Tokens.ofSource source).words = (Tokens.ofSource source).words.take stop.taken ++
      stop.current :: stop.advance.ahead := by
    rw [← split, follows.ahead]
    exact (List.take_append_drop _ _).symm
  obtain ⟨first, others, found, kind, same⟩ := Tokens.ofSource_drop words newline
  rw [← skipNewlines_advance split newline, ← skipNewlines_advance found kind]
  refine MovedBy.skipNewlines ⟨?_, follows.finish.trans (congrArg Tokens.finish same)⟩
  show _ = (Tokens.ofSource _).words.tail.map _
  rw [found]
  exact congrArg Tokens.words same

/-- After the first statement that cannot be read, reading goes on at a newline, or the input
ends. The messages that follow are those for the rest of the source from there on, moved by the
bytes and the lines before it. A reader that counts functions, loops and levels reads the same, and
all its counters are at zero whenever it begins a statement of the program. -/
theorem reading_resumes_at_newline {source : Bytes} {first : Diagnostic} {rest : List Diagnostic}
    (found : Program.refusals source = first :: rest) :
    (∃ stop, Reader.FailsFirst (Cursor.ofTokens (Tokens.ofSource source)) first stop ∧
      (stop.current.kind = .newline ∨ stop.current.kind = .endOfInput) ∧
      let offset := stop.current.span.start
      let lines := (Position.start.advance (source.take offset)).line - 1
      List.Forall₂ (Diagnostic.Moved offset lines) (Program.refusals (source.drop offset))
        rest) ∧
    ∀ fuel, nestingLimit ≤ fuel →
      let start := Cursor.ofTokens (Tokens.ofSource source)
      Reader.statementsAfter (Tracking.statement fuel) [] [] start.ahead.length start =
        Reader.statements start ∧
      ∀ begun, Tracking.Begins (Tracking.statement fuel) start begun →
        begun.depths = ⟨0, 0, 0⟩ := by
  refine ⟨?_, fun fuel enough => Tracking.statements_alike enough (Tokens.ofSource source)⟩
  have reports := Program.reports_ofSource source
  rw [found] at reports
  obtain ⟨stop, fails, others⟩ := reports.failsFirst
  obtain ⟨follows, stands⟩ := fails.stands
  refine ⟨stop, fails, ?_⟩
  rcases stands with newline | nothing
  · exact ⟨Or.inl newline, (Program.reports_ofSource _).forall₂_moved (follows.movedBy newline)
      others⟩
  · have current := (Cursor.current_of_nil nothing).trans follows.finish
    have kindFinish := (Tokens.kind_ofSource source).1
    have ends : stop.current.kind = .endOfInput := current ▸ kindFinish
    have drop : source.drop stop.current.span.start = [] := by
      rw [current]
      exact Tokens.drop_finish source
    have done := others.of_none (Reader.round_of_nil (follows.finish ▸ kindFinish) nothing)
    dsimp only
    rw [drop, Program.refusals_nil, done]
    exact ⟨Or.inr ends, .nil⟩

/-- A fault in a parenthesis, in a loop, in a function: what follows is outside of all three. -/
theorem fault_in_loop_is_left_behind :
    let source := ascii "def f(a):\n while a: x = (1\ny = (2)\nreturn y\nbreak\n"
    let start := Cursor.ofTokens (Tokens.ofSource source)
    (Program.refusals source).map Diagnostic.message =
      ["expected ')' at line 2, got NEWLINE ''",
        "expected statement at line 4, got KEYWORD 'return'",
        "expected statement at line 5, got KEYWORD 'break'"] ∧
    (∃ first rest stop, Program.refusals source = first :: rest ∧
      Reader.FailsFirst start first stop ∧
      let offset := stop.current.span.start
      let lines := (Position.start.advance (source.take offset)).line - 1
      List.Forall₂ (Diagnostic.Moved offset lines) (Program.refusals (source.drop offset))
        rest) ∧
    Reader.statementsAfter (Tracking.statement nestingLimit) [] [] start.ahead.length start =
      Reader.statements start ∧
    ∀ begun, Tracking.Begins (Tracking.statement nestingLimit) start begun →
      begun.depths = ⟨0, 0, 0⟩ := by
  intro source start
  have refused : 0 < (Program.refusals source).length := by decide +kernel
  obtain ⟨first, rest, found⟩ := List.exists_cons_of_length_pos refused
  obtain ⟨⟨stop, fails, -, moved⟩, counted⟩ := reading_resumes_at_newline found
  exact ⟨by decide +kernel, ⟨first, rest, stop, found, fails, moved⟩,
    counted nestingLimit (Nat.le_refl _)⟩

end Scriptling
