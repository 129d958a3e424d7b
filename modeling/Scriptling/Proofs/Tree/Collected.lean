/-
This file says what the messages are that a program is refused with. They are
those about its tokens and those about its statements, put into source order.

About the tokens there is one message at most. A statement that cannot be read
gives one message, about the token where its fault stands, and reading goes on at
the next newline from there. The statement after it begins behind that newline,
so whatever is refused next stands on a later line. Hence these messages are in
source order to begin with, and putting all of them into that order keeps them
so.
-/

import Scriptling.Proofs.Token.Endings
import Scriptling.Proofs.Tree.Recovery
import Scriptling.Proofs.Tree.RoundTrip

namespace Scriptling

/-! ### Single messages -/

/-- Two messages have places, and these are related. -/
def Diagnostic.Placed (related : Span → Span → Prop) (earlier later : Diagnostic) : Prop :=
  ∃ first second, earlier.span = some first ∧ later.span = some second ∧ related first second

/-- A message is about the place of a token and quotes its line, the name of its kind and its
text. -/
structure Token.Quoted (token : Token) (diagnostic : Diagnostic) : Prop where
  span : diagnostic.span = some token.span
  message : ∃ expected : Expectation, let shown := Utf8.decodeLossy token.text
    diagnostic.message =
      s!"expected {expected.words} at line {token.span.line}, got {token.kind.name} '{shown}'"

theorem Token.Refused.quoted {token : Token} {diagnostic : Diagnostic}
    (refused : token.Refused diagnostic) : token.Quoted diagnostic := by
  obtain ⟨expected, note, rfl⟩ := refused
  cases note with
  | none => exact ⟨rfl, expected, rfl⟩
  | some note => exact ⟨rfl, expected, rfl⟩

theorem Token.Refused.kind {token : Token} {diagnostic : Diagnostic}
    (refused : token.Refused diagnostic) : diagnostic.kind = .grammar := by
  obtain ⟨expected, note, rfl⟩ := refused
  cases note <;> rfl

/-- The fault of a token is about its place. -/
theorem Token.problem_eq_some {token : Token} {diagnostic : Diagnostic}
    (fault : token.problem? = some diagnostic) :
    diagnostic.kind = .lexical ∧ diagnostic.span = some token.span := by
  obtain ⟨-, rfl⟩ := problem_eq_some_iff.mp fault
  exact ⟨rfl, rfl⟩

/-! ### Messages about statements -/

/-- Whatever comes behind the newline where reading goes on stands on a later line than the token
where it failed. The newline is on the line of that token or further down, and what comes after it
is further down still. -/
theorem Cursor.below_toNewline {cursor : Cursor}
    (starts : cursor.tokens.Pairwise fun earlier later => earlier.span.start ≤ later.span.start)
    (lines : cursor.tokens.Pairwise Token.LinesUp)
    (newline : cursor.toNewline.current.kind = .newline) (more : cursor.toNewline.ahead ≠ [])
    {token : Token} (inside : token ∈ cursor.toNewline.skipNewlines.tokens) :
    cursor.current.span.start ≤ token.span.start ∧
      cursor.current.span.line < token.span.line := by
  have split := Cursor.ahead_eq_cons more
  have whole : cursor.toNewline.tokens =
      cursor.toNewline.current :: cursor.toNewline.advance.tokens := by
    unfold Cursor.tokens
    rw [split]
    rfl
  rw [← Cursor.skipNewlines_advance split newline] at inside
  have later : token ∈ cursor.toNewline.advance.tokens :=
    cursor.toNewline.advance.follows_skipNewlines.tokens.mem inside
  have goesOn := cursor.follows_toNewline.tokens.sublist
  have linesOn := lines.sublist goesOn
  rw [whole] at linesOn goesOn
  obtain ⟨others, begins⟩ := cursor.tokens_eq_cons
  rw [begins] at starts lines goesOn
  have reached {other : Token} (member : other ∈ cursor.current :: others) :
      cursor.current.span.start ≤ other.span.start ∧
        cursor.current.span.line ≤ other.span.line := by
    rcases List.mem_cons.mp member with rfl | further
    · exact ⟨Nat.le_refl _, Nat.le_refl _⟩
    · exact ⟨List.rel_of_pairwise_cons starts further,
        (List.rel_of_pairwise_cons lines further).line⟩
  have above := (reached (goesOn.mem List.mem_cons_self)).2
  have below := (List.rel_of_pairwise_cons linesOn later).newline newline
  exact ⟨(reached (goesOn.mem (List.mem_cons_of_mem _ later))).1, Nat.lt_of_le_of_lt above below⟩

namespace Reader

/-- The messages from a cursor on are about tokens that come after the newlines there, each on a
later line than the one before. -/
theorem Reports.placed {cursor : Cursor} {diagnostics : List Diagnostic}
    (reports : Reports cursor diagnostics) (ends : cursor.finish.kind = .endOfInput)
    (starts : cursor.tokens.Pairwise fun earlier later => earlier.span.start ≤ later.span.start)
    (lines : cursor.tokens.Pairwise Token.LinesUp) :
    (∀ diagnostic ∈ diagnostics,
      ∃ token ∈ cursor.skipNewlines.tokens, token.Refused diagnostic) ∧
    diagnostics.Pairwise (Diagnostic.Placed fun first second =>
      first.start ≤ second.start ∧ first.line < second.line) := by
  induction reports with
  | ended => exact ⟨List.forall_mem_nil _, .nil⟩
  | @passed cursor after item diagnostics through _ hypothesis =>
    obtain ⟨-, read⟩ := round_eq_some.mp through
    have follows := ((orderly_statement _ _ _).of_ok read).1
    have stands := follows.trans cursor.follows_skipNewlines
    obtain ⟨refused, ordered⟩ := hypothesis (stands.finish ▸ ends)
      (starts.sublist stands.tokens.sublist) (lines.sublist stands.tokens.sublist)
    refine ⟨fun diagnostic member => ?_, ordered⟩
    obtain ⟨token, inside, same⟩ := refused diagnostic member
    exact ⟨token, (after.follows_skipNewlines.trans follows).tokens.mem inside, same⟩
  | @failed cursor after first rest cut reports hypothesis =>
    obtain ⟨-, read⟩ := round_eq_some.mp cut
    obtain ⟨follows, refusedFirst⟩ := (orderly_statement _ _ _).of_error read
    have stands := follows.trans cursor.follows_skipNewlines
    have goesOn := after.follows_toNewline.trans stands
    obtain ⟨refused, ordered⟩ := hypothesis (goesOn.finish ▸ ends)
      (starts.sublist goesOn.tokens.sublist) (lines.sublist goesOn.tokens.sublist)
    have current : after.current ∈ after.tokens := by
      obtain ⟨others, begins⟩ := after.tokens_eq_cons
      exact begins ▸ List.mem_cons_self
    refine ⟨List.forall_mem_cons.mpr ⟨⟨after.current, follows.tokens.mem current, refusedFirst⟩,
      fun diagnostic member => ?_⟩, List.pairwise_cons.mpr ⟨fun diagnostic member => ?_, ordered⟩⟩
    · obtain ⟨token, inside, same⟩ := refused diagnostic member
      have on := after.toNewline.follows_skipNewlines.trans (after.follows_toNewline.trans follows)
      exact ⟨token, on.tokens.mem inside, same⟩
    · obtain ⟨token, inside, same⟩ := refused diagnostic member
      rcases after.current_toNewline with newline | nothing
      · have more : after.toNewline.ahead ≠ [] := by
          intro nothing
          rw [Cursor.current_of_nil nothing, goesOn.finish] at newline
          cases newline.symm.trans ends
        exact ⟨_, _, refusedFirst.span, same.span,
          Cursor.below_toNewline (starts.sublist stands.tokens.sublist)
            (lines.sublist stands.tokens.sublist) newline more inside⟩
      · rw [reports.of_none (round_of_nil (goesOn.finish ▸ ends) nothing)] at member
        cases member

/-- Where a statement cannot be read there is a message. -/
theorem FailsFirst.reported {cursor stop : Cursor} {first : Diagnostic}
    (fails : FailsFirst cursor first stop) {diagnostics : List Diagnostic}
    (reports : Reports cursor diagnostics) : diagnostics ≠ [] := by
  induction fails with
  | here cut =>
    obtain ⟨rest, rfl, -⟩ := reports.of_error cut
    exact List.cons_ne_nil _ _
  | later through _ hypothesis => exact hypothesis (reports.of_ok through)

end Reader

namespace Program

/-- There are messages about the statements just when one of them cannot be read. -/
theorem refusals_eq_nil_iff (source : Bytes) : refusals source = [] ↔
    ¬∃ first stop, Reader.FailsFirst (Cursor.ofTokens (Tokens.ofSource source)) first stop := by
  have reports := reports_ofSource source
  constructor
  · rintro none ⟨first, stop, fails⟩
    exact fails.reported reports none
  · intro never
    cases found : refusals source with
    | nil => rfl
    | cons first rest =>
      rw [found] at reports
      obtain ⟨stop, fails, -⟩ := reports.failsFirst
      exact absurd ⟨first, stop, fails⟩ never

/-- The messages about the statements of a source refuse tokens of it, on lines further and further
down. -/
theorem refusals_placed (source : Bytes) :
    (∀ diagnostic ∈ refusals source,
      ∃ token ∈ (Tokens.ofSource source).toList, token.Refused diagnostic) ∧
    (refusals source).Pairwise (Diagnostic.Placed fun first second =>
      first.start ≤ second.start ∧ first.line < second.line) := by
  obtain ⟨refused, ordered⟩ := (reports_ofSource source).placed (Tokens.kind_ofSource source).1
    (Tokens.starts_ofSource source) (Tokens.lines_ofSource source)
  refine ⟨fun diagnostic member => ?_, ordered⟩
  obtain ⟨token, inside, same⟩ := refused diagnostic member
  exact ⟨token, (Cursor.follows_skipNewlines _).tokens.mem inside, same⟩

/-- Everything that is wrong with a source: its tokens first, then its statements. -/
def messages (source : Bytes) : List Diagnostic :=
  (Tokens.ofSource source).words.filterMap Token.problem? ++ refusals source

/-- A source is a program if nothing is wrong with it, and otherwise all messages are put into
order. -/
theorem ofSource_eq (source : Bytes) :
    (messages source = [] ∧ ∃ program, ofSource source = .ok program) ∨
      (messages source ≠ [] ∧
        ofSource source = .error (Diagnostic.inSourceOrder (messages source))) := by
  unfold ofSource
  dsimp only
  split
  next none => exact .inl ⟨none, _, rfl⟩
  next some => exact .inr ⟨some, rfl⟩

/-- There is a message about a token just when a string is not terminated. -/
theorem exists_problem_iff {source : Bytes} :
    (∃ diagnostic, diagnostic ∈ (Tokens.ofSource source).words.filterMap Token.problem?) ↔
      ∃ token ∈ (Tokens.ofSource source).words, token.Unterminated source := by
  constructor
  · rintro ⟨diagnostic, member⟩
    obtain ⟨token, inside, fault⟩ := List.mem_filterMap.mp member
    exact ⟨token, inside, (Tokens.open_iff inside).mp (Token.problem_eq_some_iff.mp fault).1⟩
  · rintro ⟨token, member, opens⟩
    have fault := Token.problem_eq_some_iff.mpr ⟨(Tokens.open_iff member).mpr opens, rfl⟩
    exact ⟨_, List.mem_filterMap.mpr ⟨token, member, fault⟩⟩

/-- Every message has its place, and it is about a token or about a statement. -/
theorem mem_messages {source : Bytes} {diagnostic : Diagnostic}
    (member : diagnostic ∈ messages source) :
    diagnostic.span.isSome = true ∧
    (diagnostic.kind = .lexical ∧
        diagnostic ∈ (Tokens.ofSource source).words.filterMap Token.problem? ∨
      diagnostic.kind = .grammar ∧
        ∃ token ∈ (Tokens.ofSource source).toList, token.Quoted diagnostic) := by
  rcases List.mem_append.mp member with fault | about
  · obtain ⟨token, -, found⟩ := List.mem_filterMap.mp fault
    obtain ⟨kind, span⟩ := Token.problem_eq_some found
    exact ⟨Option.isSome_iff_exists.mpr ⟨_, span⟩, .inl ⟨kind, fault⟩⟩
  · obtain ⟨token, inside, same⟩ := (refusals_placed source).1 diagnostic about
    exact ⟨Option.isSome_iff_exists.mpr ⟨_, same.quoted.span⟩,
      .inr ⟨same.kind, token, inside, same.quoted⟩⟩

theorem kind_of_refusal {source : Bytes} {diagnostic : Diagnostic}
    (member : diagnostic ∈ refusals source) : diagnostic.kind = .grammar := by
  obtain ⟨token, -, same⟩ := (refusals_placed source).1 diagnostic member
  exact same.kind

theorem kind_of_problem {source : Bytes} {diagnostic : Diagnostic}
    (member : diagnostic ∈ (Tokens.ofSource source).words.filterMap Token.problem?) :
    diagnostic.kind = .lexical := by
  obtain ⟨token, -, fault⟩ := List.mem_filterMap.mp member
  exact (Token.problem_eq_some fault).1

/-- Nothing is wrong with a source just when no statement of it fails and every string is
terminated. -/
theorem messages_eq_nil_iff (source : Bytes) : messages source = [] ↔
    (¬∃ first stop, Reader.FailsFirst (Cursor.ofTokens (Tokens.ofSource source)) first stop) ∧
      ∀ token ∈ (Tokens.ofSource source).words, ¬token.Unterminated source := by
  have terminated : (Tokens.ofSource source).words.filterMap Token.problem? = [] ↔
      ∀ token ∈ (Tokens.ofSource source).words, ¬token.Unterminated source := by
    rw [List.eq_nil_iff_forall_not_mem, ← not_exists, exists_problem_iff]
    simp only [not_exists, not_and]
  rw [messages, List.append_eq_nil_iff, terminated, refusals_eq_nil_iff, and_comm]

/-- At most one message is about a token. -/
theorem length_filter_messages_le (source : Bytes) :
    ((messages source).filter fun diagnostic => diagnostic.kind == .lexical).length ≤ 1 := by
  have few : ((Tokens.ofSource source).words.filterMap Token.problem?).length ≤ 1 := by
    rcases Tokens.problems_ofSource source with none | ⟨problem, one⟩
    · rw [none]
      exact Nat.zero_le 1
    · rw [one]
      exact Nat.le_refl 1
  have none : (refusals source).filter (fun diagnostic => diagnostic.kind == .lexical) = [] := by
    refine List.filter_eq_nil_iff.mpr fun diagnostic member => ?_
    rw [kind_of_refusal member]
    decide
  rw [messages, List.filter_append, none, List.append_nil]
  exact Nat.le_trans (List.length_filter_le _ _) few

end Program

/-! ### All messages in order -/

/-- Messages that come in source order are in their order among all messages. -/
theorem Diagnostic.filter_inSourceOrder {kind : DiagnosticKind}
    {before diagnostics : List Diagnostic}
    (other : ∀ diagnostic ∈ before, diagnostic.kind ≠ kind)
    (own : ∀ diagnostic ∈ diagnostics, diagnostic.kind = kind)
    (ordered : diagnostics.Pairwise (Placed fun first second => first.start ≤ second.start)) :
    (inSourceOrder (before ++ diagnostics)).filter (fun diagnostic => diagnostic.kind == kind) =
      diagnostics := by
  have perm := (List.mergeSort_perm (before ++ diagnostics) notAfter).filter
    fun diagnostic => diagnostic.kind == kind
  have kept : (before ++ diagnostics).filter (fun diagnostic => diagnostic.kind == kind) =
      diagnostics := by
    rw [List.filter_append, List.filter_eq_nil_iff.mpr, List.nil_append, List.filter_eq_self.mpr]
    · exact fun diagnostic member => beq_iff_eq.mpr (own diagnostic member)
    · exact fun diagnostic member => mt beq_iff_eq.mp (other diagnostic member)
  rw [kept] at perm
  have sorted : diagnostics.Pairwise fun first second => first.notAfter second = true := by
    refine ordered.imp fun {earlier later} ⟨first, second, place, after, le⟩ => ?_
    unfold notAfter
    rw [place, after]
    exact decide_eq_true le
  -- The sort is stable, so it keeps them in a row, and no other message is of their kind.
  have sublist := (List.sublist_mergeSort notAfter_trans notAfter_total sorted
    (List.sublist_append_right before diagnostics)).filter fun diagnostic => diagnostic.kind == kind
  rw [List.filter_eq_self.mpr fun diagnostic member => beq_iff_eq.mpr (own diagnostic member)]
    at sublist
  exact (sublist.eq_of_length perm.length_eq.symm).symm

/-- Messages that all have places are sorted by where these start. -/
theorem Diagnostic.placed_inSourceOrder {diagnostics : List Diagnostic}
    (places : ∀ diagnostic ∈ diagnostics, diagnostic.span.isSome = true) :
    (inSourceOrder diagnostics).Pairwise
      (Placed fun first second => first.start ≤ second.start) := by
  refine (List.pairwise_mergeSort notAfter_trans notAfter_total diagnostics).imp_of_mem ?_
  intro earlier later memberEarlier memberLater before
  obtain ⟨first, place⟩ := Option.isSome_iff_exists.mp
    (places earlier (List.mem_mergeSort.mp memberEarlier))
  obtain ⟨second, after⟩ := Option.isSome_iff_exists.mp
    (places later (List.mem_mergeSort.mp memberLater))
  unfold notAfter at before
  rw [place, after] at before
  exact ⟨first, second, place, after, of_decide_eq_true before⟩

/-- The messages that a program is refused with are complete and in order. There is one at least,
and they are sorted by where their places start. At most one is about a token itself, and there is
one just when some string is not terminated. The others are those of the statements, on lines
further and further down; each is about the place of a token and quotes it. A source is a program
just when no statement of it fails and every string is terminated. -/
theorem messages_are_complete_and_ordered (source : Bytes) :
    (∀ diagnostics, Program.ofSource source = .error diagnostics →
      diagnostics ≠ [] ∧
      diagnostics.Pairwise (Diagnostic.Placed fun first second => first.start ≤ second.start) ∧
      (diagnostics.filter fun diagnostic => diagnostic.kind == .lexical).length ≤ 1 ∧
      ((∃ diagnostic ∈ diagnostics, diagnostic.kind = .lexical) ↔
        ∃ token ∈ (Tokens.ofSource source).words, token.Unterminated source) ∧
      (diagnostics.filter fun diagnostic => diagnostic.kind == .grammar) =
        Program.refusals source ∧
      (Program.refusals source).Pairwise
        (Diagnostic.Placed fun first second => first.line < second.line) ∧
      ∀ diagnostic ∈ diagnostics, diagnostic.kind = .lexical ∨ diagnostic.kind = .grammar ∧
        ∃ token ∈ (Tokens.ofSource source).toList, token.Quoted diagnostic) ∧
    ((∃ program, Program.ofSource source = .ok program) ↔
      (¬∃ first stop, Reader.FailsFirst (Cursor.ofTokens (Tokens.ofSource source)) first stop) ∧
      ∀ token ∈ (Tokens.ofSource source).words, ¬token.Unterminated source) := by
  have ordered := (Program.refusals_placed source).2
  have read := Program.ofSource_eq source
  refine ⟨fun diagnostics refused => ?_, ?_⟩
  · rcases read with ⟨-, program, ok⟩ | ⟨some, error⟩
    · cases ok.symm.trans refused
    cases error.symm.trans refused
    have perm := List.mergeSort_perm (Program.messages source) Diagnostic.notAfter
    refine ⟨fun none => some (List.nil_perm.mp (none ▸ perm)),
      Diagnostic.placed_inSourceOrder fun diagnostic member => (Program.mem_messages member).1,
      (perm.filter _).length_eq ▸ Program.length_filter_messages_le source, ?_,
      Diagnostic.filter_inSourceOrder (fun diagnostic member => ?_)
        (fun diagnostic => Program.kind_of_refusal) (ordered.imp ?_),
      ordered.imp ?_, fun diagnostic member => ?_⟩
    · rw [← Program.exists_problem_iff]
      refine exists_congr fun diagnostic => ⟨fun ⟨member, lexical⟩ => ?_, fun member => ?_⟩
      · rcases (Program.mem_messages (perm.mem_iff.mp member)).2 with ⟨-, fault⟩ | ⟨grammar, -⟩
        · exact fault
        · cases lexical.symm.trans grammar
      · exact ⟨perm.mem_iff.mpr (List.mem_append_left _ member), Program.kind_of_problem member⟩
    · rw [Program.kind_of_problem member]
      decide
    · exact fun ⟨first, second, place, after, le, _⟩ => ⟨first, second, place, after, le⟩
    · exact fun ⟨first, second, place, after, _, lt⟩ => ⟨first, second, place, after, lt⟩
    · exact (Program.mem_messages (perm.mem_iff.mp member)).2.imp And.left id
  · rw [← Program.messages_eq_nil_iff]
    rcases read with ⟨clean, ok⟩ | ⟨some, error⟩
    · exact iff_of_true ok clean
    · refine iff_of_false ?_ some
      rintro ⟨program, ok⟩
      cases ok.symm.trans error

/-- Two statements that cannot be read and an open string after them are all reported. -/
theorem faults_and_open_string_are_collected :
    let source := ascii "x = (\nbreak\n) 'b"
    ∃ diagnostics, Program.ofSource source = .error diagnostics ∧
      (diagnostics.filter fun diagnostic => diagnostic.kind == .grammar).map Diagnostic.message =
        ["expected expression at line 1, got NEWLINE ''",
          "expected statement at line 2, got KEYWORD 'break'",
          "expected expression at line 3, got RPAREN ')'"] ∧
      ∃ diagnostic ∈ diagnostics, diagnostic.kind = .lexical := by
  intro source
  obtain ⟨collected, reads⟩ := messages_are_complete_and_ordered source
  have member : (⟨.string, ascii "b", 0, ⟨14, 16, 3, 3⟩, false⟩ : Token) ∈
      (Tokens.ofSource source).words := by
    decide +kernel
  have opens := (Tokens.open_iff member).mp rfl
  cases read : Program.ofSource source with
  | ok program => exact absurd opens ((reads.mp ⟨program, read⟩).2 _ member)
  | error diagnostics =>
    obtain ⟨-, -, -, lexical, grammar, -⟩ := collected diagnostics read
    refine ⟨diagnostics, rfl, ?_, lexical.mpr ⟨_, member, opens⟩⟩
    rw [grammar]
    decide +kernel

end Scriptling
