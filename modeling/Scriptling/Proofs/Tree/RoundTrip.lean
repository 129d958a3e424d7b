/-
This file proves that what is written of a program is that program. Its text is
scanned into the words it was written from, and the words are read statement by
statement, each up to where the next one begins. So the program comes back, up
to its places in the text, unless some statement is too deep for the reader. In
that case the first message says so: whatever goes wrong after it stands further
on in the text.
-/

import Scriptling.Proofs.Token.Rereading
import Scriptling.Proofs.Tree.Precedence
import Scriptling.Proofs.Tree.Refusals
import Scriptling.Proofs.Tree.Rereading

namespace Scriptling

/-- The message that a token is a level too many. -/
def Token.tooDeep (token : Token) : Diagnostic :=
  token.unexpected (.atMost nestingLimit .nesting)

/-- Neither a newline nor a branch comes next where statements follow. -/
theorem Word.beyond_statements (isOpen : Prop) (items : List Stmt) :
    Word.Beyond isOpen (items.flatMap Stmt.words) := by
  cases items with
  | nil =>
    refine ⟨?_, fun _ => ⟨?_, ?_⟩⟩
    · exact fun same => nomatch same
    · exact fun same => nomatch same
    · exact fun same => nomatch same
  | cons item others =>
    obtain ⟨word, rest, begins, opens⟩ := item.opens_words
    rw [List.flatMap_cons, begins]
    exact ⟨ne_mark_of_opens opens rfl, fun _ =>
      ⟨ne_mark_of_opens opens rfl, ne_mark_of_opens opens rfl⟩⟩

namespace Diagnostic

theorem notAfter_trans (first second third : Diagnostic) (before : first.notAfter second = true)
    (after : second.notAfter third = true) : first.notAfter third = true := by
  unfold notAfter at before after ⊢
  cases firstSpan : first.span with
  | none => rfl
  | some firstPlace =>
    cases secondSpan : second.span with
    | none =>
      rw [firstSpan, secondSpan] at before
      cases before
    | some secondPlace =>
      cases thirdSpan : third.span with
      | none =>
        rw [secondSpan, thirdSpan] at after
        cases after
      | some thirdPlace =>
        rw [firstSpan, secondSpan] at before
        rw [secondSpan, thirdSpan] at after
        exact decide_eq_true (Nat.le_trans (of_decide_eq_true before) (of_decide_eq_true after))

theorem notAfter_total (first second : Diagnostic) :
    (first.notAfter second || second.notAfter first) = true := by
  unfold notAfter
  cases first.span with
  | none => rfl
  | some firstPlace =>
    cases second.span with
    | none => rfl
    | some secondPlace =>
      rw [Bool.or_eq_true, decide_eq_true_eq, decide_eq_true_eq]
      exact Nat.le_total _ _

/-- A message stays first if no other one is about an earlier place. -/
theorem inSourceOrder_cons {first : Diagnostic} {others : List Diagnostic}
    (earliest : ∀ other ∈ others, first.notAfter other = true) :
    ∃ rest, inSourceOrder (first :: others) = first :: rest := by
  obtain ⟨before, after, sorted, parts, smaller⟩ :=
    List.mergeSort_cons notAfter_trans notAfter_total first others
  cases before with
  | nil => exact ⟨after, sorted⟩
  | cons one more =>
    have member : one ∈ others.mergeSort notAfter := by
      rw [parts]
      exact List.mem_cons_self
    have later := smaller one List.mem_cons_self
    rw [earliest one (List.mem_mergeSort.mp member)] at later
    cases later

end Diagnostic

/-- Where a statement begins there is no newline to skip, and the input has not ended. -/
theorem Cursor.Faces.stays {cursor : Cursor} {words : List Word} (faces : cursor.Faces words)
    (opens : (Word.first words).opensStatement = true) :
    cursor.skipNewlines = cursor ∧ cursor.current.kind ≠ .endOfInput := by
  refine ⟨faces.skipNewlines_of_other (Word.ne_mark_of_opens opens rfl), ?_⟩
  refine mt (Token.word_eq_mark rfl).mpr ?_
  rw [faces.current]
  exact Word.ne_mark_of_opens opens rfl

namespace Reader

section

variable {cursor after : Cursor} {words : List Word} (faces : cursor.Faces words)
  (opens : (Word.first words).opensStatement = true) {items : List Stmt}
  {diagnostics : List Diagnostic} {rounds : Nat}

include faces opens

theorem statementsAfter_of_ok {item : Stmt}
    (through : statement nestingLimit .topLevel cursor = .ok item after) :
    statementsAfter (statement nestingLimit .topLevel) items diagnostics (rounds + 1) cursor =
      statementsAfter (statement nestingLimit .topLevel) (item :: items) diagnostics rounds
        after := by
  obtain ⟨still, more⟩ := faces.stays opens
  rw [statementsAfter, still, if_neg more, through]

theorem statementsAfter_of_error {diagnostic : Diagnostic}
    (cut : statement nestingLimit .topLevel cursor = .error diagnostic after) :
    statementsAfter (statement nestingLimit .topLevel) items diagnostics (rounds + 1) cursor =
      statementsAfter (statement nestingLimit .topLevel) items (diagnostic :: diagnostics) rounds
        after.toNewline := by
  obtain ⟨still, more⟩ := faces.stays opens
  rw [statementsAfter, still, if_neg more, cut]

end

/-- Statements that were written are read back one after another, up to the first that is too
deep. -/
theorem reread_statements {items : List Stmt}
    (representable : ∀ item ∈ items, item.Writable ∧ item.Scoped .topLevel) {rounds : Nat}
    (enough : items.length ≤ rounds) (done : List Stmt) {cursor : Cursor}
    (faces : cursor.Faces (items.flatMap Stmt.words)) :
    let readings := statementsAfter (statement nestingLimit .topLevel) done [] rounds cursor
    (∃ again, readings.items = done.reverse ++ again ∧
      again.map Stmt.unplaced = items.map Stmt.unplaced ∧ readings.diagnostics = []) ∨
    ∃ after : Cursor, after.Follows cursor ∧
      (∃ further, readings.diagnostics = after.current.tooDeep :: further ∧
        ∀ diagnostic ∈ further, ∃ token ∈ after.tokens, token.Refused diagnostic) ∧
      ∃ item ∈ items, nestingLimit ≤ 2 * item.words.length := by
  induction items generalizing rounds done cursor with
  | nil =>
    left
    have ended : cursor.current.kind = .endOfInput := (Token.word_eq_mark rfl).mp faces.current
    have still := faces.skipNewlines_of_other fun same => nomatch same
    cases rounds with
    | zero => exact ⟨[], (List.append_nil _).symm, rfl, rfl⟩
    | succ rounds =>
      unfold statementsAfter
      dsimp only
      rw [still, if_pos ended]
      exact ⟨[], (List.append_nil _).symm, rfl, rfl⟩
  | cons item others hypothesis =>
    obtain ⟨⟨writable, placed⟩, representableOthers⟩ := List.forall_mem_cons.mp representable
    obtain ⟨rounds, rfl⟩ := Nat.exists_eq_add_one_of_ne_zero (Nat.ne_zero_of_lt enough)
    rw [List.flatMap_cons] at faces
    obtain ⟨word, rest, begins, opens⟩ := item.opens_words
    rw [← Word.first_append_of_opens begins (others.flatMap Stmt.words)] at opens
    have read := complete_statement nestingLimit .topLevel item (others.flatMap Stmt.words)
      writable placed (Word.beyond_statements _ others) cursor faces
    have forward := orderly_statement nestingLimit .topLevel cursor
    cases ended : statement nestingLimit .topLevel cursor with
    | ok result after =>
      rw [statementsAfter_of_ok faces opens ended]
      obtain ⟨facesRest, same⟩ := read.of_ok ended
      obtain ⟨follows, -⟩ := forward.of_ok ended
      rcases hypothesis representableOthers (Nat.le_of_succ_le_succ enough) (result :: done)
        facesRest with ⟨again, found, sameOthers, clean⟩ | ⟨stopped, later, refused, deep⟩
      · refine Or.inl ⟨result :: again, ?_, ?_, clean⟩
        · rw [found, List.reverse_cons, List.append_assoc]
          rfl
        · rw [List.map_cons, List.map_cons, same.unplaced, sameOthers]
      · obtain ⟨other, member, exceeds⟩ := deep
        exact Or.inr ⟨stopped, later.trans follows, refused, other,
          List.mem_cons_of_mem _ member, exceeds⟩
    | error diagnostic after =>
      -- What is read after this message may be anything, but it stands further on.
      rw [statementsAfter_of_error faces opens ended]
      obtain ⟨tooDeep, exceeds⟩ := read.of_error ended trivial
      obtain ⟨further, found, refused⟩ :=
        diagnostics_statementsAfter done [diagnostic] rounds after.toNewline
      have later := after.follows_toNewline
      refine Or.inr ⟨after, (forward.of_error ended).1, ⟨further, ?_, fun other member => ?_⟩,
        item, List.mem_cons_self, exceeds⟩
      · rw [found, tooDeep]
        rfl
      · obtain ⟨token, inside, same⟩ := refused other member
        exact ⟨token, later.tokens.mem inside, same⟩

end Reader

section

variable {source : Bytes}
  (closed : ∀ token ∈ (Tokens.ofSource source).words, token.closed = true)

include closed

/-- Where no token has a fault, only the messages of the statements count. -/
theorem Tokens.problems_of_closed (diagnostics : List Diagnostic) :
    (ofSource source).words.filterMap Token.problem? ++ diagnostics = diagnostics := by
  have none : (ofSource source).words.filterMap Token.problem? = [] :=
    List.filterMap_eq_nil_iff.mpr fun token member => if_pos (closed token member)
  rw [none, List.nil_append]

theorem Program.ofSource_eq_ok
    (clean : (Reader.statements (Cursor.ofTokens (Tokens.ofSource source))).diagnostics = []) :
    ofSource source =
      .ok ⟨(Reader.statements (Cursor.ofTokens (Tokens.ofSource source))).items⟩ := by
  have all := (Tokens.problems_of_closed closed _).trans clean
  unfold ofSource
  dsimp only
  split
  next => rfl
  next some => exact absurd all some

theorem Program.ofSource_eq_error {first : Diagnostic} {others : List Diagnostic}
    (found : (Reader.statements (Cursor.ofTokens (Tokens.ofSource source))).diagnostics =
      first :: others) :
    ofSource source = .error (Diagnostic.inSourceOrder (first :: others)) := by
  have all := (Tokens.problems_of_closed closed _).trans found
  unfold ofSource
  dsimp only
  split
  next none => cases none.symm.trans all
  next => exact congrArg (Except.error ∘ Diagnostic.inSourceOrder) all

end

/-- A statement takes a word at least. -/
theorem Program.length_items_le (program : Program) :
    program.items.length ≤ program.words.length := by
  unfold words
  induction program.items with
  | nil => exact Nat.le_refl 0
  | cons item others hypothesis =>
    obtain ⟨word, rest, begins, -⟩ := item.opens_words
    rw [List.flatMap_cons, begins, List.length_append]
    simp only [List.length_cons]
    omega

/-- The tokens of a program that was written are its words, and none of them has a fault. -/
theorem Program.words_of_text {program : Program} (representable : program.Representable) :
    (Tokens.ofSource program.text).words.map Token.word = program.words ∧
      ∀ token ∈ (Tokens.ofSource program.text).words, token.closed = true :=
  Tokens.ofSource_writeAll (writable_words representable)

/-- Where a cursor of some source stands, a message about the next token is not after any message
about a token that comes. -/
theorem Cursor.Follows.notAfter {source : Bytes} {after : Cursor}
    (follows : after.Follows (ofTokens (Tokens.ofSource source))) {first other : Diagnostic}
    (refusedFirst : after.current.Refused first)
    (refused : ∃ token ∈ after.tokens, token.Refused other) : first.notAfter other = true := by
  obtain ⟨token, member, same⟩ := refused
  obtain ⟨rest, begins⟩ := after.tokens_eq_cons
  have sorted := (Tokens.starts_ofSource source).sublist follows.tokens.sublist
  rw [begins] at sorted member
  have start : after.current.span.start ≤ token.span.start := by
    rcases List.mem_cons.mp member with rfl | later
    · exact Nat.le_refl _
    · exact (List.pairwise_cons.mp sorted).1 token later
  unfold Diagnostic.notAfter
  rw [refusedFirst.span, same.span]
  exact decide_eq_true start

/-- What is written of a program is read back as that program, up to its places, or the first
message about it is that a token of it is a level too many. That can only be if one of the
statements has at least half as many words as there may be levels. -/
theorem written_program_is_read_back {program : Program}
    (representable : program.Representable) :
    (∃ again, Program.ofSource program.text = .ok again ∧ again.unplaced = program.unplaced) ∨
    ∃ token ∈ (Tokens.ofSource program.text).toList,
      (∃ others, Program.ofSource program.text = .error (token.tooDeep :: others)) ∧
      ∃ item ∈ program.items, nestingLimit ≤ 2 * item.words.length := by
  obtain ⟨words, closed⟩ := Program.words_of_text representable
  have faces := Tokens.faces_ofSource program.text
  rw [words] at faces
  have rounds : program.items.length ≤
      (Cursor.ofTokens (Tokens.ofSource program.text)).ahead.length := by
    show _ ≤ (Tokens.ofSource program.text).words.length
    rw [← List.length_map Token.word, words]
    exact program.length_items_le
  rcases Reader.reread_statements representable rounds [] faces with
    ⟨again, found, same, clean⟩ | ⟨after, follows, ⟨further, found, refused⟩, deep⟩
  · left
    refine ⟨⟨again⟩, ?_, congrArg Program.mk same⟩
    exact (Program.ofSource_eq_ok closed clean).trans (congrArg (Except.ok ∘ Program.mk) found)
  · right
    have refusedFirst : after.current.Refused after.current.tooDeep := ⟨_, none, rfl⟩
    obtain ⟨others, sorted⟩ := Diagnostic.inSourceOrder_cons fun other member =>
      follows.notAfter refusedFirst (refused other member)
    refine ⟨after.current, ?_, ⟨others, ?_⟩, deep⟩
    · obtain ⟨rest, begins⟩ := after.tokens_eq_cons
      refine follows.tokens.mem ?_
      rw [begins]
      exact List.mem_cons_self
    · exact (Program.ofSource_eq_error closed found).trans (congrArg Except.error sorted)

/-- A negative number is read back from its bits, a quote from its escape, and an `else` belongs
to the `if` before it. -/
theorem choice_is_read_back :
    let span : Span := ⟨0, 0, 0, 0⟩
    let choice := Stmt.branch span (.name span (ascii "a"))
      (.returns span (some (.string span (Text.ofWord "say \"a\""))))
      (.otherwise (.returns span none))
    let program : Program := ⟨[.define span (ascii "f") [ascii "a"] choice,
      .assign span (ascii "x") (.call span (ascii "f") [.number span (-1)])]⟩
    program.Representable ∧
    program.text = ascii ("def f ( a ) :\nif a :\nreturn \"say \\\"a\\\"\"\nelse :\nreturn\n" ++
      "x = f ( 18446744073709551615 )\n") ∧
    ∃ again, Program.ofSource program.text = .ok again ∧ again.unplaced = program.unplaced := by
  intro span choice program
  have a : Name.Writable (ascii "a") := by decide
  have f : Name.Writable (ascii "f") := by decide
  have x : Name.Writable (ascii "x") := by decide
  have text : (Expr.string span (Text.ofWord "say \"a\"")).Writable := ⟨trivial, trivial, trivial⟩
  have choiceWritable : choice.Writable := by
    refine ⟨⟨a, trivial, trivial⟩, ?_, Or.inr not_false, ?_, by decide⟩
    · intro value same
      rw [← Option.mem_some.mp same]
      exact text
    · exact fun _ none => nomatch none
  have call : (Expr.call span (ascii "f") [.number span (-1)]).Writable :=
    ⟨⟨f, trivial, trivial⟩, ⟨by decide, trivial, trivial⟩, trivial, trivial⟩
  have representable : program.Representable := by
    refine List.forall_mem_cons.mpr ⟨⟨⟨f, ?_, by decide, choiceWritable⟩, rfl, rfl⟩, ?_⟩
    · exact List.forall_mem_singleton.mpr a
    · exact List.forall_mem_singleton.mpr ⟨⟨x, call⟩, trivial⟩
  have small : ∀ item ∈ program.items, 2 * item.words.length < nestingLimit := by decide
  refine ⟨representable, by decide, (written_program_is_read_back representable).resolve_right ?_⟩
  rintro ⟨_, _, _, item, member, deep⟩
  exact absurd deep (Nat.not_le.mpr (small item member))

end Scriptling
