/-
This file proves that the statements of a program are arranged as the words of
its source. Whatever statement is read is laid out as the words that were taken
for it, up to newlines after it. If it ends with an `if` that is open, then these
newlines are all there were, and no branch comes next: the reader has looked for
one. So an `if` around it finds no branch that could be its own, and every branch
belongs to the nearest `if`.

Statements are read until no word is left, and where no message comes up none is
passed over. So the words of a program are those of its statements, one after
another, with newlines in between.
-/

import Scriptling.Proofs.Tree.Layout
import Scriptling.Proofs.Tree.Making
import Scriptling.Proofs.Tree.Recovery
import Scriptling.Proofs.Tree.Soundness

namespace Scriptling

/-- A statement was read from some words, the last of which may be newlines. No branch comes next
that could belong to it. -/
structure Stmt.Recorded (stmt : Stmt) (taken rest : List Word) : Prop where
  laid : ∃ own blank, taken = own ++ blank ∧ stmt.Laid Word.Newlines own ∧ Word.Newlines blank
  attached : stmt.Attached
  few : stmt.Few
  beyond : stmt.EndsOpen → Word.Beyond True rest

/-- The branches after an arm were read from some words, of which there are none where no branch
comes first. -/
structure Branches.Recorded (others : Branches) (room : Nat) (words taken rest : List Word) :
    Prop where
  laid : ∃ own blank, taken = own ++ blank ∧ others.Laid Word.Newlines own ∧ Word.Newlines blank
  attached : others.Attached
  few : others.Few
  arms : others.arms ≤ room
  beyond : others.EndsOpen → Word.Beyond True rest
  none : Word.Beyond True words → others = .done

/-- What holds of a body holds of a statement that ends with it. -/
theorem Stmt.Recorded.around {stmt body : Stmt} {taken rest : List Word}
    (recorded : body.Recorded taken rest) (header : List Word)
    (laid : ∀ own, body.Laid Word.Newlines own → stmt.Laid Word.Newlines (header ++ own))
    (attached : body.Attached → stmt.Attached) (few : body.Few → stmt.Few)
    (opens : stmt.EndsOpen → body.EndsOpen) : stmt.Recorded (header ++ taken) rest := by
  obtain ⟨own, blank, rfl, laidBody, newlines⟩ := recorded.laid
  exact ⟨⟨header ++ own, blank, (List.append_assoc ..).symm, laid own laidBody, newlines⟩,
    attached recorded.attached, few recorded.few, fun ended => recorded.beyond (opens ended)⟩

/-- A body and the branches after it share the newlines between them. If the body ends with an
open `if`, there are no such branches. -/
theorem Stmt.Recorded.followed {body : Stmt} {others : Branches} {room : Nat}
    {words taken more rest : List Word} (recorded : body.Recorded taken words)
    (branches : others.Recorded room words more rest) :
    (∃ own ownOthers blank, taken ++ more = own ++ ownOthers ++ blank ∧
      body.Laid Word.Newlines own ∧ others.Laid Word.Newlines ownOthers ∧ Word.Newlines blank) ∧
    (others = .done ∨ ¬body.EndsOpen) := by
  constructor
  · obtain ⟨own, between, rfl, laid, newlines⟩ := recorded.laid
    obtain ⟨ownOthers, blank, rfl, laidOthers, newlinesOthers⟩ := branches.laid
    obtain ⟨after, trailing, split, laidAfter, newlinesAfter⟩ := laidOthers.after newlines
    refine ⟨own, after, trailing ++ blank, ?_, laid, laidAfter,
      newlinesAfter.append newlinesOthers⟩
    rw [List.append_assoc, ← List.append_assoc between, split]
    simp only [List.append_assoc]
  · by_cases opens : body.EndsOpen
    · exact .inl (branches.none (recorded.beyond opens))
    · exact .inr opens

namespace Reader

variable {Result : Type} {words : List Word}

/-! ### Steps -/

theorem reads_get : Reads words (fun cursor taken _ => taken = [] ∧ cursor.Faces words) get :=
  fun _ faces => ⟨[], words, rfl, faces, rfl, faces⟩

theorem reads_expectIdentifier {expected : Expectation} :
    Reads words (fun token taken _ => taken = [.name token.text])
      (expect .identifier expected) := by
  intro cursor faces
  rw [ends_expect]
  split
  next same =>
    have word := Token.word_eq_name.mpr ⟨same, rfl⟩
    obtain ⟨rest, split, facesRest⟩ := faces.cons (by rw [word]; exact fun same => nomatch same)
    rw [word] at split
    exact ⟨[_], rest, split, facesRest, rfl⟩
  next => trivial

theorem reads_expectName {expected : Expectation} :
    Reads words (fun name taken _ => taken = [.name name]) (expectName expected) := by
  refine reads_bind reads_expectIdentifier ?_
  rintro token _ rest - rfl
  exact reads_pure rfl

/-- Newlines are skipped up to another word. -/
theorem reads_skipNewlines :
    Reads words (fun _ taken rest => Word.Newlines taken ∧ Word.first rest ≠ .mark .newline ∧
      (Word.first words ≠ .mark .newline → taken = [])) skipNewlines := by
  induction words with
  | nil =>
    intro cursor faces
    have other : Word.first [] ≠ .mark .newline := fun same => nomatch same
    rw [ends_skipNewlines, faces.skipNewlines_of_other other]
    exact ⟨[], [], rfl, faces, Word.newlines_nil, other, fun _ => rfl⟩
  | cons word rest hypothesis =>
    intro cursor faces
    by_cases newline : word = .mark .newline
    · obtain ⟨taken, left, split, facesLeft, blank, other, -⟩ :=
        ends_skipNewlines.mp (hypothesis cursor.advance faces.advance)
      rw [ends_skipNewlines, faces.skipNewlines_of_cons newline]
      refine ⟨word :: taken, left, congrArg _ split, facesLeft,
        List.forall_mem_cons.mpr ⟨newline, blank⟩, other, fun different => ?_⟩
      exact absurd newline different
    · rw [ends_skipNewlines, faces.skipNewlines_of_other newline]
      exact ⟨[], word :: rest, rfl, faces, Word.newlines_nil, newline, fun _ => rfl⟩

/-- Whether a word is seen is told as well. -/
theorem reads_acceptWord {kind : TokenKind} (plain : kind.isPlain = true)
    (more : kind ≠ .endOfInput) :
    Reads words (fun found taken _ => if found then taken = [.mark kind]
      else taken = [] ∧ Word.first words ≠ .mark kind) (accept kind) := by
  intro cursor faces
  rw [ends_accept]
  split
  next same =>
    have word := (Token.word_eq_mark plain).mpr same
    obtain ⟨rest, split, facesRest⟩ := faces.cons fun ends =>
      more (Word.mark.inj (word.symm.trans ends))
    rw [word] at split
    exact ⟨[.mark kind], rest, split, facesRest, rfl⟩
  next other =>
    refine ⟨[], words, rfl, faces, rfl, ?_⟩
    rw [← faces.current]
    exact mt (Token.word_eq_mark plain).mp other

theorem reads_seesWord {kind : TokenKind} (plain : kind.isPlain = true) :
    Reads words (fun found taken _ => taken = [] ∧
      (Word.first words = .mark kind ↔ found = true)) (sees kind) := by
  intro cursor faces
  rw [ends_sees]
  refine ⟨[], words, rfl, faces, rfl, ?_⟩
  rw [← faces.current, Token.word_eq_mark plain]
  exact beq_iff_eq.symm

/-- The word that comes next is known by the kind of its token. -/
theorem first_of_kind {token : Token} {kind : TokenKind} (word : token.word = Word.first words)
    (same : token.kind = kind) (plain : kind.isPlain = true) : Word.first words = .mark kind :=
  word.symm.trans ((Token.word_eq_mark plain).mpr same)

/-- The word that comes next is taken where its kind is known. -/
theorem reads_takeWord {kind : TokenKind} (first : Word.first words = .mark kind)
    (more : kind ≠ .endOfInput) :
    Reads words (fun _ taken _ => taken = [.mark kind]) take := by
  refine (reads_take ?_).weaken fun token taken _ _ same => first ▸ same.1
  rw [first]
  exact fun same => more (Word.mark.inj same)

/-- Expressions are read with all lists in them as short as allowed. -/
theorem reads_fewExpression (room : Nat) (words : List Word) :
    Reads words (fun expr taken _ => expr.Spelled taken ∧ expr.Few) (expression room) := by
  intro cursor faces
  refine (reads_expression room words cursor faces).withEnd.weaken ?_ fun _ _ _ => trivial
  rintro expr after ⟨through, taken, rest, split, facesRest, sound⟩
  obtain ⟨tokens, -, -, made⟩ :=
    (makes_expression room cursor.ahead cursor rfl faces.ends).of_ok through
  exact ⟨taken, rest, split, facesRest, sound.1, made.few⟩

theorem reads_parameters (room : Nat) (words : List Word) :
    Reads words (fun names taken _ => Name.AllSpelled names taken ∧ names.length ≤ room)
      (parameters room) := by
  induction room generalizing words with
  | zero =>
    refine reads_bind reads_sees ?_
    rintro found _ rest - rfl
    cases found with
    | true => exact reads_pure ⟨.none, Nat.le_refl 0⟩
    | false => exact reads_refuse
  | succ room hypothesis =>
    refine reads_bind reads_sees ?_
    rintro found _ rest - rfl
    cases found with
    | true => exact reads_pure ⟨.none, Nat.zero_le _⟩
    | false =>
      refine reads_bind reads_expectName ?_
      rintro name _ rest - rfl
      refine reads_bind (reads_accept rfl (by decide)) ?_
      rintro found _ rest - rfl
      cases found with
      | false => exact reads_pure ⟨.last name, Nat.le_add_left 1 room⟩
      | true =>
        refine reads_bind (hypothesis rest) ?_
        rintro names taken rest - ⟨spelled, short⟩
        refine reads_pure ⟨?_, Nat.succ_le_succ short⟩
        rw [List.append_nil]
        exact .comma name spelled

/-! ### Statements of one line -/

/-- What is said of a statement of one line. -/
structure Simple (stmt : Stmt) (taken _rest : List Word) : Prop where
  laid : stmt.Laid Word.Newlines taken
  few : stmt.Few
  attached : stmt.Attached
  closed : ¬stmt.EndsOpen

section

variable {expression : Reader Expr}
  (reads : ∀ words, Reads words (fun expr taken _ => expr.Spelled taken ∧ expr.Few) expression)
  {surroundings : Surroundings}

include reads

theorem reads_returnStatement (opens : Word.first words = .mark (.keyword .returnWord)) :
    Reads words Simple (returnStatement expression surroundings) := by
  unfold returnStatement
  split
  next => exact fun _ _ => trivial
  next =>
    refine reads_bind (reads_takeWord opens (by decide)) ?_
    rintro first _ rest - rfl
    refine reads_bind reads_current ?_
    rintro next _ rest - ⟨rfl, -⟩
    split
    next => exact reads_pure ⟨.returnsNothing _, nofun, trivial, not_false⟩
    next =>
      refine reads_bind (reads _) ?_
      rintro value taken rest - ⟨spelled, few⟩
      refine reads_pure ⟨?_, ?_, trivial, not_false⟩
      · rw [List.append_nil]
        exact .returns _ spelled
      · rintro _ ⟨⟩
        exact few

omit reads in
theorem reads_jumpStatement {word : Keyword} {jump : Span → Stmt}
    (opens : Word.first words = .mark (.keyword word))
    (simple : ∀ span, Simple (jump span) [.mark (.keyword word)] []) :
    Reads words Simple (jumpStatement word surroundings jump) := by
  unfold jumpStatement
  split
  next =>
    refine reads_bind (reads_takeWord opens nofun) ?_
    rintro token _ rest - rfl
    exact reads_pure ⟨(simple _).laid, (simple _).few, (simple _).attached, (simple _).closed⟩
  next => exact fun _ _ => trivial

omit reads in
theorem reads_importStatement (opens : Word.first words = .mark (.keyword .importWord)) :
    Reads words Simple importStatement := by
  unfold importStatement
  refine reads_bind (reads_takeWord opens (by decide)) ?_
  rintro first _ rest - rfl
  refine reads_bind reads_expectIdentifier ?_
  rintro name _ rest - rfl
  exact reads_pure ⟨.imports _ _, trivial, trivial, not_false⟩

theorem reads_assignmentOrExpression :
    Reads words Simple (assignmentOrExpression expression) := by
  unfold assignmentOrExpression
  refine reads_bind reads_get ?_
  rintro cursor _ rest split ⟨rfl, faces⟩
  rw [List.nil_append] at split
  subst split
  split
  next both =>
    obtain ⟨identifier, sign⟩ := both
    have opens := faces.current.symm.trans (Token.word_eq_name.mpr ⟨identifier, rfl⟩)
    cases words with
    | nil => cases opens
    | cons word others =>
      have assigns := faces.following.symm.trans ((Token.word_eq_mark rfl).mpr sign)
      unfold assignment
      refine reads_bind (reads_take (by rw [opens]; exact fun same => nomatch same)) ?_
      rintro target _ rest split ⟨rfl, same⟩
      obtain rfl := (List.cons.inj split).2
      rw [opens] at same ⊢
      rw [← (Token.word_eq_name.mp same).2]
      refine reads_bind (reads_discard (reads_takeWord assigns (by decide))) ?_
      rintro _ _ rest - ⟨_, rfl⟩
      refine reads_bind (reads rest) ?_
      rintro value taken rest - ⟨spelled, few⟩
      refine reads_pure ⟨?_, few, trivial, not_false⟩
      rw [List.append_nil]
      exact .assign _ _ spelled
  next =>
    refine reads_bind (reads words) ?_
    rintro value taken rest - ⟨spelled, few⟩
    refine reads_pure ⟨?_, few, trivial, not_false⟩
    rw [List.append_nil, List.nil_append]
    exact .expr spelled

theorem reads_oneLine : Reads words Simple (oneLine expression surroundings) := by
  unfold oneLine
  refine reads_bind reads_current ?_
  rintro token _ rest split ⟨rfl, word⟩
  rw [List.nil_append] at split
  subst split
  split
  next kind => exact reads_returnStatement reads (first_of_kind word kind rfl)
  next kind =>
    refine reads_bind (reads_takeWord (first_of_kind word kind rfl) (by decide)) ?_
    rintro token _ rest - rfl
    exact reads_pure ⟨.pass _, trivial, trivial, not_false⟩
  next kind =>
    exact reads_jumpStatement (first_of_kind word kind rfl)
      fun span => ⟨.breaks span, trivial, trivial, not_false⟩
  next kind =>
    exact reads_jumpStatement (first_of_kind word kind rfl)
      fun span => ⟨.continues span, trivial, trivial, not_false⟩
  next kind => exact reads_importStatement (first_of_kind word kind rfl)
  next => exact reads_assignmentOrExpression reads

/-- After a statement of one line a newline may be taken. -/
theorem reads_simple : Reads words Stmt.Recorded (simple expression surroundings) := by
  unfold simple
  refine reads_bind (reads_oneLine reads) fun stmt own rest _ line => ?_
  refine reads_bind (reads_discard (reads_accept rfl (by decide))) ?_
  rintro _ blank rest - ⟨found, rfl⟩
  refine reads_pure ⟨⟨own, _, congrArg _ (List.append_nil _), line.laid, ?_⟩, line.attached,
    line.few, fun ended => absurd ended line.closed⟩
  cases found with
  | true => exact List.forall_mem_singleton.mpr rfl
  | false => exact Word.newlines_nil

/-! ### Compound statements -/

/-- The reader of a body takes newlines first, and then records the body. -/
def RecordsBody (inner : Reader Stmt) : Prop :=
  ∀ words, Reads words (fun stmt taken rest => ∃ between own, taken = between ++ own ∧
    Word.Newlines between ∧ stmt.Recorded own rest) inner

omit reads in
theorem recordsBody_body {inner : Reader Stmt}
    (records : ∀ words, Reads words Stmt.Recorded inner) : RecordsBody (body inner) := by
  intro words
  unfold body
  refine reads_bind reads_skipNewlines ?_
  rintro _ between rest - ⟨blank, -⟩
  refine reads_bind reads_sees ?_
  rintro found _ rest - rfl
  split
  next => exact reads_refuse
  next => exact (records rest).weaken fun stmt own rest _ recorded =>
      ⟨between, own, rfl, blank, recorded⟩

/-- A condition, a colon and a body, as they stand in a loop or in an arm. -/
theorem reads_guarded {given : Result → List Word → List Word → Prop} {inner : Reader Stmt}
    (records : RecordsBody inner) {tail : Expr → Stmt → Reader Result}
    (last : ∀ condition content conditionWords between own rest, condition.Spelled conditionWords →
      condition.Few → Word.Newlines between → content.Recorded own rest →
        Reads rest (fun result more final =>
          given result (conditionWords ++ .mark .colon :: between ++ own ++ more) final)
            (tail condition content)) :
    Reads words given (do
      let condition ← expression
      discard (expectToken .colon)
      let content ← inner
      tail condition content) := by
  refine reads_bind (reads words) ?_
  rintro condition conditionWords rest - ⟨spelled, few⟩
  refine reads_bind (reads_discard (reads_expectToken rfl (by decide))) ?_
  rintro _ _ rest - ⟨_, rfl⟩
  refine reads_bind (records rest) ?_
  rintro content _ rest - ⟨between, own, rfl, blank, recorded⟩
  refine (last condition content conditionWords between own rest spelled few blank
    recorded).weaken fun result more final _ holds => ?_
  simpa only [List.append_assoc, List.cons_append, List.nil_append] using holds

theorem reads_whileLoop {inner : Reader Stmt} (records : RecordsBody inner)
    (opens : Word.first words = .mark (.keyword .whileWord)) :
    Reads words Stmt.Recorded (whileLoop expression inner) := by
  unfold whileLoop
  refine reads_bind (reads_takeWord opens (by decide)) ?_
  rintro first _ rest - rfl
  refine reads_guarded reads records ?_
  intro condition content conditionWords between own rest spelled few blank recorded
  refine reads_pure ?_
  rw [List.append_nil, ← List.append_assoc]
  exact recorded.around _ (fun own laid => .whileLoop _ spelled blank laid) id (⟨few, ·⟩) id

theorem reads_forLoop {inner : Reader Stmt} (records : RecordsBody inner)
    (opens : Word.first words = .mark (.keyword .forWord)) :
    Reads words Stmt.Recorded (forLoop expression inner) := by
  unfold forLoop
  refine reads_bind (reads_takeWord opens (by decide)) ?_
  rintro first _ rest - rfl
  refine reads_bind reads_expectName ?_
  rintro loopName _ rest - rfl
  refine reads_bind (reads_discard (reads_expectToken rfl (by decide))) ?_
  rintro _ _ rest - ⟨_, rfl⟩
  refine reads_guarded reads records ?_
  intro iterable content iterableWords between own rest spelled few blank recorded
  refine reads_pure ?_
  rw [List.append_nil]
  exact recorded.around (.mark (.keyword .forWord) :: .name loopName ::
    .mark (.keyword .inWord) :: iterableWords ++ .mark .colon :: between)
    (fun own laid => .forLoop _ loopName spelled blank laid) id (⟨few, ·⟩) id

omit reads in
theorem reads_definition {inner : Surroundings → Reader Stmt}
    (records : RecordsBody (inner .functionBody))
    (opens : Word.first words = .mark (.keyword .defWord)) :
    Reads words Stmt.Recorded (definition inner) := by
  unfold definition
  refine reads_bind (reads_takeWord opens (by decide)) ?_
  rintro first _ rest - rfl
  refine reads_bind reads_expectName ?_
  rintro name _ rest - rfl
  refine reads_bind (reads_discard (reads_expectToken rfl (by decide))) ?_
  rintro _ _ rest - ⟨_, rfl⟩
  refine reads_bind (reads_parameters itemLimit rest) ?_
  rintro names namesWords rest - ⟨spelled, few⟩
  refine reads_bind (reads_discard (reads_expectToken rfl (by decide))) ?_
  rintro _ _ rest - ⟨_, rfl⟩
  refine reads_bind (reads_discard (reads_expectToken rfl (by decide))) ?_
  rintro _ _ rest - ⟨_, rfl⟩
  refine reads_bind (records rest) ?_
  rintro content _ rest - ⟨between, own, rfl, blank, recorded⟩
  refine reads_pure ?_
  have whole := recorded.around _ (fun own laid => .define (first.span.through content.span) name
    spelled blank laid) id (⟨few, ·⟩) id
  simpa only [List.append_assoc, List.cons_append, List.nil_append, List.append_nil] using whole

omit reads in
/-- What is left of a chain without another arm. -/
theorem reads_otherwise {inner : Reader Stmt} (records : RecordsBody inner) (room : Nat)
    (noNewline : Word.first words ≠ .mark .newline)
    (noArm : Word.first words ≠ .mark (.keyword .elifWord)) :
    Reads words (fun others taken rest => others.Recorded room words taken rest)
      (branches.otherwise inner) := by
  unfold branches.otherwise
  refine reads_bind (reads_acceptWord rfl (by decide)) ?_
  rintro found taken rest split accepted
  cases found with
  | false =>
    obtain ⟨rfl, noElse⟩ := accepted
    refine reads_pure ⟨⟨[], [], rfl, .done, Word.newlines_nil⟩, trivial, trivial,
      Nat.zero_le _, fun _ => ?_, fun _ => rfl⟩
    rw [List.nil_append] at split
    exact split ▸ ⟨noNewline, fun _ => ⟨noArm, noElse⟩⟩
  | true =>
    obtain rfl : taken = [_] := accepted
    refine reads_bind (reads_discard (reads_expectToken rfl (by decide))) ?_
    rintro _ _ rest - ⟨_, rfl⟩
    refine reads_bind (records rest) ?_
    rintro content _ rest - ⟨between, _, rfl, blank, recorded⟩
    obtain ⟨own, trailing, rfl, laid, newlines⟩ := recorded.laid
    refine reads_pure ⟨⟨_, trailing, ?_, .otherwise Word.newlines_nil blank laid, newlines⟩,
      recorded.attached, recorded.few, Nat.zero_le _, recorded.beyond, fun beyond => ?_⟩
    · simp only [List.append_assoc, List.cons_append, List.nil_append, List.append_nil]
    · exact absurd (congrArg Word.first split) (beyond.branch trivial).2

/-- The branches after an arm are recorded, and there are not too many of them. -/
theorem reads_branches {inner : Reader Stmt} (records : RecordsBody inner) (room : Nat)
    (words : List Word) :
    Reads words (fun others taken rest => others.Recorded room words taken rest)
      (branches expression inner room) := by
  -- Whatever is skipped first, no branch comes where neither a newline nor a branch came.
  have skipped {words blank rest taken final : List Word} {others : Branches} {room : Nat}
      (split : words = blank ++ rest) (newlines : Word.Newlines blank)
      (still : Word.first words ≠ .mark .newline → blank = [])
      (recorded : others.Recorded room rest taken final) :
      others.Recorded room words (blank ++ taken) final := by
    obtain ⟨own, trailing, rfl, laid, newlinesAfter⟩ := recorded.laid
    obtain ⟨after, between, splitAfter, laidAfter, newlinesBetween⟩ := laid.after newlines
    refine ⟨⟨after, between ++ trailing, ?_, laidAfter, newlinesBetween.append newlinesAfter⟩,
      recorded.attached, recorded.few, recorded.arms, recorded.beyond, fun beyond => ?_⟩
    · rw [← List.append_assoc, splitAfter, List.append_assoc]
    · rw [still beyond.newline, List.nil_append] at split
      exact recorded.none (split ▸ beyond)
  induction room generalizing words with
  | zero =>
    refine reads_bind reads_skipNewlines ?_
    rintro _ blank rest split ⟨newlines, other, still⟩
    refine reads_bind (reads_seesWord rfl) ?_
    rintro found _ left same ⟨rfl, isElif⟩
    rw [List.nil_append] at same
    subst same
    split
    next => exact reads_refuse
    next noElif =>
      exact (reads_otherwise records 0 other (mt isElif.mp noElif)).weaken
        fun others taken final _ recorded => skipped split newlines still recorded
  | succ room hypothesis =>
    refine reads_bind reads_skipNewlines ?_
    rintro _ blank rest split ⟨newlines, other, still⟩
    refine reads_bind (reads_acceptWord rfl (by decide)) ?_
    rintro found taken left same accepted
    cases found with
    | false =>
      obtain ⟨rfl, noElif⟩ := accepted
      rw [List.nil_append] at same
      subst same
      exact (reads_otherwise records (room + 1) other noElif).weaken
        fun others taken final _ recorded => skipped split newlines still recorded
    | true =>
      obtain rfl : taken = [_] := accepted
      refine reads_guarded reads records ?_
      intro condition content conditionWords between own left spelled few blankBody recorded
      refine reads_bind (hypothesis left) fun others othersWords final _ recordedOthers => ?_
      obtain ⟨⟨ownBody, ownOthers, trailing, whole, laid, laidOthers, newlinesAfter⟩, attached⟩ :=
        recorded.followed recordedOthers
      refine reads_pure ?_
      refine skipped split newlines still ⟨⟨_, trailing, ?_,
        .arm Word.newlines_nil spelled blankBody laid laidOthers, newlinesAfter⟩,
        ⟨attached, recorded.attached, recordedOthers.attached⟩,
        ⟨few, recorded.few, recordedOthers.few⟩, Nat.succ_le_succ recordedOthers.arms,
        recordedOthers.beyond, fun beyond => ?_⟩
      · rw [List.append_assoc] at whole
        simp only [List.append_assoc, List.cons_append, List.nil_append, List.append_nil, whole]
      · exact absurd (congrArg Word.first same) (beyond.branch trivial).1

theorem reads_branch {inner : Reader Stmt} (records : RecordsBody inner)
    (opens : Word.first words = .mark (.keyword .ifWord)) :
    Reads words Stmt.Recorded (branch expression inner) := by
  unfold branch
  refine reads_bind (reads_takeWord opens (by decide)) ?_
  rintro first _ rest - rfl
  refine reads_guarded reads records ?_
  intro condition content conditionWords between own left spelled few blank recorded
  refine reads_bind (reads_branches reads records (itemLimit - 1) left) ?_
  rintro others othersWords final - recordedOthers
  obtain ⟨⟨ownBody, ownOthers, trailing, whole, laid, laidOthers, newlines⟩, attached⟩ :=
    recorded.followed recordedOthers
  refine reads_pure ⟨⟨_, trailing, ?_, .branch _ spelled blank laid laidOthers, newlines⟩,
    ⟨attached, recorded.attached, recordedOthers.attached⟩,
    ⟨?_, few, recorded.few, recordedOthers.few⟩, recordedOthers.beyond⟩
  · rw [List.append_assoc] at whole
    simp only [List.append_assoc, List.cons_append, List.nil_append, List.append_nil, whole]
  · exact Nat.add_comm 1 _ ▸ Nat.succ_le_succ recordedOthers.arms

/-- A statement is recorded if the bodies in it are. -/
theorem reads_statementWith {inner : Surroundings → Reader Stmt}
    (records : ∀ inside, RecordsBody (inner inside)) (words : List Word) :
    Reads words Stmt.Recorded (statementWith expression inner surroundings) := by
  unfold statementWith
  refine reads_bind reads_current ?_
  rintro token _ rest split ⟨rfl, word⟩
  rw [List.nil_append] at split
  subst split
  split
  next kind => exact reads_definition (records _) (first_of_kind word kind rfl)
  next kind => exact reads_branch reads (records _) (first_of_kind word kind rfl)
  next kind => exact reads_forLoop reads (records _) (first_of_kind word kind rfl)
  next kind => exact reads_whileLoop reads (records _) (first_of_kind word kind rfl)
  next => exact reads_simple reads

omit reads in
/-- Whatever statement is read is recorded. -/
theorem reads_statement (room : Nat) (surroundings : Surroundings) (words : List Word) :
    Reads words Stmt.Recorded (statement room surroundings) := by
  induction room generalizing surroundings words with
  | zero =>
    exact reads_statementWith (reads_fewExpression 0)
      (fun inside => recordsBody_body fun words => reads_refuse) words
  | succ room hypothesis =>
    exact reads_statementWith (reads_fewExpression (room + 1))
      (fun inside => recordsBody_body (hypothesis inside)) words

end

/-! ### Whole sources -/

/-- A message is never taken back. -/
theorem diagnostics_ne_nil (items : List Stmt) (first : Diagnostic)
    (diagnostics : List Diagnostic) (rounds : Nat) (cursor : Cursor) :
    (statementsAfter (statement nestingLimit .topLevel) items (first :: diagnostics) rounds
      cursor).diagnostics ≠ [] := by
  obtain ⟨further, found, -⟩ :=
    diagnostics_statementsAfter items (first :: diagnostics) rounds cursor
  rw [found, List.reverse_cons, List.append_assoc]
  exact List.append_ne_nil_of_right_ne_nil _ (List.cons_ne_nil _ _)

/-- Where no message comes up, the statements that are read are all that the words say. -/
theorem laid_statementsAfter (items : List Stmt) {rounds : Nat} {cursor : Cursor}
    {words : List Word} (faces : cursor.Faces words)
    (inside : ∀ word ∈ words, word ≠ .mark .endOfInput) (enough : words.length ≤ rounds)
    (clean : (statementsAfter (statement nestingLimit .topLevel) items [] rounds
      cursor).diagnostics = []) :
    ∃ again, (statementsAfter (statement nestingLimit .topLevel) items [] rounds cursor).items =
        items.reverse ++ again ∧
      Stmt.AllLaid Word.Newlines again words ∧ ∀ item ∈ again, item.Attached ∧ item.Few := by
  -- Every statement takes a word at least, so the words get fewer as the rounds do.
  induction rounds generalizing items cursor words with
  | zero =>
    obtain rfl := List.eq_nil_of_length_eq_zero (Nat.le_zero.mp enough)
    exact ⟨[], (List.append_nil _).symm, .none Word.newlines_nil, List.forall_mem_nil _⟩
  | succ rounds hypothesis =>
    obtain ⟨blank, rest, rfl, facesRest, newlines, -⟩ :=
      ends_skipNewlines.mp (reads_skipNewlines cursor faces)
    rw [List.length_append] at enough
    unfold statementsAfter at clean ⊢
    dsimp only at clean ⊢
    split at clean
    next ended =>
      rw [if_pos ended]
      have last : Word.first rest = .mark .endOfInput :=
        facesRest.current.symm.trans ((Token.word_eq_mark rfl).mpr ended)
      cases rest with
      | nil =>
        rw [List.append_nil]
        exact ⟨[], (List.append_nil _).symm, .none newlines, List.forall_mem_nil _⟩
      | cons word rest =>
        exact absurd last (inside word (List.mem_append_right _ List.mem_cons_self))
    next more =>
      rw [if_neg more]
      split at clean
      next item after through =>
        obtain ⟨taken, left, rfl, facesLeft, recorded⟩ :=
          (reads_statement nestingLimit .topLevel rest _ facesRest).of_ok through
        obtain ⟨own, trailing, rfl, laid, newlinesAfter⟩ := recorded.laid
        have length := laid.length_pos
        simp only [List.length_append] at enough
        obtain ⟨again, found, laidRest, rightly⟩ := hypothesis (item :: items) facesLeft
          (fun word member =>
            inside word (List.mem_append_right _ (List.mem_append_right _ member)))
          (by omega) clean
        refine ⟨item :: again, ?_, ?_,
          List.forall_mem_cons.mpr ⟨⟨recorded.attached, recorded.few⟩, rightly⟩⟩
        · rw [found, List.reverse_cons, List.append_assoc]
          rfl
        · have whole := Stmt.AllLaid.next newlines laid (laidRest.after newlinesAfter)
          simpa only [List.append_assoc] using whole
      next => exact absurd clean (diagnostics_ne_nil _ _ _ _ _)

end Reader

/-- A program comes of reading its statements without any message. -/
theorem Program.read_of_ofSource {source : Bytes} {program : Program}
    (read : ofSource source = .ok program) :
    program = ⟨(Reader.statements (Cursor.ofTokens (Tokens.ofSource source))).items⟩ ∧
      (Tokens.ofSource source).words.filterMap Token.problem? = [] ∧
      (Reader.statements (Cursor.ofTokens (Tokens.ofSource source))).diagnostics = [] := by
  unfold ofSource at read
  dsimp only at read
  split at read
  next none =>
    cases read
    exact ⟨rfl, List.append_eq_nil_iff.mp none⟩
  next => cases read

/-- Taking the newlines out of some tokens takes them out of their words. -/
theorem Word.squeezed_map (tokens : List Token) :
    squeezed (tokens.map Token.word) =
      (tokens.filter fun token => token.kind != .newline).map Token.word := by
  unfold squeezed
  rw [List.filter_map]
  refine congrArg _ (List.filter_congr fun token _ => ?_)
  rw [Function.comp_apply, Bool.eq_iff_iff, Bool.not_eq_true', ← Bool.not_eq_true, isNewline_iff,
    Token.word_eq_mark rfl, bne_iff_ne]

/-- The structure of a program is exactly its source. The statements one after another, with their
reserved words, names, signs and expressions in the order of the grammar, are the words of the
source without its newlines; only a comma that ends a list is free. With the newlines they are so
as well, and these stand between statements and at both ends, after the colon of a header, and
before an arm or an `else`. Every branch belongs to the nearest `if` that is still open, and no
list and no chain of arms is longer than allowed. -/
theorem program_is_laid_out_as_source {source : Bytes} {program : Program}
    (read : Program.ofSource source = .ok program) :
    let tokens := (Tokens.ofSource source).words
    Stmt.AllLaid Word.Nothing program.items
      ((tokens.filter fun token => token.kind != .newline).map Token.word) ∧
    Stmt.AllLaid Word.Newlines program.items (tokens.map Token.word) ∧
    ∀ item ∈ program.items, item.Attached ∧ item.Few := by
  intro tokens
  obtain ⟨rfl, -, clean⟩ := Program.read_of_ofSource read
  have faces : (Cursor.ofTokens (Tokens.ofSource source)).Faces (tokens.map Token.word) :=
    ⟨rfl, (Tokens.kind_ofSource source).1⟩
  have inside : ∀ word ∈ tokens.map Token.word, word ≠ .mark .endOfInput := by
    intro word member
    obtain ⟨token, listed, rfl⟩ := List.mem_map.mp member
    exact mt (Token.word_eq_mark rfl).mp ((Tokens.kind_ofSource source).2 token listed)
  obtain ⟨again, found, laid, rightly⟩ := Reader.laid_statementsAfter [] faces inside
    (Nat.le_of_eq (List.length_map _)) clean
  rw [List.reverse_nil, List.nil_append] at found
  have items : (Reader.statements (Cursor.ofTokens (Tokens.ofSource source))).items = again :=
    found
  rw [← Word.squeezed_map]
  dsimp only
  rw [items]
  exact ⟨laid.squeezed, laid, rightly⟩

/-- Bodies on the line of the colon and on a later one, commas at the end of lists, an `else` after
an inner `if`, and a statement right after another. -/
theorem else_after_inner_if_is_laid_out :
    let source := ascii ("\ndef f(a, b,):\n\n if a: pass\n elif b: if a: return [1,]\n\n" ++
      " else: pass x = f(1, 2)\n")
    let tokens := (Tokens.ofSource source).words
    tokens.length = 42 ∧ ∃ program, Program.ofSource source = .ok program ∧
      program.items.length = 2 ∧
      Stmt.AllLaid Word.Nothing program.items
        ((tokens.filter fun token => token.kind != .newline).map Token.word) ∧
      Stmt.AllLaid Word.Newlines program.items (tokens.map Token.word) ∧
      ∀ item ∈ program.items, item.Attached ∧ item.Few := by
  intro source tokens
  have items : (Program.ofSource source).toOption.map (fun program => program.items.length) =
      some 2 := by
    decide +kernel
  refine ⟨by decide +kernel, ?_⟩
  cases read : Program.ofSource source with
  | ok program =>
    rw [read] at items
    exact ⟨program, rfl, Option.some.inj items, program_is_laid_out_as_source read⟩
  | error diagnostics =>
    rw [read] at items
    cases items

end Scriptling
