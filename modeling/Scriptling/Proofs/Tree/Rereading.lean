/-
This file proves that the words of a statement are read back as that statement,
up to its places. What comes after it may not be a newline, and no `elif` or
`else` if the statement ends with an `if` that is open. Only the depth of the
statement can prevent it, as for expressions, and a statement of few words is
not deep.
-/

import Scriptling.Proofs.Tree.Writing

namespace Scriptling

/-! ### Words around a statement -/

theorem Cursor.Faces.following {cursor : Cursor} {word : Word} {words : List Word}
    (faces : cursor.Faces (word :: words)) : cursor.following.word = Word.first words :=
  faces.advance.current

namespace Word

/-- A word with which a statement can begin. -/
def opensStatement : Word → Bool
  | .mark (.keyword .defWord) | .mark (.keyword .ifWord) | .mark (.keyword .forWord)
  | .mark (.keyword .whileWord) | .mark (.keyword .returnWord) | .mark (.keyword .passWord)
  | .mark (.keyword .breakWord) | .mark (.keyword .continueWord)
  | .mark (.keyword .importWord) => true
  | word => word.opensExpression

/-- A word with which a statement begins that has a body. -/
def opensBlock : Word → Bool
  | .mark (.keyword .defWord) | .mark (.keyword .ifWord) | .mark (.keyword .forWord)
  | .mark (.keyword .whileWord) => true
  | _ => false

theorem opensBlock_of_opensExpression {word : Word} (opens : word.opensExpression = true) :
    word.opensBlock = false := by
  unfold opensBlock
  split <;> first | rfl | cases opens

theorem ne_mark_of_opens {word : Word} {kind : TokenKind} (opens : word.opensStatement = true)
    (other : (Word.mark kind).opensStatement = false) : word ≠ .mark kind := by
  rintro rfl
  rw [other] at opens
  cases opens

/-- Some words do not belong to what stands before them, which may be an `if` that is open. -/
structure Beyond (isOpen : Prop) (words : List Word) : Prop where
  newline : first words ≠ .mark .newline
  branch : isOpen → first words ≠ .mark (.keyword .elifWord) ∧
    first words ≠ .mark (.keyword .elseWord)

theorem Beyond.weaken {isOpen otherOpen : Prop} {words : List Word} (beyond : Beyond isOpen words)
    (less : otherOpen → isOpen) : Beyond otherOpen words :=
  ⟨beyond.newline, fun opened => beyond.branch (less opened)⟩

theorem first_append_of_opens {words : List Word} {word : Word} {others : List Word}
    (begins : words = word :: others) (rest : List Word) : first (words ++ rest) = word := by
  rw [begins]
  rfl

end Word

theorem Expr.opens_words (expr : Expr) :
    ∃ word rest, expr.words = word :: rest ∧ word.opensExpression = true :=
  expr.spelled_words.opens

theorem Stmt.opens_words (stmt : Stmt) :
    ∃ word rest, stmt.words = word :: rest ∧ word.opensStatement = true := by
  cases stmt with
  | expr value =>
    obtain ⟨word, rest, begins, opens⟩ := value.opens_words
    refine ⟨word, rest ++ [.mark .newline], ?_, ?_⟩
    · rw [Stmt.words, begins]
      rfl
    · unfold Word.opensStatement
      split <;> first | rfl | exact opens
  | returns span value => cases value <;> exact ⟨_, _, rfl, rfl⟩
  | _ => exact ⟨_, _, rfl, rfl⟩

/-- No expression begins like an assignment. -/
theorem Expr.isNoAssignment (expr : Expr) (rest : List Word) {name : Name}
    (opens : Word.first (expr.words ++ rest) = .name name)
    (after : Word.first rest ≠ .mark .assign) :
    Word.first (expr.words ++ rest).tail ≠ .mark .assign := by
  match expr with
  | .number .. => cases opens
  | .string .. => cases opens
  | .name .. => exact after
  | .binary _ operator left right =>
    rw [Expr.words, List.append_assoc] at opens ⊢
    exact left.isNoAssignment _ opens (by cases operator <;> exact fun same => nomatch same)
  | .unary _ operator _ => cases operator <;> cases opens
  | .call .. => exact fun same => nomatch same
  | .paren .. => cases opens
  | .list .. => cases opens
  | .subscript _ target index =>
    rw [Expr.words, List.append_assoc, List.append_assoc] at opens ⊢
    exact target.isNoAssignment _ opens fun same => nomatch same

namespace Branches

variable {others : Branches} {rest : List Word}

theorem first_ne_newline (others : Branches) {isOpen : Prop} (beyond : Word.Beyond isOpen rest) :
    Word.first (others.words ++ rest) ≠ .mark .newline := by
  cases others with
  | arm => exact fun same => nomatch same
  | otherwise => exact fun same => nomatch same
  | done => exact beyond.newline

theorem first_ne_elif (last : others.arms = 0) (beyond : Word.Beyond others.EndsOpen rest) :
    Word.first (others.words ++ rest) ≠ .mark (.keyword .elifWord) := by
  cases others with
  | arm => cases last
  | otherwise => exact fun same => nomatch same
  | done => exact (beyond.branch trivial).1

/-- The branches after a body do not belong to it, unless there are none. -/
theorem beyond_words {body : Stmt} (closed : others = .done ∨ ¬body.EndsOpen)
    (beyond : Word.Beyond others.EndsOpen rest) :
    Word.Beyond body.EndsOpen (others.words ++ rest) := by
  refine ⟨others.first_ne_newline beyond, fun opened => ?_⟩
  rcases closed with rfl | closed
  · exact beyond.branch trivial
  · exact absurd opened closed

end Branches

namespace Reader

variable {few tight : Prop} {rest : List Word}

/-! ### Single steps -/

theorem recovers_get {words : List Word} :
    Recovers few tight words words (fun cursor : Cursor => cursor.Faces words) get :=
  fun _ faces => ⟨faces, faces⟩

theorem recovers_expectIdentifier {name : Name} {expected : Expectation} :
    Recovers few tight (.name name :: rest) rest (fun token => token.text = name)
      (expect .identifier expected) := by
  intro cursor faces
  obtain ⟨kind, text⟩ := Token.word_eq_name.mp faces.current
  rw [ends_expect, if_pos kind]
  exact ⟨faces.advance, text⟩

theorem recovers_expectName {name : Name} {expected : Expectation} :
    Recovers few tight (.name name :: rest) rest (fun result => result = name)
      (expectName expected) :=
  recovers_bind recovers_expectIdentifier fun _ text => recovers_pure text

theorem recovers_skipNewlines_of_other {words : List Word}
    (other : Word.first words ≠ .mark .newline) :
    Recovers few tight words words (fun _ => True) skipNewlines := by
  intro cursor faces
  rw [ends_skipNewlines, faces.skipNewlines_of_other other]
  exact ⟨faces, trivial⟩

theorem recovers_skipNewlines (other : Word.first rest ≠ .mark .newline) :
    Recovers few tight (.mark .newline :: rest) rest (fun _ => True) skipNewlines := by
  intro cursor faces
  rw [ends_skipNewlines, faces.skipNewlines_of_cons rfl, faces.advance.skipNewlines_of_other other]
  exact ⟨faces.advance, trivial⟩

/-- Parameters are read back if they are not too many. -/
theorem recovers_parameters {names : List Name} {room : Nat} (fits : names.length ≤ room) :
    Recovers few tight (Name.allWords names ++ .mark .rightParen :: rest)
      (.mark .rightParen :: rest) (fun result => result = names) (parameters room) := by
  induction names generalizing room with
  | nil =>
    cases room <;>
    · refine recovers_bind (recovers_sees rfl) fun found isClose => ?_
      rw [if_pos (isClose.mpr rfl)]
      exact recovers_pure rfl
  | cons name others hypothesis =>
    obtain ⟨room, rfl⟩ := Nat.exists_eq_add_one_of_ne_zero (Nat.ne_zero_of_lt fits)
    refine recovers_bind (recovers_sees rfl) fun found isClose => ?_
    cases others with
    | nil =>
      rw [if_neg (mt isClose.mp fun same => nomatch same)]
      refine recovers_bind recovers_expectName ?_
      rintro _ rfl
      refine recovers_bind (recovers_accept_of_ne rfl fun same => nomatch same) ?_
      rintro _ rfl
      exact recovers_pure rfl
    | cons next others =>
      rw [if_neg (mt isClose.mp fun same => nomatch same)]
      refine recovers_bind recovers_expectName ?_
      rintro _ rfl
      refine recovers_bind (recovers_accept rfl) ?_
      rintro _ rfl
      refine recovers_bind (hypothesis (Nat.le_of_succ_le_succ fits)) ?_
      rintro _ rfl
      exact recovers_pure rfl

/-! ### Statements of one line -/

/-- What is read is a statement up to its places. -/
def SameStatement (wanted result : Stmt) : Prop :=
  result.unplaced = wanted.unplaced

theorem SameStatement.unplaced {wanted result : Stmt} (same : SameStatement wanted result) :
    result.unplaced = wanted.unplaced :=
  same

/-- A reader reads back every statement that can be written where its jumps are in their place,
and if it meets a level too many, then some bound is exceeded. -/
def CompleteStatement (bound : Nat) (surroundings : Surroundings) (reader : Reader Stmt) : Prop :=
  ∀ (stmt : Stmt) (rest : List Word), stmt.Writable → stmt.Scoped surroundings →
    Word.Beyond stmt.EndsOpen rest →
      Recovers True (bound ≤ 2 * stmt.words.length) (stmt.words ++ rest) rest (SameStatement stmt)
        reader

variable {bound : Nat} {expression : Reader Expr} {surroundings : Surroundings}

/-- A word that a kind stands for alone tells the kind of the next token. -/
theorem kind_of_first {token : Token} {words : List Word} {kind : TokenKind}
    (word : token.word = Word.first (.mark kind :: words)) (plain : kind.isPlain = true) :
    token.kind = kind :=
  (Token.word_eq_mark plain).mp word

section

variable (complete : CompleteExpression bound expression)

include complete

/-- An expression is read back before a newline or a colon. -/
theorem recovers_expression {expr : Expr} (writable : expr.Writable) {next : TokenKind}
    (ends : next = .newline ∨ next = .colon) (rest : List Word) :
    Recovers True (bound ≤ 2 * expr.words.length) (expr.words ++ .mark next :: rest)
      (.mark next :: rest) (Alike expr) expression := by
  have apart : (Word.first (.mark next :: rest)).goesOn = false := by
    rcases ends with rfl | rfl <;> rfl
  have noOperator : (Word.first (.mark next :: rest)).binary? = none := by
    rcases ends with rfl | rfl <;> rfl
  exact (complete expr expr.words _ expr.spelled_words writable.grouped apart noOperator).weaken
    (fun _ => writable.few) id

theorem recovers_returnStatement {span : Span} {value : Option Expr}
    (writable : ∀ expr ∈ value, expr.Writable) (inside : surroundings.inFunction = true) :
    Recovers True (bound ≤ 2 * (Stmt.returns span value).words.length)
      ((Stmt.returns span value).words ++ rest) (.mark .newline :: rest)
      (SameStatement (.returns span value)) (returnStatement expression surroundings) := by
  unfold returnStatement
  rw [inside]
  show Recovers _ _ _ _ _ (take >>= _)
  cases value with
  | none =>
    refine recovers_bind recovers_take fun first _ => ?_
    refine recovers_bind recovers_current fun next word => ?_
    rw [if_pos (Or.inl (kind_of_first word rfl))]
    exact recovers_pure rfl
  | some value =>
    rw [Stmt.words, List.cons_append, List.append_assoc]
    refine recovers_bind recovers_take fun first _ => ?_
    refine recovers_bind recovers_current fun next word => ?_
    obtain ⟨opening, others, begins, opens⟩ := value.opens_words
    rw [Word.first_append_of_opens begins] at word
    rw [← word] at opens
    -- The value begins with a word that ends neither the line nor the input.
    rw [if_neg ?_]
    · have read := recovers_expression complete (writable value rfl) (Or.inl rfl) rest
      refine recovers_bind (read.weaken id fun exceeds => ?_) fun result same => recovers_pure ?_
      · rw [List.length_cons, List.length_append]
        omega
      · simp [SameStatement, Stmt.unplaced, same.unplaced]
    · rintro (newline | finish)
      · rw [(Token.word_eq_mark rfl).mpr newline] at opens
        cases opens
      · rw [(Token.word_eq_mark rfl).mpr finish] at opens
        cases opens

theorem recovers_assignment {span : Span} {name : Name} {value : Expr} (writable : value.Writable) :
    Recovers True (bound ≤ 2 * (Stmt.assign span name value).words.length)
      ((Stmt.assign span name value).words ++ rest) (.mark .newline :: rest)
      (SameStatement (.assign span name value)) (assignmentOrExpression expression) := by
  rw [Stmt.words, List.cons_append, List.cons_append, List.append_assoc]
  refine recovers_bind recovers_get fun cursor faces => ?_
  rw [if_pos ⟨(Token.word_eq_name.mp faces.current).1,
    (Token.word_eq_mark rfl).mp faces.following⟩]
  refine recovers_bind recovers_take fun target same => ?_
  refine recovers_bind (recovers_discard recovers_take) fun _ _ => ?_
  have read := recovers_expression complete writable (Or.inl rfl) rest
  refine recovers_bind (read.weaken id fun exceeds => ?_) fun result sameValue => recovers_pure ?_
  · rw [List.length_cons, List.length_cons, List.length_append]
    omega
  · simp [SameStatement, Stmt.unplaced, sameValue.unplaced, (Token.word_eq_name.mp same).2]

theorem recovers_expressionStatement {value : Expr} (writable : value.Writable) :
    Recovers True (bound ≤ 2 * (Stmt.expr value).words.length)
      ((Stmt.expr value).words ++ rest) (.mark .newline :: rest)
      (SameStatement (.expr value)) (assignmentOrExpression expression) := by
  rw [Stmt.words, List.append_assoc]
  refine recovers_bind recovers_get fun cursor faces => ?_
  have noAssignment : ¬(cursor.current.kind = .identifier ∧ cursor.following.kind = .assign) := by
    -- The words of an expression go on in another way after a name.
    rintro ⟨name, assign⟩
    obtain ⟨opening, others, begins, -⟩ := value.opens_words
    have opens := faces.current.symm.trans (Token.word_eq_name.mpr ⟨name, rfl⟩)
    refine value.isNoAssignment _ opens (fun same => nomatch same) ?_
    rw [begins] at faces ⊢
    exact faces.following.symm.trans ((Token.word_eq_mark rfl).mpr assign)
  rw [if_neg noAssignment]
  have read := recovers_expression complete writable (Or.inl rfl) rest
  refine recovers_bind (read.weaken id fun exceeds => ?_) fun result same => recovers_pure ?_
  · rw [List.length_append]
    omega
  · simp [SameStatement, Stmt.unplaced, same.unplaced]

end

/-- A statement of one word is read back where it may stand. -/
theorem recovers_jumpStatement {word : Keyword} {kind : TokenKind} {jump : Span → Stmt}
    {span : Span} (same : ∀ other, SameStatement (jump span) (jump other))
    (inside : surroundings.inLoop = true) :
    Recovers few tight (.mark kind :: rest) rest (SameStatement (jump span))
      (jumpStatement word surroundings jump) := by
  unfold jumpStatement
  rw [if_pos inside]
  exact recovers_bind recovers_take fun token _ => recovers_pure (same token.span)

theorem recovers_importStatement {kind : TokenKind} {span : Span} {name : Name} :
    Recovers few tight (.mark kind :: .name name :: rest) rest (SameStatement (.imports span name))
      importStatement := by
  refine recovers_bind recovers_take fun first _ => ?_
  refine recovers_bind recovers_expectIdentifier ?_
  rintro token rfl
  exact recovers_pure rfl

section

variable {words : List Word} {like : Stmt → Prop} {inner : Surroundings → Reader Stmt}

/-- A statement without a body is read as one line and the newline after it. -/
theorem recovers_line (noBlock : (Word.first words).opensBlock = false)
    (read : Recovers few tight words (.mark .newline :: rest) like
      (oneLine expression surroundings)) :
    Recovers few tight words rest like (statementWith expression inner surroundings) := by
  have line : Recovers few tight words rest like (simple expression surroundings) := by
    refine recovers_bind read fun result holds => ?_
    exact recovers_bind (recovers_discard (recovers_accept rfl)) fun _ _ => recovers_pure holds
  refine recovers_bind recovers_current fun token word => ?_
  rw [← word] at noBlock
  obtain ⟨kind, text, value, span, closed⟩ := token
  cases kind with
  | keyword keyword => cases keyword <;> first | exact line | cases noBlock
  | _ => exact line

/-- Where an expression could begin, a line is an assignment or an expression. -/
theorem recovers_oneLine_of_opens (opens : (Word.first words).opensExpression = true)
    (read : Recovers few tight words rest like (assignmentOrExpression expression)) :
    Recovers few tight words rest like (oneLine expression surroundings) := by
  refine recovers_bind recovers_current fun token word => ?_
  rw [← word] at opens
  obtain ⟨kind, text, value, span, closed⟩ := token
  cases kind with
  | keyword keyword => cases keyword <;> first | exact read | cases opens
  | _ => exact read

end

/-! ### Compound statements -/

/-- A reader reads back every body on the line after a colon. -/
def CompleteBody (bound : Nat) (surroundings : Surroundings) (reader : Reader Stmt) : Prop :=
  ∀ (stmt : Stmt) (rest : List Word), stmt.Writable → stmt.Scoped surroundings →
    Word.Beyond stmt.EndsOpen rest →
      Recovers True (bound ≤ 2 * stmt.words.length) (.mark .newline :: (stmt.words ++ rest)) rest
        (SameStatement stmt) reader

theorem complete_body {statement : Reader Stmt}
    (complete : CompleteStatement bound surroundings statement) :
    CompleteBody bound surroundings (body statement) := by
  intro stmt rest writable placed beyond
  obtain ⟨word, others, begins, opens⟩ := stmt.opens_words
  have first := Word.first_append_of_opens begins rest
  have noNewline : Word.first (stmt.words ++ rest) ≠ .mark .newline := by
    rw [first]
    exact Word.ne_mark_of_opens opens rfl
  have noEnd : Word.first (stmt.words ++ rest) ≠ .mark .endOfInput := by
    rw [first]
    exact Word.ne_mark_of_opens opens rfl
  refine recovers_bind (recovers_skipNewlines noNewline) fun _ _ => ?_
  refine recovers_bind (recovers_sees rfl) fun found isEnd => ?_
  rw [if_neg (mt isEnd.mp noEnd)]
  exact complete stmt rest writable placed beyond

section

variable {inner : Reader Stmt} {innerBound : Nat}
  (complete : CompleteExpression bound expression)
  (completeInner : CompleteBody innerBound surroundings inner) (near : bound ≤ innerBound + 1)

include complete completeInner near

/-- A condition and a body, as they stand in a loop or in an arm. -/
theorem recovers_guarded {condition : Expr} {content : Stmt} {Result : Type}
    {like : Result → Prop} {last : List Word} {tail : Expr → Stmt → Reader Result}
    (writableCondition : condition.Writable) (writable : content.Writable)
    (placed : content.Scoped surroundings) (beyond : Word.Beyond content.EndsOpen rest)
    (deep : bound ≤ 2 * (condition.words ++ content.words).length + 1 → tight)
    (goesOn : ∀ value result, Alike condition value → SameStatement content result →
      Recovers True tight rest last like (tail value result)) :
    Recovers True tight
      (condition.words ++ .mark .colon :: .mark .newline :: (content.words ++ rest)) last like (do
        let value ← expression
        discard (expectToken .colon)
        let result ← inner
        tail value result) := by
  rw [List.length_append] at deep
  have first := recovers_expression complete writableCondition (Or.inr rfl)
    (.mark .newline :: (content.words ++ rest))
  refine recovers_bind (first.weaken id fun exceeds => deep ?_) fun value sameCondition => ?_
  · omega
  refine recovers_bind (recovers_discard (recovers_expectToken rfl)) fun _ _ => ?_
  refine recovers_bind ((completeInner content rest writable placed beyond).weaken id
    fun exceeds => deep ?_) fun result same => goesOn value result sameCondition same
  omega

omit complete in
/-- What is left of a chain without another arm. -/
theorem recovers_otherwise {others : Branches} (writable : others.Writable)
    (placed : others.Scoped surroundings) (beyond : Word.Beyond others.EndsOpen rest)
    (last : others.arms = 0) :
    Recovers True (bound ≤ 2 * others.words.length) (others.words ++ rest) rest
      (fun result => result.unplaced = others.unplaced) (branches.otherwise inner) := by
  cases others with
  | arm => cases last
  | otherwise content =>
    refine recovers_bind (recovers_accept rfl) ?_
    rintro _ rfl
    refine recovers_bind (recovers_discard (recovers_expectToken rfl)) fun _ _ => ?_
    refine recovers_bind ((completeInner content rest writable placed beyond).weaken id
      fun exceeds => ?_) fun result same => recovers_pure ?_
    · rw [Branches.words, List.length_cons]
      simp only [List.length_cons]
      omega
    · simp [Branches.unplaced, same.unplaced]
  | done =>
    refine recovers_bind (recovers_accept_of_ne rfl (beyond.branch trivial).2) ?_
    rintro _ rfl
    exact recovers_pure rfl

/-- The branches of an `if` after its first arm are read back if they are not too many. -/
theorem recovers_branches {others : Branches} {room : Nat} (writable : others.Writable)
    (placed : others.Scoped surroundings) (beyond : Word.Beyond others.EndsOpen rest)
    (fits : others.arms ≤ room) :
    Recovers True (bound ≤ 2 * others.words.length) (others.words ++ rest) rest
      (fun result => result.unplaced = others.unplaced) (branches expression inner room) := by
  induction room generalizing others with
  | zero =>
    have last : others.arms = 0 := Nat.le_zero.mp fits
    have skip := others.first_ne_newline beyond
    refine recovers_bind (recovers_skipNewlines_of_other skip) fun _ _ => ?_
    refine recovers_bind (recovers_sees rfl) fun found isElif => ?_
    rw [if_neg (mt isElif.mp (Branches.first_ne_elif last beyond))]
    exact recovers_otherwise completeInner near writable placed beyond last
  | succ room hypothesis =>
    have skip := others.first_ne_newline beyond
    refine recovers_bind (recovers_skipNewlines_of_other skip) fun _ _ => ?_
    by_cases last : others.arms = 0
    · have noElif := Branches.first_ne_elif last beyond
      refine recovers_bind (recovers_accept_of_ne rfl noElif) ?_
      rintro _ rfl
      exact recovers_otherwise completeInner near writable placed beyond last
    · cases others with
      | arm condition content others =>
        obtain ⟨writableCondition, writableContent, closed, writableOthers⟩ := writable
        rw [Branches.words, List.cons_append, List.append_assoc, List.cons_append, List.cons_append,
          List.append_assoc]
        refine recovers_bind (recovers_accept rfl) ?_
        rintro _ rfl
        refine recovers_guarded complete completeInner near writableCondition writableContent
          placed.1 (Branches.beyond_words closed beyond) (fun exceeds => ?_)
          fun value result sameCondition same => ?_
        · simp only [List.length_cons, List.length_append] at exceeds ⊢
          omega
        · have more := hypothesis writableOthers placed.2 beyond (Nat.le_of_succ_le_succ fits)
          refine recovers_bind (more.weaken id fun exceeds => ?_) fun branches sameOthers =>
            recovers_pure ?_
          · simp only [List.length_cons, List.length_append]
            omega
          · simp [Branches.unplaced, sameCondition.unplaced, same.unplaced, sameOthers]
      | otherwise => exact absurd rfl last
      | done => exact absurd rfl last

/-- An `if` with its branches is read back. -/
theorem recovers_branch {span : Span} {condition : Expr} {content : Stmt} {others : Branches}
    (writable : (Stmt.branch span condition content others).Writable)
    (placed : (Stmt.branch span condition content others).Scoped surroundings)
    (beyond : Word.Beyond others.EndsOpen rest) :
    Recovers True (bound ≤ 2 * (Stmt.branch span condition content others).words.length)
      ((Stmt.branch span condition content others).words ++ rest) rest
      (SameStatement (.branch span condition content others)) (branch expression inner) := by
  obtain ⟨writableCondition, writableContent, closed, writableOthers, arms⟩ := writable
  rw [Stmt.words, List.cons_append, List.append_assoc, List.cons_append, List.cons_append,
    List.append_assoc]
  refine recovers_bind recovers_take fun first _ => ?_
  refine recovers_guarded complete completeInner near writableCondition writableContent placed.1
    (Branches.beyond_words closed beyond) (fun exceeds => ?_)
    fun value result sameCondition same => ?_
  · simp only [List.length_cons, List.length_append] at exceeds ⊢
    omega
  · have more := recovers_branches complete completeInner near writableOthers placed.2 beyond
      (Nat.le_sub_one_of_lt arms)
    refine recovers_bind (more.weaken id fun exceeds => ?_) fun branches sameOthers =>
      recovers_pure ?_
    · simp only [List.length_cons, List.length_append]
      omega
    · simp [SameStatement, Stmt.unplaced, sameCondition.unplaced, same.unplaced, sameOthers]

end

section

variable {inner : Reader Stmt} {innerBound : Nat}
  (complete : CompleteExpression bound expression)
  (completeInner : CompleteBody innerBound surroundings.loopBody inner)
  (near : bound ≤ innerBound + 1) {content : Stmt} (placed : content.Scoped surroundings.loopBody)
  (beyond : Word.Beyond content.EndsOpen rest)

include complete completeInner near placed beyond

theorem recovers_whileLoop {span : Span} {condition : Expr}
    (writable : (Stmt.whileLoop span condition content).Writable) :
    Recovers True (bound ≤ 2 * (Stmt.whileLoop span condition content).words.length)
      ((Stmt.whileLoop span condition content).words ++ rest) rest
      (SameStatement (.whileLoop span condition content)) (whileLoop expression inner) := by
  rw [Stmt.words, List.cons_append, List.append_assoc, List.cons_append, List.cons_append]
  refine recovers_bind recovers_take fun first _ => ?_
  refine recovers_guarded complete completeInner near writable.1 writable.2 placed beyond
    (fun exceeds => ?_) fun value result sameCondition same => recovers_pure ?_
  · simp only [List.length_cons, List.length_append] at exceeds ⊢
    omega
  · simp [SameStatement, Stmt.unplaced, sameCondition.unplaced, same.unplaced]

theorem recovers_forLoop {span : Span} {loopName : Name} {iterable : Expr}
    (writable : (Stmt.forLoop span loopName iterable content).Writable) :
    Recovers True (bound ≤ 2 * (Stmt.forLoop span loopName iterable content).words.length)
      ((Stmt.forLoop span loopName iterable content).words ++ rest) rest
      (SameStatement (.forLoop span loopName iterable content)) (forLoop expression inner) := by
  rw [Stmt.words, List.cons_append, List.cons_append, List.cons_append, List.append_assoc,
    List.cons_append, List.cons_append]
  refine recovers_bind recovers_take fun first _ => ?_
  refine recovers_bind recovers_expectName ?_
  rintro _ rfl
  refine recovers_bind (recovers_discard (recovers_expectToken rfl)) fun _ _ => ?_
  refine recovers_guarded complete completeInner near writable.2.1 writable.2.2 placed beyond
    (fun exceeds => ?_) fun value result sameIterable same => recovers_pure ?_
  · simp only [List.length_cons, List.length_append] at exceeds ⊢
    omega
  · simp [SameStatement, Stmt.unplaced, sameIterable.unplaced, same.unplaced]

end

/-- A definition is read back if a body in a function is. -/
theorem recovers_definition {inner : Surroundings → Reader Stmt} {innerBound : Nat}
    (completeInner : CompleteBody innerBound .functionBody (inner .functionBody))
    (near : bound ≤ innerBound + 1) {span : Span} {name : Name} {names : List Name} {content : Stmt}
    (writable : (Stmt.define span name names content).Writable)
    (placed : content.Scoped .functionBody) (beyond : Word.Beyond content.EndsOpen rest) :
    Recovers True (bound ≤ 2 * (Stmt.define span name names content).words.length)
      ((Stmt.define span name names content).words ++ rest) rest
      (SameStatement (.define span name names content)) (definition inner) := by
  obtain ⟨-, -, few, writableContent⟩ := writable
  rw [Stmt.words, List.cons_append, List.cons_append, List.cons_append, List.append_assoc,
    List.cons_append, List.cons_append, List.cons_append]
  refine recovers_bind recovers_take fun first _ => ?_
  refine recovers_bind recovers_expectName ?_
  rintro _ rfl
  refine recovers_bind (recovers_discard (recovers_expectToken rfl)) fun _ _ => ?_
  refine recovers_bind (recovers_parameters few) ?_
  rintro _ rfl
  refine recovers_bind (recovers_discard (recovers_expectToken rfl)) fun _ _ => ?_
  refine recovers_bind (recovers_discard (recovers_expectToken rfl)) fun _ _ => ?_
  refine recovers_bind ((completeInner content rest writableContent placed beyond).weaken id
    fun exceeds => ?_) fun result same => recovers_pure ?_
  · simp only [List.length_cons, List.length_append]
    omega
  · simp [SameStatement, Stmt.unplaced, same.unplaced]

/-- A statement is read back if the body of a compound one is. -/
theorem complete_statementWith {inner : Surroundings → Reader Stmt} {innerBound : Nat}
    (complete : CompleteExpression bound expression)
    (completeInner : ∀ inside, CompleteBody innerBound inside (inner inside))
    (near : bound ≤ innerBound + 1) :
    CompleteStatement bound surroundings (statementWith expression inner surroundings) := by
  intro stmt rest writable placed beyond
  cases stmt with
  | expr value =>
    obtain ⟨word, others, begins, opens⟩ := value.opens_words
    have first : Word.first ((Stmt.expr value).words ++ rest) = word := by
      rw [Stmt.words, List.append_assoc]
      exact Word.first_append_of_opens begins _
    rw [← first] at opens
    exact recovers_line (Word.opensBlock_of_opensExpression opens)
      (recovers_oneLine_of_opens opens (recovers_expressionStatement complete writable))
  | returns span value =>
    have noBlock : (Word.first ((Stmt.returns span value).words ++ rest)).opensBlock = false := by
      cases value <;> rfl
    have keyword : Word.first ((Stmt.returns span value).words ++ rest) =
        .mark (.keyword .returnWord) := by
      cases value <;> rfl
    refine recovers_line noBlock (recovers_bind recovers_current fun token word => ?_)
    rw [(Token.word_eq_mark rfl).mp (word.trans keyword)]
    exact recovers_returnStatement complete writable placed
  | assign span name value =>
    exact recovers_line rfl
      (recovers_oneLine_of_opens rfl (recovers_assignment complete writable.2))
  | pass span =>
    refine recovers_line rfl (recovers_bind recovers_current fun token word => ?_)
    rw [kind_of_first word rfl]
    exact recovers_bind recovers_take fun token _ => recovers_pure rfl
  | breaks span =>
    refine recovers_line rfl (recovers_bind recovers_current fun token word => ?_)
    rw [kind_of_first word rfl]
    exact recovers_jumpStatement (fun _ => rfl) placed
  | continues span =>
    refine recovers_line rfl (recovers_bind recovers_current fun token word => ?_)
    rw [kind_of_first word rfl]
    exact recovers_jumpStatement (fun _ => rfl) placed
  | imports span name =>
    refine recovers_line rfl (recovers_bind recovers_current fun token word => ?_)
    rw [kind_of_first word rfl]
    exact recovers_importStatement
  | define span name names content =>
    refine recovers_bind recovers_current fun token word => ?_
    rw [kind_of_first word rfl]
    exact recovers_definition (completeInner _) near writable placed beyond
  | branch span condition content others =>
    refine recovers_bind recovers_current fun token word => ?_
    rw [kind_of_first word rfl]
    exact recovers_branch complete (completeInner _) near writable placed beyond
  | forLoop span loopName iterable content =>
    refine recovers_bind recovers_current fun token word => ?_
    rw [kind_of_first word rfl]
    exact recovers_forLoop complete (completeInner _) near placed beyond writable
  | whileLoop span condition content =>
    refine recovers_bind recovers_current fun token word => ?_
    rw [kind_of_first word rfl]
    exact recovers_whileLoop complete (completeInner _) near placed beyond writable

/-- With so many levels left, a statement is read back, unless its words are more than the
levels. -/
theorem complete_statement (room : Nat) (surroundings : Surroundings) :
    CompleteStatement room surroundings (statement room surroundings) := by
  induction room generalizing surroundings with
  | zero =>
    exact complete_statementWith (complete_expression 0)
      (fun inside => complete_body fun _ _ _ _ _ => recovers_tooDeep (Nat.zero_le _))
      (Nat.zero_le 1)
  | succ room hypothesis =>
    -- A body has a level less, and a word at least stands in front of it.
    exact complete_statementWith (complete_expression (room + 1))
      (fun inside => complete_body (hypothesis inside)) (Nat.le_refl _)

end Reader

end Scriptling
