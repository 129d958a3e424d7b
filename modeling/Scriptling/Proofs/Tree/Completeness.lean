/-
This file proves that words which spell a grouped expression are read back as
that expression, up to its places. Only two limits can prevent it: a list may
hold too many arguments or items, or the expression may nest too deeply. The
reader says so in the second case, and words that are few enough cannot nest
that deeply at all, because every level costs one of them.
-/

import Scriptling.Proofs.Tree.Spelling

namespace Scriptling

/-! ### Lists that are not too long -/

namespace Expr

mutual

/-- No list of arguments or items in an expression is longer than allowed. -/
def Few : Expr → Prop
  | .number .. | .string .. | .name .. => True
  | .binary _ _ left right => left.Few ∧ right.Few
  | .unary _ _ operand => operand.Few
  | .call _ _ arguments => arguments.length ≤ itemLimit ∧ AllFew arguments
  | .paren _ inner => inner.Few
  | .list _ items => items.length ≤ itemLimit ∧ AllFew items
  | .subscript _ target index => target.Few ∧ index.Few

def AllFew : List Expr → Prop
  | [] => True
  | item :: rest => item.Few ∧ AllFew rest

end

/-- What is extended is part of the whole. -/
theorem Extended.few {least : Nat} {left whole : Expr} {words : List Word}
    (extended : left.Extended least words whole) (few : whole.Few) : left.Few := by
  induction extended with
  | done left => exact few
  | next _ _ _ _ _ _ _ _ hypothesis => exact (hypothesis few).1

/-- If an expression is extended at all, the first word is an operator that leaves it its
operands. -/
theorem Extended.first {least : Nat} {left whole : Expr} {words : List Word}
    (extended : left.Extended least words whole) :
    words = [] ∨ ∃ operator rest, words = operator.word :: rest ∧
      least ≤ operator.precedence.rank ∧ left.StandsLeftOf operator := by
  cases extended with
  | done => exact Or.inl rfl
  | next span operator high standsLeft _ _ _ _ =>
    exact Or.inr ⟨operator, _, rfl, high, standsLeft⟩

end Expr

/-! ### Words around an operand -/

namespace Word

/-- A word with which an operand would go on. -/
def goesOn : Word → Bool
  | .mark .leftParen | .mark .leftBracket => true
  | _ => false

/-- A word with which an expression can begin. -/
def opensExpression : Word → Bool
  | .number _ | .string _ | .name _ => true
  | .mark .leftParen | .mark .leftBracket | .mark .bang | .mark .tilde | .mark .minus => true
  | _ => false

theorem goesOn_word (operator : BinaryOperator) : operator.word.goesOn = false := by
  cases operator <;> rfl

end Word

theorem Expr.Spelled.opens {expr : Expr} {words : List Word} (spelled : expr.Spelled words) :
    ∃ word rest, words = word :: rest ∧ word.opensExpression = true := by
  cases spelled with
  | binary span operator left right =>
    obtain ⟨word, rest, rfl, opens⟩ := left.opens
    exact ⟨word, _, List.cons_append .., opens⟩
  | unary span operator operand =>
    exact ⟨operator.word, _, rfl, by cases operator <;> rfl⟩
  | subscript span target index =>
    obtain ⟨word, rest, rfl, opens⟩ := target.opens
    exact ⟨word, _, by rw [List.cons_append, List.cons_append], opens⟩
  | _ => exact ⟨_, _, rfl, rfl⟩

/-- Where a subscript may stand after an expression, no unary operator stands before it. -/
theorem Expr.Spelled.unary?_first {target : Expr} {words : List Word}
    (spelled : target.Spelled words) (takes : target.TakesSubscript) (rest : List Word) :
    (Word.first (words ++ rest)).unary? = none := by
  cases spelled <;> first | rfl | cases takes

namespace Reader

variable {Result First Second : Type} {few tight : Prop} {words middle rest : List Word}

/-! ### Readers and what they recover -/

/-- A reader that faces some words gives a result that is like the wanted one and leaves the rest of
the words. It may refuse them if some list is not short; otherwise only a level too many makes
it refuse, and then a bound is exceeded. -/
def Recovers (few tight : Prop) (words rest : List Word) (like : Result → Prop)
    (reader : Reader Result) : Prop :=
  ∀ cursor : Cursor, cursor.Faces words →
    Ends reader cursor (fun result after => after.Faces rest ∧ like result)
      fun diagnostic after => few →
        diagnostic = after.current.unexpected (.atMost nestingLimit .nesting) ∧ tight

theorem recovers_pure {like : Result → Prop} {result : Result} (holds : like result) :
    Recovers few tight words words like (pure result) :=
  fun _ faces => ⟨faces, holds⟩

theorem recovers_bind {like : First → Prop} {wanted : Second → Prop} {first : Reader First}
    {tail : First → Reader Second} (head : Recovers few tight words middle like first)
    (last : ∀ value, like value → Recovers few tight middle rest wanted (tail value)) :
    Recovers few tight words rest wanted (first >>= tail) := by
  intro cursor faces
  rw [ends_bind]
  exact (head cursor faces).weaken
    (fun value after ⟨facesRest, holds⟩ => last value holds after facesRest)
    fun _ _ refused => refused

/-- The conditions for a refusal may be relaxed. -/
theorem Recovers.weaken {otherFew otherTight : Prop} {like : Result → Prop}
    {reader : Reader Result} (recovers : Recovers few tight words rest like reader)
    (fewer : otherFew → few) (looser : tight → otherTight) :
    Recovers otherFew otherTight words rest like reader :=
  fun cursor faces => (recovers cursor faces).weaken (fun _ _ kept => kept)
    fun _ _ refused isFew => ⟨(refused (fewer isFew)).1, looser (refused (fewer isFew)).2⟩

/-- A level too many. -/
theorem recovers_tooDeep {like : Result → Prop} (holds : tight) :
    Recovers few tight words rest like tooDeep :=
  fun _ _ _ => ⟨rfl, holds⟩

/-- An item too many. -/
theorem recovers_refuse {like : Result → Prop} {expected : Expectation} (many : ¬few) :
    Recovers few tight words rest like (refuse expected) :=
  fun _ _ isFew => absurd isFew many

theorem recovers_current :
    Recovers few tight words words (fun token => token.word = Word.first words) current :=
  fun _ faces => ⟨faces, faces.current⟩

theorem recovers_take {word : Word} :
    Recovers few tight (word :: rest) rest (fun token => token.word = word) take :=
  fun _ faces => ⟨faces.advance, faces.current⟩

theorem recovers_discard {like : Result → Prop} {reader : Reader Result}
    (recovers : Recovers few tight words rest like reader) :
    Recovers few tight words rest (fun _ => True) (discard reader) := by
  intro cursor faces
  rw [ends_discard]
  exact (recovers cursor faces).weaken (fun _ _ kept => ⟨kept.1, trivial⟩)
    fun _ _ refused => refused

section

variable {kind : TokenKind} (plain : kind.isPlain = true)

include plain

theorem recovers_sees :
    Recovers few tight words words (fun found => found = true ↔ Word.first words = .mark kind)
      (sees kind) := by
  intro cursor faces
  rw [ends_sees]
  refine ⟨faces, ?_⟩
  show (cursor.current.kind == kind) = true ↔ _
  rw [beq_iff_eq, ← Token.word_eq_mark plain, faces.current]

theorem recovers_accept :
    Recovers few tight (.mark kind :: rest) rest (fun found => found = true) (accept kind) := by
  intro cursor faces
  rw [ends_accept, if_pos ((Token.word_eq_mark plain).mp faces.current)]
  exact ⟨faces.advance, rfl⟩

theorem recovers_accept_of_ne (other : Word.first words ≠ .mark kind) :
    Recovers few tight words words (fun found => found = false) (accept kind) := by
  intro cursor faces
  rw [← faces.current] at other
  rw [ends_accept, if_neg (mt (Token.word_eq_mark plain).mpr other)]
  exact ⟨faces, rfl⟩

theorem recovers_expectToken :
    Recovers few tight (.mark kind :: rest) rest (fun _ => True) (expectToken kind) := by
  intro cursor faces
  unfold expectToken
  rw [ends_expect, if_pos ((Token.word_eq_mark plain).mp faces.current)]
  exact ⟨faces.advance, trivial⟩

end

/-! ### Operands -/

/-- What is read is an expression up to its places. -/
def Alike (wanted : Expr) (result : Expr) : Prop :=
  result.unplaced = wanted.unplaced

theorem Alike.unplaced {wanted result : Expr} (same : Alike wanted result) :
    result.unplaced = wanted.unplaced :=
  same

/-- A reader reads back every grouped expression before a word that does not go on with it, and if
it meets a level too many, then some bound is exceeded. -/
def CompleteExpression (bound : Nat) (reader : Reader Expr) : Prop :=
  ∀ (expr : Expr) (words rest : List Word), expr.Spelled words → expr.Grouped →
    (Word.first rest).goesOn = false → (Word.first rest).binary? = none →
      Recovers expr.Few (bound ≤ 2 * words.length) (words ++ rest) rest (Alike expr) reader

/-- The same for expressions that are no operation on two operands. Any operator may follow. -/
def CompleteOperand (bound : Nat) (reader : Reader Expr) : Prop :=
  ∀ (expr : Expr) (words rest : List Word), expr.Spelled words → expr.Grouped →
    expr.operator? = none → (Word.first rest).goesOn = false →
      Recovers expr.Few (bound ≤ 2 * words.length) (words ++ rest) rest (Alike expr) reader

variable {bound : Nat} {expression : Reader Expr}

section

variable (complete : CompleteExpression bound expression)

include complete

theorem recovers_items {close : TokenKind} (closes : close = .rightParen ∨ close = .rightBracket)
    (what : Counted) (items : List Expr) :
    ∀ (room : Nat) (words rest : List Word), Expr.AllSpelled items words → Expr.AllGrouped items →
      Recovers (Expr.AllFew items ∧ items.length ≤ room) (bound ≤ 2 * words.length)
        (words ++ .mark close :: rest) (.mark close :: rest)
        (fun result => Expr.allUnplaced result = Expr.allUnplaced items)
        (Reader.items expression close what room) := by
  have plain : close.isPlain = true := by rcases closes with rfl | rfl <;> rfl
  have goesOn (rest : List Word) : (Word.first (.mark close :: rest)).goesOn = false := by
    rcases closes with rfl | rfl <;> rfl
  have operator (rest : List Word) : (Word.first (.mark close :: rest)).binary? = none := by
    rcases closes with rfl | rfl <;> rfl
  have notComma (rest : List Word) : Word.first (.mark close :: rest) ≠ .mark .comma := by
    rcases closes with rfl | rfl <;> exact fun same => nomatch same
  have notClose {expr : Expr} {words : List Word} (spelled : expr.Spelled words)
      (more : List Word) : Word.first (words ++ more) ≠ .mark close := by
    obtain ⟨word, others, rfl, opens⟩ := spelled.opens
    rintro rfl
    rcases closes with rfl | rfl <;> cases opens
  induction items with
  | nil =>
    intro room words rest spelled _
    cases spelled
    cases room <;>
    · unfold Reader.items
      refine recovers_bind (recovers_sees plain) fun found isClose => ?_
      rw [if_pos (isClose.mpr rfl)]
      exact recovers_pure rfl
  | cons item others hypothesis =>
    intro room words rest spelled grouped
    cases room with
    | zero =>
      unfold Reader.items
      refine recovers_bind (recovers_sees plain) fun found isClose => ?_
      have different : Word.first (words ++ .mark close :: rest) ≠ .mark close := by
        cases spelled with
        | last spelled => exact notClose spelled _
        | comma spelled _ =>
          rw [List.append_assoc]
          exact notClose spelled _
      rw [if_neg (mt isClose.mp different)]
      exact recovers_refuse fun few => Nat.not_succ_le_zero _ few.2
    | succ room =>
      unfold Reader.items
      refine recovers_bind (recovers_sees plain) fun found isClose => ?_
      cases spelled with
      | last spelled =>
        rw [if_neg (mt isClose.mp (notClose spelled _))]
        refine recovers_bind ((complete item words _ spelled grouped.1 (goesOn rest)
          (operator rest)).weaken (fun few => few.1.1) id) fun result same => ?_
        refine recovers_bind (recovers_accept_of_ne rfl (notComma rest)) ?_
        rintro _ rfl
        refine recovers_pure ?_
        rw [Expr.allUnplaced, Expr.allUnplaced, same]
        rfl
      | @comma _ _ itemWords otherWords spelled spelledOthers =>
        rw [List.append_assoc, if_neg (mt isClose.mp ?_)]
        · have first := complete item itemWords (.mark .comma :: otherWords ++ .mark close :: rest)
            spelled grouped.1 rfl rfl
          refine recovers_bind (first.weaken (fun few => few.1.1) fun deep => ?_)
            fun result same => ?_
          · rw [List.length_append]
            omega
          refine recovers_bind (recovers_accept rfl) ?_
          rintro _ rfl
          have last := hypothesis room otherWords rest spelledOthers grouped.2
          refine recovers_bind (last.weaken ?_ fun deep => ?_) fun results sameRest => ?_
          · exact fun few => ⟨few.1.2, Nat.le_of_succ_le_succ few.2⟩
          · rw [List.length_append, List.length_cons]
            omega
          · refine recovers_pure ?_
            rw [Expr.allUnplaced, Expr.allUnplaced, same, sameRest]
        · rw [List.append_assoc]
          exact notClose spelled _

omit complete in
/-- Without a subscript after it, an operand is what has been read of it. -/
theorem recovers_plain {target result : Expr} (same : Alike target result)
    (alone : (Word.first rest).goesOn = false) :
    Recovers few tight rest rest (Alike target) (subscripted expression result) := by
  unfold subscripted
  refine recovers_bind (recovers_accept_of_ne rfl ?_) ?_
  · intro opens
    rw [opens] at alone
    cases alone
  rintro _ rfl
  exact recovers_pure same

theorem recovers_subscripted {span : Span} {target result index : Expr} {indexWords : List Word}
    (same : Alike target result) (spelled : index.Spelled indexWords) (grouped : index.Grouped) :
    Recovers index.Few (bound ≤ 2 * indexWords.length)
      (.mark .leftBracket :: indexWords ++ .mark .rightBracket :: rest) rest
      (Alike (.subscript span target index)) (subscripted expression result) := by
  unfold subscripted
  refine recovers_bind (recovers_accept rfl) ?_
  rintro _ rfl
  refine recovers_bind (complete index indexWords _ spelled grouped rfl rfl)
    fun value sameIndex => ?_
  refine recovers_bind (recovers_expectToken rfl) fun close _ => ?_
  refine recovers_pure ?_
  simp [Alike, Expr.unplaced, same.unplaced, sameIndex.unplaced]

/-- What a subscript may stand after is read, and then what follows it. -/
theorem recovers_target {target : Expr} {words middle : List Word} (takes : target.TakesSubscript)
    (spelled : target.Spelled words) (grouped : target.Grouped)
    (apart : Word.first middle ≠ .mark .leftParen) {wanted : Expr → Prop}
    (bounds : few → target.Few) (deep : bound + 1 ≤ 2 * words.length → tight)
    (last : ∀ result, Alike target result →
      Recovers few tight middle rest wanted (subscripted expression result)) :
    Recovers few tight (words ++ middle) rest wanted (primary expression) := by
  unfold primary
  refine recovers_bind recovers_current fun first word => ?_
  cases target with
  | name span name =>
    cases spelled
    rw [(Token.word_eq_name.mp word).1]
    dsimp only
    unfold named
    refine recovers_bind recovers_take fun token same => ?_
    refine recovers_bind (recovers_accept_of_ne rfl apart) ?_
    rintro _ rfl
    refine last _ ?_
    rw [(Token.word_eq_name.mp same).2]
    rfl
  | call span callee arguments =>
    cases spelled with
    | @call _ argumentWords _ _ spelled =>
      have split : .name callee :: .mark .leftParen :: argumentWords ++ [.mark .rightParen] ++
          middle = .name callee :: .mark .leftParen ::
            (argumentWords ++ .mark .rightParen :: middle) := List.append_assoc ..
      rw [(Token.word_eq_name.mp word).1, split]
      dsimp only
      unfold named
      refine recovers_bind recovers_take fun token same => ?_
      refine recovers_bind (recovers_accept rfl) ?_
      rintro _ rfl
      have inside := recovers_items complete (Or.inl rfl) .arguments arguments itemLimit
        argumentWords middle spelled grouped
      refine recovers_bind (inside.weaken (fun isFew => (bounds isFew).symm) fun exceeds => ?_)
        fun results sameArguments => ?_
      · refine deep ?_
        rw [List.length_append, List.length_cons, List.length_cons]
        omega
      refine recovers_bind (recovers_expectToken rfl) fun close _ => ?_
      refine last _ ?_
      simp [Alike, Expr.unplaced, sameArguments, (Token.word_eq_name.mp same).2]
  | paren span inner =>
    cases spelled with
    | @paren _ innerWords _ spelled =>
      have split : .mark .leftParen :: innerWords ++ [.mark .rightParen] ++ middle =
          .mark .leftParen :: (innerWords ++ .mark .rightParen :: middle) := List.append_assoc ..
      rw [(Token.word_eq_mark rfl).mp word, split]
      dsimp only
      refine recovers_bind recovers_take fun token _ => ?_
      have inside := complete inner innerWords (.mark .rightParen :: middle) spelled grouped rfl rfl
      refine recovers_bind (inside.weaken bounds fun exceeds => ?_) fun result sameInner => ?_
      · refine deep ?_
        rw [List.length_append, List.length_cons]
        omega
      refine recovers_bind (recovers_expectToken rfl) fun close _ => ?_
      refine last _ ?_
      simp [Alike, Expr.unplaced, sameInner.unplaced]
  | _ => cases takes

omit complete in
theorem subscript_words (targetWords indexWords rest : List Word) :
    targetWords ++ .mark .leftBracket :: indexWords ++ [.mark .rightBracket] ++ rest =
      targetWords ++ .mark .leftBracket :: (indexWords ++ .mark .rightBracket :: rest) := by
  rw [List.append_assoc, List.append_assoc]
  rfl

/-- What stands in an operand without a unary operator is read back. -/
theorem complete_primary {expr : Expr} {words rest : List Word} (spelled : expr.Spelled words)
    (grouped : expr.Grouped) (alone : expr.operator? = none)
    (bare : ∀ span operator operand, expr ≠ .unary span operator operand)
    (apart : (Word.first rest).goesOn = false) :
    Recovers expr.Few (bound + 1 ≤ 2 * words.length) (words ++ rest) rest (Alike expr)
      (primary expression) := by
  have target (takes : expr.TakesSubscript) : Recovers expr.Few (bound + 1 ≤ 2 * words.length)
      (words ++ rest) rest (Alike expr) (primary expression) := by
    refine recovers_target complete takes spelled grouped ?_ id id fun result same =>
      recovers_plain same apart
    intro opens
    rw [opens] at apart
    cases apart
  cases spelled with
  | name span name => exact target trivial
  | call span callee _ => exact target trivial
  | paren span _ => exact target trivial
  | binary span operator _ _ => cases alone
  | unary span operator _ => exact absurd rfl (bare _ _ _)
  | number span value =>
    unfold primary
    refine recovers_bind recovers_current fun first word => ?_
    rw [(Token.word_eq_number.mp word).1]
    dsimp only
    refine recovers_bind recovers_take fun token same => recovers_pure ?_
    rw [(Token.word_eq_number.mp same).2]
    rfl
  | string span text =>
    unfold primary
    refine recovers_bind recovers_current fun first word => ?_
    rw [(Token.word_eq_string.mp word).1]
    dsimp only
    refine recovers_bind recovers_take fun token same => recovers_pure ?_
    rw [(Token.word_eq_string.mp same).2]
    rfl
  | @list items itemWords span spelledItems =>
    have split : .mark .leftBracket :: itemWords ++ [.mark .rightBracket] ++ rest =
        .mark .leftBracket :: (itemWords ++ .mark .rightBracket :: rest) := List.append_assoc ..
    rw [split]
    unfold primary
    refine recovers_bind recovers_current fun first word => ?_
    rw [(Token.word_eq_mark rfl).mp word]
    dsimp only
    refine recovers_bind recovers_take fun token _ => ?_
    have inside := recovers_items complete (Or.inr rfl) .listItems items itemLimit itemWords rest
      spelledItems grouped
    refine recovers_bind (inside.weaken And.symm fun exceeds => ?_) fun results sameItems => ?_
    · rw [List.length_append, List.length_cons]
      omega
    refine recovers_bind (recovers_expectToken rfl) fun close _ => recovers_pure ?_
    simp [Alike, Expr.unplaced, sameItems]
  | @subscript inner index targetWords indexWords span spelledTarget spelledIndex =>
    obtain ⟨takes, groupedTarget, groupedIndex⟩ := grouped
    rw [subscript_words]
    have opens : Word.first (.mark .leftBracket :: (indexWords ++ .mark .rightBracket :: rest)) ≠
        .mark .leftParen := fun same => nomatch same
    refine recovers_target complete takes spelledTarget groupedTarget opens And.left
      (fun exceeds => ?_) fun result same => ?_
    · rw [List.length_append, List.length_append, List.length_cons]
      omega
    · refine (recovers_subscripted complete same spelledIndex groupedIndex).weaken And.right
        fun exceeds => ?_
      rw [List.length_append, List.length_append, List.length_cons]
      omega

/-- An operand is read back, whatever operators stand in front of it. -/
theorem complete_operand {inner : Reader Expr} (completeInner : CompleteOperand bound inner) :
    CompleteOperand (bound + 1) (operand inner expression) := by
  intro expr words rest spelled grouped alone apart
  have primary (bare : ∀ span operator operand, expr ≠ .unary span operator operand) :=
    complete_primary complete spelled grouped alone bare apart
  unfold operand
  refine recovers_bind recovers_current fun first word => ?_
  rw [first.unaryOfToken?_kind, word]
  cases spelled with
  | binary span operator _ _ => cases alone
  | @unary operand operandWords span operator spelled =>
    have ahead : Word.first (operator.word :: operandWords ++ rest) = operator.word := rfl
    rw [ahead, Word.unary?_word]
    dsimp only
    refine recovers_bind recovers_take fun token _ => ?_
    have last := completeInner operand operandWords rest spelled grouped.2 grouped.1 apart
    refine recovers_bind (last.weaken id fun exceeds => ?_) fun result same => recovers_pure ?_
    · rw [List.length_cons]
      omega
    · simp [Alike, Expr.unplaced, same.unplaced]
  | @subscript target index targetWords indexWords span spelledTarget _ =>
    rw [subscript_words] at primary ⊢
    rw [spelledTarget.unary?_first grouped.1 _]
    exact primary fun _ _ _ same => nomatch same
  | _ => exact primary fun _ _ _ same => nomatch same

end

/-! ### Operators -/

/-- A run of operators reads back whatever they extend the expression left of them to. -/
def CompleteRun (bound : Nat) (run : Precedence → Expr → Reader Expr) : Prop :=
  ∀ (least : Precedence) (left result whole : Expr) (words rest : List Word),
    left.Extended least.rank words whole → Alike left result →
      (Word.first rest).goesOn = false →
        (∀ next, (Word.first rest).binary? = some next → next.precedence.rank < least.rank) →
          Recovers whole.Few (bound ≤ 2 * words.length) (words ++ rest) rest (Alike whole)
            (run least result)

theorem recovers_operatorFrom (least : Precedence) :
    Recovers few tight words words
      (fun found => found = (Word.first words).binary?.filter fun operator =>
        least.rank ≤ operator.precedence.rank) (operatorFrom least) := by
  unfold operatorFrom
  refine recovers_bind recovers_current fun token word => ?_
  rw [token.ofToken?_kind, word]
  exact recovers_pure rfl

/-- Before an operator an operand does not go on. -/
theorem goesOn_extended {least : Nat} {left whole : Expr} {words rest : List Word}
    (extended : left.Extended least words whole) (apart : (Word.first rest).goesOn = false) :
    (Word.first (words ++ rest)).goesOn = false := by
  rcases extended.first with rfl | ⟨operator, others, rfl, -⟩
  · exact apart
  · exact Word.goesOn_word operator

/-- The next operator after some that extend an expression does not take from the one before
them. -/
theorem takesFrom_extended {least : Nat} {span : Span} {operator : BinaryOperator}
    {left right whole : Expr} {words rest : List Word}
    (extended : (Expr.binary span operator left right).Extended least words whole)
    (high : least ≤ operator.precedence.rank)
    (below : ∀ next, (Word.first rest).binary? = some next → next.precedence.rank < least) :
    ∀ next, (Word.first (words ++ rest)).binary? = some next →
      next.takesFrom operator = false := by
  intro next isNext
  rcases extended.first with rfl | ⟨other, others, rfl, -, standsLeft⟩
  · exact BinaryOperator.takesFrom_of_lt (Nat.lt_of_lt_of_le (below next isNext) high)
  · have same : other = next := Option.some.inj ((Word.binary?_word other).symm.trans isNext)
    rw [← same]
    exact standsLeft operator rfl

/-- The operators that take an operand are read level by level. -/
theorem complete_climb {tail : Precedence → Expr → Reader Expr} (complete : CompleteRun bound tail)
    (operator : BinaryOperator) {least : Nat}
    (take : ∀ next : BinaryOperator, least ≤ next.precedence.rank →
      next.takesFrom operator = true) (levels : List Precedence) :
    ∀ (right result whole : Expr) (words rest : List Word), Precedence.Falling levels →
      right.Extended least words whole →
      (∀ next, (Word.first words).binary? = some next → next.precedence ∈ levels) →
      Alike right result → (Word.first rest).goesOn = false →
      (∀ next, (Word.first rest).binary? = some next → next.takesFrom operator = false) →
        Recovers whole.Few (bound ≤ 2 * words.length) (words ++ rest) rest (Alike whole)
          (climb tail operator levels result) := by
  induction levels with
  | nil =>
    intro right result whole words rest _ extended inside same _ _
    rcases extended.first with rfl | ⟨next, others, rfl, -⟩
    · cases extended
      exact recovers_pure same
    · exact nomatch inside next (Word.binary?_word next)
  | cons level levels hypothesis =>
    rintro right result whole words rest ⟨looser, falling⟩ extended inside same apart untaken
    unfold climb
    refine recovers_bind recovers_current fun token word => ?_
    rw [token.ofToken?_kind, word]
    rcases extended.first with rfl | ⟨next, others, rfl, high, -⟩
    · cases extended
      rw [List.nil_append]
      cases found : (Word.first rest).binary? with
      | none => exact recovers_pure same
      | some next =>
        dsimp only
        rw [if_neg (Bool.eq_false_iff.mp (untaken next found))]
        exact recovers_pure same
    · have found : (Word.first (next.word :: others ++ rest)).binary? = some next :=
        Word.binary?_word next
      have takes := take next high
      rw [found]
      dsimp only
      rw [if_pos takes]
      have member := inside next (Word.binary?_word next)
      by_cases sameLevel : next.precedence = level
      · rw [if_pos sameLevel]
        obtain ⟨middle, tight, more, split, before, after, loose⟩ := extended.split level.rank
        rw [split, List.append_assoc]
        have below : ∀ other, (Word.first (more ++ rest)).binary? = some other →
            other.precedence.rank < level.rank := by
          intro other isOther
          rcases after.first with rfl | ⟨third, last, rfl, -⟩
          · have leaves := untaken other isOther
            rw [BinaryOperator.takesFrom_eq_false_iff] at leaves
            rw [BinaryOperator.takesFrom_iff] at takes
            rw [← sameLevel]
            omega
          · exact loose other isOther
        have first := complete level right result middle tight (more ++ rest) before same
          (goesOn_extended after apart) below
        refine recovers_bind (first.weaken after.few fun exceeds => ?_) fun wider sameMiddle => ?_
        · rw [List.length_append]
          omega
        · have last := hypothesis middle wider whole more rest falling after
            (fun other isOther => looser _ (loose other isOther)) sameMiddle apart untaken
          refine last.weaken id fun exceeds => ?_
          rw [List.length_append]
          omega
      · rw [if_neg sameLevel]
        refine hypothesis right result whole _ rest falling extended ?_ same apart untaken
        intro other isOther
        rw [← Option.some.inj (found.symm.trans isOther)]
        exact (List.mem_cons.mp member).resolve_left sameLevel

/-- A right operand is read back with all operators that take from it. -/
theorem complete_right {room : Nat} {unary : Reader Expr} {tail : Precedence → Expr → Reader Expr}
    (completeUnary : CompleteOperand (room + 1) unary) (completeTail : CompleteRun room tail)
    {operator : BinaryOperator} {right : Expr} {words rest : List Word}
    (spelled : right.Spelled words) (grouped : right.Grouped)
    (standsRight : right.StandsRightOf operator) (apart : (Word.first rest).goesOn = false)
    (untaken : ∀ next, (Word.first rest).binary? = some next → next.takesFrom operator = false)
    {wanted : Expr → Prop} {last : List Word} {run : Expr → Reader Expr} (isFew : few → right.Few)
    (deep : room ≤ 2 * words.length → tight)
    (goesOn : ∀ result, Alike right result → Recovers few tight rest last wanted (run result)) :
    Recovers few tight (words ++ rest) last wanted (do
      let first ← unary
      let result ← climb tail operator Precedence.descending first
      run result) := by
  obtain ⟨first, firstWords, restWords, alone, groupedFirst, spelledFirst, rfl, extended⟩ :=
    Expr.exists_extended spelled grouped
  obtain ⟨least, atLeast, takes⟩ : ∃ least,
      (∀ inner, right.operator? = some inner → least ≤ inner.precedence.rank) ∧
      ∀ next : BinaryOperator, least ≤ next.precedence.rank → next.takesFrom operator = true := by
    cases found : right.operator? with
    | none =>
      refine ⟨6, ⟨fun _ same => ?_, fun next high => ?_⟩⟩
      · cases same
      · exact absurd next.precedence.rank_lt_six (Nat.not_lt.mpr high)
    | some top =>
      refine ⟨top.precedence.rank, fun inner same => ?_, fun next high => ?_⟩
      · cases same
        exact Nat.le_refl _
      · exact BinaryOperator.takesFrom_of_le (standsRight top found) high
  rw [List.append_assoc]
  have head := completeUnary first firstWords (restWords ++ rest) spelledFirst groupedFirst alone
    (goesOn_extended (extended least atLeast) apart)
  refine recovers_bind (head.weaken (fun few => (extended least atLeast).few (isFew few))
    fun exceeds => deep ?_) fun result same => ?_
  · rw [List.length_append]
    omega
  have more := complete_climb completeTail operator takes Precedence.descending first result right
    restWords rest Precedence.falling_descending (extended least atLeast)
    (fun next _ => Precedence.mem_descending next.precedence) same apart untaken
  refine recovers_bind (more.weaken isFew fun exceeds => deep ?_) goesOn
  rw [List.length_append]
  omega

/-- An operand and all operators after it. -/
theorem complete_first {room : Nat} {unary : Reader Expr} {tail : Precedence → Expr → Reader Expr}
    (completeUnary : CompleteOperand (room + 1) unary) (completeTail : CompleteRun room tail) :
    CompleteExpression (room + 1) (do
      let left ← unary
      tail .comparison left) := by
  intro expr words rest spelled grouped apart ends
  obtain ⟨first, firstWords, restWords, alone, groupedFirst, spelledFirst, rfl, extended⟩ :=
    Expr.exists_extended spelled grouped
  have lowest := extended Precedence.comparison.rank fun _ _ => Nat.zero_le _
  rw [List.append_assoc]
  have head := completeUnary first firstWords (restWords ++ rest) spelledFirst groupedFirst alone
    (goesOn_extended lowest apart)
  refine recovers_bind (head.weaken lowest.few fun exceeds => ?_) fun result same => ?_
  · rw [List.length_append]
    omega
  · refine (completeTail .comparison first result expr restWords rest lowest same apart
      fun next isNext => ?_).weaken id fun exceeds => ?_
    · rw [ends] at isNext
      cases isNext
    · obtain ⟨word, others, rfl, -⟩ := spelledFirst.opens
      rw [List.length_append, List.length_cons]
      omega

/-- A run ends where the operators are too loose, or else it goes on with the next one. -/
theorem recovers_run {least : Precedence} {left result whole : Expr}
    {step : BinaryOperator → Reader Expr}
    (extended : left.Extended least.rank words whole) (same : Alike left result)
    (below : ∀ next, (Word.first rest).binary? = some next → next.precedence.rank < least.rank)
    (steps : ∀ span operator right rightWords others,
      words = operator.word :: rightWords ++ others → least.rank ≤ operator.precedence.rank →
      right.StandsRightOf operator → right.Grouped → right.Spelled rightWords →
      (Expr.binary span operator left right).Extended least.rank others whole →
        Recovers few tight (words ++ rest) rest (Alike whole) (step operator)) :
    Recovers few tight (words ++ rest) rest (Alike whole) (do
      match ← operatorFrom least with
      | none => return result
      | some operator => step operator) := by
  refine recovers_bind (recovers_operatorFrom least) fun found isNext => ?_
  cases extended with
  | done =>
    have none : found = none := by
      rw [isNext, List.nil_append]
      cases next : (Word.first rest).binary? with
      | none => rfl
      | some operator =>
        have low := Nat.not_le.mpr (below operator next)
        exact Option.filter_some_neg (decide_eq_false low)
    rw [none]
    exact recovers_pure same
  | @next _ right _ rightWords others span operator high _ standsRight grouped spelled extended =>
    have some : found = some operator := by
      rw [isNext, List.cons_append, List.cons_append]
      exact (congrArg _ (Word.binary?_word operator)).trans
        (Option.filter_some_pos (decide_eq_true high))
    rw [some]
    exact steps span operator right rightWords others rfl high standsRight grouped spelled extended

/-- What so many levels are left for is read back, unless the words are more than the levels. -/
theorem complete_of_room (room : Nat) :
    CompleteOperand (room + 1) (unary room) ∧ CompleteRun room (tail room) ∧
      CompleteRun (room + 1) (run room) := by
  induction room with
  | zero =>
    refine ⟨?_, ?_, ?_⟩
    · rw [unary]
      refine complete_operand ?_ ?_
      · exact fun _ _ _ _ _ _ _ => recovers_tooDeep (Nat.zero_le _)
      · exact fun _ _ _ _ _ _ _ => recovers_tooDeep (Nat.zero_le _)
    · exact fun _ _ _ _ _ _ _ _ _ _ => recovers_tooDeep (Nat.zero_le _)
    · intro least left result whole words rest extended same _ below
      rw [run]
      refine recovers_run extended same below fun _ _ _ _ _ split _ _ _ _ _ => ?_
      refine recovers_tooDeep ?_
      rw [split, List.length_append, List.length_cons]
      omega
  | succ room hypothesis =>
    obtain ⟨completeUnary, completeTail, completeRun⟩ := hypothesis
    refine ⟨?_, completeRun, ?_⟩
    · rw [unary]
      exact complete_operand (complete_first completeUnary completeTail) completeUnary
    · intro least left result whole words rest extended same apart below
      rw [run]
      refine recovers_run extended same below ?_
      rintro span operator right rightWords others rfl high standsRight grouped spelled more
      rw [List.append_assoc]
      refine recovers_bind (recovers_discard recovers_take) fun _ _ => ?_
      have next := takesFrom_extended more high below
      refine complete_right completeUnary completeTail spelled grouped standsRight
        (goesOn_extended more apart) next (fun few => (more.few few).2) (fun exceeds => ?_)
        fun value sameRight => ?_
      · rw [List.length_append, List.length_cons]
        omega
      · have sameWhole (place : Span) : Alike (.binary span operator left right)
            (.binary place operator result value) := by
          simp [Alike, Expr.unplaced, same.unplaced, sameRight.unplaced]
        refine (completeRun least _ _ whole others rest more (sameWhole _) apart below).weaken id
          fun exceeds => ?_
        rw [List.length_append, List.length_cons]
        omega

/-- With so many levels left, an expression is read back, unless its words are more than the
levels. -/
theorem complete_expression (room : Nat) : CompleteExpression room (Reader.expression room) := by
  cases room with
  | zero => exact fun _ _ _ _ _ _ _ => recovers_tooDeep (Nat.zero_le _)
  | succ room =>
    obtain ⟨completeUnary, completeTail, -⟩ := complete_of_room room
    exact complete_first completeUnary completeTail

end Reader

end Scriptling
