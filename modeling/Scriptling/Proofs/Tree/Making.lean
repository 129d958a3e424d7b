/-
This file says which tokens an expression is made of. Its leaves, its operators
and its brackets are tokens, which stand in the order of the source, and every
place in it comes from them: a leaf has the place of its token, and whatever is
put together runs from its first part through its last. Whatever expression is
read is made of just the tokens that were taken for it.
-/

import Scriptling.Proofs.Tree.Completeness

namespace Scriptling

/-! ### Expressions and their tokens -/

mutual

/-- An expression is made of some tokens, as the reader makes it. -/
inductive Expr.MadeOf : Expr → List Token → Prop
  | number {token : Token} : token.kind = .number → MadeOf (.number token.span token.value) [token]
  | string {token : Token} : token.kind = .string →
    MadeOf (.string token.span (Text.ofBytes token.text)) [token]
  | name {token : Token} : token.kind = .identifier →
    MadeOf (.name token.span token.text) [token]
  | binary {left right : Expr} {leftTokens rightTokens : List Token} {sign : Token}
    {operator : BinaryOperator} : left.MadeOf leftTokens → sign.word = operator.word →
      right.MadeOf rightTokens →
      MadeOf (.binary (left.span.through right.span) operator left right)
        (leftTokens ++ sign :: rightTokens)
  | unary {operand : Expr} {tokens : List Token} {sign : Token} {operator : UnaryOperator} :
    sign.word = operator.word → operand.MadeOf tokens →
      MadeOf (.unary (sign.span.through operand.span) operator operand) (sign :: tokens)
  | call {callee opens closes : Token} {arguments : List Expr} {tokens : List Token} :
    callee.kind = .identifier → opens.kind = .leftParen → Expr.AllMadeOf arguments tokens →
      arguments.length ≤ itemLimit → closes.kind = .rightParen →
      MadeOf (.call (callee.span.through closes.span) callee.text arguments)
        (callee :: opens :: tokens ++ [closes])
  | paren {opens closes : Token} {inner : Expr} {tokens : List Token} :
    opens.kind = .leftParen → inner.MadeOf tokens → closes.kind = .rightParen →
      MadeOf (.paren (opens.span.through closes.span) inner) (opens :: tokens ++ [closes])
  | list {opens closes : Token} {items : List Expr} {tokens : List Token} :
    opens.kind = .leftBracket → Expr.AllMadeOf items tokens → items.length ≤ itemLimit →
      closes.kind = .rightBracket →
      MadeOf (.list (opens.span.through closes.span) items) (opens :: tokens ++ [closes])
  | subscript {target index : Expr} {targetTokens indexTokens : List Token}
    {opens closes : Token} : target.MadeOf targetTokens → opens.kind = .leftBracket →
      index.MadeOf indexTokens → closes.kind = .rightBracket →
      MadeOf (.subscript (target.span.through closes.span) target index)
        (targetTokens ++ opens :: indexTokens ++ [closes])

/-- Some expressions are made of some tokens, with commas between them and perhaps a comma after
the last. -/
inductive Expr.AllMadeOf : List Expr → List Token → Prop
  | none : AllMadeOf [] []
  | last {item : Expr} {tokens : List Token} : item.MadeOf tokens → AllMadeOf [item] tokens
  | comma {item : Expr} {rest : List Expr} {tokens restTokens : List Token} {comma : Token} :
    item.MadeOf tokens → comma.kind = .comma → AllMadeOf rest restTokens →
      AllMadeOf (item :: rest) (tokens ++ comma :: restTokens)

end

namespace Expr

mutual

/-- The words of its tokens spell an expression. -/
theorem MadeOf.spelled {expr : Expr} {tokens : List Token} (made : expr.MadeOf tokens) :
    expr.Spelled (tokens.map Token.word) := by
  cases made with
  | number kind =>
    rw [List.map_singleton, Token.word_eq_number.mpr ⟨kind, rfl⟩]
    exact .number _ _
  | string kind =>
    rw [List.map_singleton, Token.word_eq_string.mpr ⟨kind, rfl⟩]
    exact .string _ _
  | name kind =>
    rw [List.map_singleton, Token.word_eq_name.mpr ⟨kind, rfl⟩]
    exact .name _ _
  | binary left sign right =>
    rw [List.map_append, List.map_cons, sign]
    exact .binary _ _ left.spelled right.spelled
  | unary sign operand =>
    rw [List.map_cons, sign]
    exact .unary _ _ operand.spelled
  | call callee opens arguments _ closes =>
    rw [List.map_append, List.map_cons, List.map_cons, List.map_singleton,
      Token.word_eq_name.mpr ⟨callee, rfl⟩, (Token.word_eq_mark rfl).mpr opens,
      (Token.word_eq_mark rfl).mpr closes]
    exact .call _ _ arguments.spelled
  | paren opens inner closes =>
    rw [List.map_append, List.map_cons, List.map_singleton, (Token.word_eq_mark rfl).mpr opens,
      (Token.word_eq_mark rfl).mpr closes]
    exact .paren _ inner.spelled
  | list opens items _ closes =>
    rw [List.map_append, List.map_cons, List.map_singleton, (Token.word_eq_mark rfl).mpr opens,
      (Token.word_eq_mark rfl).mpr closes]
    exact .list _ items.spelled
  | subscript target opens index closes =>
    rw [List.map_append, List.map_append, List.map_cons, List.map_singleton,
      (Token.word_eq_mark rfl).mpr opens, (Token.word_eq_mark rfl).mpr closes]
    exact .subscript _ target.spelled index.spelled

theorem AllMadeOf.spelled {items : List Expr} {tokens : List Token}
    (made : AllMadeOf items tokens) : AllSpelled items (tokens.map Token.word) := by
  cases made with
  | none => exact .none
  | last item => exact .last item.spelled
  | comma item comma rest =>
    rw [List.map_append, List.map_cons, (Token.word_eq_mark rfl).mpr comma]
    exact .comma item.spelled rest.spelled

end

mutual

/-- No list in an expression that is made of tokens is longer than allowed. -/
theorem MadeOf.few {expr : Expr} {tokens : List Token} (made : expr.MadeOf tokens) :
    expr.Few := by
  cases made with
  | number => exact trivial
  | string => exact trivial
  | name => exact trivial
  | binary left _ right => exact ⟨left.few, right.few⟩
  | unary _ operand => exact operand.few
  | call _ _ arguments short => exact ⟨short, arguments.few⟩
  | paren _ inner => exact inner.few
  | list _ items short => exact ⟨short, items.few⟩
  | subscript target _ index => exact ⟨target.few, index.few⟩

theorem AllMadeOf.few {items : List Expr} {tokens : List Token} (made : AllMadeOf items tokens) :
    AllFew items := by
  cases made with
  | none => exact trivial
  | last item => exact ⟨item.few, trivial⟩
  | comma item _ rest => exact ⟨item.few, rest.few⟩

end

end Expr

namespace Reader

variable {Result First Second : Type} {tokens : List Token}

/-! ### Readers and the tokens they take -/

/-- When a reader before some tokens gives a result, it has taken the first of them, and the
result and the tokens taken satisfy a condition. -/
def Takes (tokens : List Token) (given : Result → List Token → Prop) (reader : Reader Result) :
    Prop :=
  ∀ cursor : Cursor, cursor.ahead = tokens → cursor.finish.kind = .endOfInput →
    Ends reader cursor (fun result after => ∃ taken, tokens = taken ++ after.ahead ∧
      after.finish = cursor.finish ∧ given result taken) fun _ _ => True

section

variable {given : Result → List Token → Prop}

theorem takes_pure {result : Result} (holds : given result []) :
    Takes tokens given (pure result) :=
  fun _ ahead _ => ⟨[], ahead.symm, rfl, holds⟩

theorem takes_refuse {expected : Expectation} : Takes tokens given (refuse expected) :=
  fun _ _ _ => trivial

theorem Takes.weaken {condition : Result → List Token → Prop} {reader : Reader Result}
    (takes : Takes tokens condition reader)
    (weaker : ∀ result taken, condition result taken → given result taken) :
    Takes tokens given reader :=
  fun cursor ahead ends => (takes cursor ahead ends).weaken
    (fun result _ ⟨taken, split, finish, holds⟩ =>
      ⟨taken, split, finish, weaker result taken holds⟩) fun _ _ _ => trivial

end

theorem takes_bind {condition : First → List Token → Prop} {given : Second → List Token → Prop}
    {first : Reader First} {tail : First → Reader Second} (head : Takes tokens condition first)
    (last : ∀ value taken rest, tokens = taken ++ rest → condition value taken →
      Takes rest (fun result more => given result (taken ++ more)) (tail value)) :
    Takes tokens given (first >>= tail) := by
  intro cursor ahead ends
  rw [ends_bind]
  refine (head cursor ahead ends).weaken ?_ fun _ _ _ => trivial
  rintro value middle ⟨taken, split, finish, holds⟩
  refine (last value taken middle.ahead split holds middle rfl (finish ▸ ends)).weaken ?_
    fun _ _ _ => trivial
  rintro result after ⟨more, splitRest, finishRest, holdsLast⟩
  refine ⟨taken ++ more, ?_, finishRest.trans finish, holdsLast⟩
  rw [split, splitRest, List.append_assoc]

/-- The next token is looked at: there is one, or the input ends. -/
theorem takes_current :
    Takes tokens (fun token taken => taken = [] ∧
      (token.kind = .endOfInput ∨ ∃ rest, tokens = token :: rest)) current := by
  rintro cursor rfl ends
  refine ⟨[], rfl, rfl, rfl, ?_⟩
  by_cases more : cursor.ahead = []
  · exact .inl (Cursor.current_of_nil more ▸ ends)
  · exact .inr ⟨_, Cursor.ahead_eq_cons more⟩

theorem takes_take {token : Token} {rest : List Token} :
    Takes (token :: rest) (fun result taken => result = token ∧ taken = [token]) take := by
  intro cursor ahead _
  rw [ends_take]
  unfold Cursor.current Cursor.advance
  dsimp only
  rw [ahead]
  exact ⟨[token], rfl, rfl, rfl, rfl⟩

theorem takes_discard {given : Result → List Token → Prop} {reader : Reader Result}
    (takes : Takes tokens given reader) :
    Takes tokens (fun _ taken => ∃ result, given result taken) (discard reader) := by
  intro cursor ahead ends
  rw [ends_discard]
  refine (takes cursor ahead ends).weaken ?_ fun _ _ _ => trivial
  rintro result after ⟨taken, split, finish, holds⟩
  exact ⟨taken, split, finish, result, holds⟩

theorem takes_sees {kind : TokenKind} : Takes tokens (fun _ taken => taken = []) (sees kind) :=
  fun _ ahead _ => ⟨[], ahead.symm, rfl, rfl⟩

section

variable {kind : TokenKind} (more : kind ≠ .endOfInput)

include more

theorem takes_accept :
    Takes tokens (fun found taken => if found then ∃ token : Token, token.kind = kind ∧
      taken = [token] else taken = []) (accept kind) := by
  rintro cursor rfl ends
  rw [ends_accept]
  split
  next same =>
    have word : cursor.ahead ≠ [] := fun nothing =>
      more (same.symm.trans (Cursor.current_of_nil nothing ▸ ends))
    exact ⟨[cursor.current], Cursor.ahead_eq_cons word, rfl, cursor.current, same, rfl⟩
  next => exact ⟨[], rfl, rfl, rfl⟩

theorem takes_expect {expected : Expectation} :
    Takes tokens (fun token taken => token.kind = kind ∧ taken = [token])
      (expect kind expected) := by
  rintro cursor rfl ends
  rw [ends_expect]
  split
  next same =>
    have word : cursor.ahead ≠ [] := fun nothing =>
      more (same.symm.trans (Cursor.current_of_nil nothing ▸ ends))
    exact ⟨[cursor.current], Cursor.ahead_eq_cons word, rfl, same, rfl⟩
  next => trivial

end

/-! ### Operands -/

/-- A reader makes expressions of the tokens it takes. -/
def Makes (reader : Reader Expr) : Prop :=
  ∀ tokens, Takes tokens Expr.MadeOf reader

theorem makes_refuse {expected : Expectation} : Makes (refuse expected) :=
  fun _ => takes_refuse

/-- A reader goes on with an expression: what it makes is made of the tokens of that one and those
it takes. -/
def GoesOn (reader : Expr → Reader Expr) : Prop :=
  ∀ left before tokens, left.MadeOf before →
    Takes tokens (fun result taken => result.MadeOf (before ++ taken)) (reader left)

/-- Nothing more is taken for an expression that is left as it is. -/
theorem takes_left {left : Expr} {before : List Token} (made : left.MadeOf before) :
    Takes tokens (fun result taken => result.MadeOf (before ++ taken)) (pure left) := by
  refine takes_pure ?_
  rw [List.append_nil]
  exact made

section

variable {inner expression : Reader Expr} (makes : Makes expression)

include makes

theorem takes_items {close : TokenKind} {what : Counted} (room : Nat) (tokens : List Token) :
    Takes tokens (fun items taken => Expr.AllMadeOf items taken ∧ items.length ≤ room)
      (items expression close what room) := by
  induction room generalizing tokens with
  | zero =>
    unfold items
    refine takes_bind takes_sees ?_
    rintro found _ rest - rfl
    cases found with
    | true => exact takes_pure ⟨.none, Nat.le_refl 0⟩
    | false => exact takes_refuse
  | succ room hypothesis =>
    unfold items
    refine takes_bind takes_sees ?_
    rintro found _ rest - rfl
    cases found with
    | true => exact takes_pure ⟨.none, Nat.zero_le _⟩
    | false =>
      refine takes_bind (makes rest) fun item itemTokens rest _ made => ?_
      refine takes_bind (takes_accept (by decide)) ?_
      rintro found taken rest - accepted
      cases found with
      | false =>
        cases accepted
        refine takes_pure ⟨?_, Nat.le_add_left 1 room⟩
        rw [List.append_nil, List.append_nil]
        exact .last made
      | true =>
        obtain ⟨comma, kind, rfl⟩ := accepted
        refine takes_bind (hypothesis rest) ?_
        rintro others otherTokens rest - ⟨madeOthers, short⟩
        refine takes_pure ⟨?_, Nat.succ_le_succ short⟩
        rw [List.append_nil]
        exact .comma made kind madeOthers

theorem goesOn_subscripted : GoesOn (subscripted expression) := by
  intro target before tokens made
  unfold subscripted
  refine takes_bind (takes_accept (by decide)) ?_
  rintro found taken rest - accepted
  cases found with
  | false =>
    cases accepted
    exact takes_left made
  | true =>
    obtain ⟨opens, kind, rfl⟩ := accepted
    refine takes_bind (makes rest) fun index indexTokens rest _ madeIndex => ?_
    refine takes_bind (takes_expect (by decide)) ?_
    rintro closes _ rest - ⟨kindCloses, rfl⟩
    refine takes_pure ?_
    have whole := Expr.MadeOf.subscript made kind madeIndex kindCloses
    rw [List.append_assoc] at whole
    rw [List.append_nil]
    exact whole

theorem takes_named {token : Token} (kind : token.kind = .identifier) (rest : List Token) :
    Takes (token :: rest) Expr.MadeOf (named expression) := by
  unfold named
  refine takes_bind takes_take ?_
  rintro _ _ rest - ⟨rfl, rfl⟩
  refine takes_bind (takes_accept (by decide)) ?_
  rintro found taken rest - accepted
  cases found with
  | false =>
    cases accepted
    exact goesOn_subscripted makes _ _ rest (.name kind)
  | true =>
    obtain ⟨opens, kindOpens, rfl⟩ := accepted
    refine takes_bind (takes_items makes itemLimit rest) ?_
    rintro arguments argumentTokens rest - ⟨made, short⟩
    refine takes_bind (takes_expect (by decide)) ?_
    rintro closes _ rest - ⟨kindCloses, rfl⟩
    have whole := goesOn_subscripted makes _ _ rest
      (.call kind kindOpens made short kindCloses)
    refine whole.weaken fun result more madeResult => ?_
    rw [List.append_assoc] at madeResult
    exact madeResult

theorem makes_primary : Makes (primary expression) := by
  intro tokens
  unfold primary
  refine takes_bind takes_current ?_
  rintro first _ rest split ⟨rfl, next⟩
  rw [List.nil_append] at split
  subst split
  rcases next with ends | ⟨rest, rfl⟩
  · rw [ends]
    exact takes_refuse
  split
  next kind =>
    refine takes_bind takes_take ?_
    rintro _ _ rest - ⟨rfl, rfl⟩
    exact takes_pure (.number kind)
  next kind =>
    refine takes_bind takes_take ?_
    rintro _ _ rest - ⟨rfl, rfl⟩
    exact takes_pure (.string kind)
  next kind => exact takes_named makes kind rest
  next kind =>
    refine takes_bind takes_take ?_
    rintro _ _ rest - ⟨rfl, rfl⟩
    refine takes_bind (makes rest) fun inside insideTokens rest _ made => ?_
    refine takes_bind (takes_expect (by decide)) ?_
    rintro closes _ rest - ⟨kindCloses, rfl⟩
    have whole := goesOn_subscripted makes _ _ rest (.paren kind made kindCloses)
    refine whole.weaken fun result more madeResult => ?_
    rw [List.append_assoc] at madeResult
    exact madeResult
  next kind =>
    refine takes_bind takes_take ?_
    rintro _ _ rest - ⟨rfl, rfl⟩
    refine takes_bind (takes_items makes itemLimit rest) ?_
    rintro content contentTokens rest - ⟨made, short⟩
    refine takes_bind (takes_expect (by decide)) ?_
    rintro closes _ rest - ⟨kindCloses, rfl⟩
    refine takes_pure ?_
    rw [List.append_nil]
    exact .list kind made short kindCloses
  next => exact takes_refuse

theorem makes_operand (makesInner : Makes inner) : Makes (operand inner expression) := by
  intro tokens
  unfold operand
  refine takes_bind takes_current ?_
  rintro first _ rest split ⟨rfl, next⟩
  rw [List.nil_append] at split
  subst split
  rw [first.unaryOfToken?_kind]
  cases found : first.word.unary? with
  | none => exact makes_primary makes tokens
  | some operator =>
    have sign := Word.eq_word_of_unary? found
    rcases next with ends | ⟨rest, rfl⟩
    · rw [(Token.word_eq_mark rfl).mpr ends] at found
      cases found
    refine takes_bind takes_take ?_
    rintro _ _ rest - ⟨rfl, rfl⟩
    refine takes_bind (makesInner rest) fun value valueTokens rest _ made => ?_
    refine takes_pure ?_
    rw [List.append_nil]
    exact .unary sign made

end

/-! ### Operators -/

/-- An operator is found only where its sign comes next. -/
theorem takes_operatorFrom (least : Precedence) :
    Takes tokens (fun found taken => taken = [] ∧ ∀ operator, found = some operator →
      ∃ sign rest, tokens = sign :: rest ∧ sign.word = operator.word) (operatorFrom least) := by
  unfold operatorFrom
  refine takes_bind takes_current ?_
  rintro token _ rest - ⟨rfl, next⟩
  refine takes_pure ⟨rfl, fun operator found => ?_⟩
  have binary := (Option.filter_eq_some_iff.mp found).1
  rw [token.ofToken?_kind] at binary
  rcases next with ends | ⟨rest, rfl⟩
  · rw [(Token.word_eq_mark rfl).mpr ends] at binary
    cases binary
  · exact ⟨token, rest, rfl, Word.eq_word_of_binary? binary⟩

theorem goesOn_climb {tail : Precedence → Expr → Reader Expr}
    (goesOn : ∀ level, GoesOn (tail level)) (operator : BinaryOperator) (levels : List Precedence) :
    GoesOn (climb tail operator levels) := by
  induction levels with
  | nil => exact fun right before tokens made => takes_left made
  | cons level levels hypothesis =>
    intro right before tokens made
    unfold climb
    refine takes_bind takes_current ?_
    rintro token _ rest split ⟨rfl, -⟩
    rw [List.nil_append] at split
    subst split
    split
    next => exact takes_left made
    next =>
      split
      next =>
        split
        next =>
          refine takes_bind (goesOn level right before tokens made) fun middle taken rest _ on => ?_
          refine (hypothesis middle _ rest on).weaken fun result more whole => ?_
          rw [List.append_assoc] at whole
          exact whole
        next => exact hypothesis right before tokens made
      next => exact takes_left made

/-- One operator of a run with its right operand, and the rest of the run. -/
theorem takes_next {tail run : Precedence → Expr → Reader Expr}
    (goesOnTail : ∀ level, GoesOn (tail level)) (goesOnRun : ∀ least, GoesOn (run least))
    {unary : Reader Expr} (makesUnary : Makes unary) {least : Precedence} {left : Expr}
    {before rest : List Token} (made : left.MadeOf before) {sign : Token}
    {operator : BinaryOperator} (isSign : sign.word = operator.word) :
    Takes (sign :: rest) (fun result taken => result.MadeOf (before ++ taken)) (do
      discard take
      let first ← unary
      let right ← climb tail operator Precedence.descending first
      run least (.binary (left.span.through right.span) operator left right)) := by
  refine takes_bind (takes_discard takes_take) ?_
  rintro _ _ rest - ⟨_, -, rfl⟩
  refine takes_bind (makesUnary rest) fun first firstTokens rest _ madeFirst => ?_
  refine takes_bind (goesOn_climb goesOnTail operator Precedence.descending first firstTokens rest
    madeFirst) fun right moreTokens rest _ madeRight => ?_
  refine (goesOnRun least _ _ rest (.binary made isSign madeRight)).weaken
    fun result last whole => ?_
  rw [List.append_assoc, List.cons_append, List.append_assoc] at whole
  exact whole

theorem takes_run {least : Precedence} {left : Expr} {before : List Token}
    (made : left.MadeOf before) {step : BinaryOperator → Reader Expr}
    (steps : ∀ operator sign rest, tokens = sign :: rest → sign.word = operator.word →
      Takes tokens (fun result taken => result.MadeOf (before ++ taken)) (step operator)) :
    Takes tokens (fun result taken => result.MadeOf (before ++ taken)) (do
      match ← operatorFrom least with
      | none => return left
      | some operator => step operator) := by
  refine takes_bind (takes_operatorFrom least) ?_
  rintro found _ rest split ⟨rfl, next⟩
  rw [List.nil_append] at split
  subst split
  cases found with
  | none => exact takes_left made
  | some operator =>
    obtain ⟨sign, rest, split, isSign⟩ := next operator rfl
    exact steps operator sign rest split isSign

/-- What is read with so many levels left is made of the tokens that are taken. -/
theorem makes_of_room (room : Nat) :
    Makes (unary room) ∧ (∀ least, GoesOn (tail room least)) ∧
      ∀ least, GoesOn (run room least) := by
  induction room with
  | zero =>
    refine ⟨?_, fun _ _ _ _ _ => takes_refuse, fun least left before tokens made => ?_⟩
    · rw [unary]
      exact makes_operand makes_refuse makes_refuse
    · rw [run]
      exact takes_run made fun _ _ _ _ _ => takes_refuse
  | succ room hypothesis =>
    obtain ⟨makesUnary, goesOnTail, goesOnRun⟩ := hypothesis
    refine ⟨?_, goesOnRun, fun least left before tokens made => ?_⟩
    · rw [unary]
      refine makes_operand (fun tokens => ?_) makesUnary
      exact takes_bind (makesUnary tokens) fun left before rest _ made =>
        goesOnTail .comparison left before rest made
    · rw [run]
      refine takes_run made ?_
      rintro operator sign rest rfl isSign
      exact takes_next goesOnTail goesOnRun makesUnary made isSign

/-- An expression that is read is made of the tokens taken for it. -/
theorem makes_expression (room : Nat) : Makes (Reader.expression room) := by
  intro tokens
  cases room with
  | zero => exact takes_refuse
  | succ room =>
    obtain ⟨makesUnary, goesOnTail, -⟩ := makes_of_room room
    exact takes_bind (makesUnary tokens) fun left before rest _ made =>
      goesOnTail .comparison left before rest made

end Reader

end Scriptling
