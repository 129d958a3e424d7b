/-
This file proves that whatever expression is read is spelled by the words that
were taken for it, and that its operators are grouped as they should be. The
grouping comes about in a run of operators: what stands left of the next
operator is always left to it, because after every right operand the next
operator is one that does not take it.
-/

import Scriptling.Proofs.Tree.Spelling

namespace Scriptling.Reader

variable {Result First Second : Type} {words : List Word}

/-! ### Readers and the words they take -/

/-- When a reader that faces some words gives a result, it has taken the first of them, and the
result, the words taken and the words left satisfy a condition. -/
def Reads (words : List Word) (given : Result → List Word → List Word → Prop)
    (reader : Reader Result) : Prop :=
  ∀ cursor : Cursor, cursor.Faces words →
    Ends reader cursor (fun result after => ∃ taken rest, words = taken ++ rest ∧
      after.Faces rest ∧ given result taken rest) fun _ _ => True

theorem reads_pure {given : Result → List Word → List Word → Prop} {result : Result}
    (holds : given result [] words) : Reads words given (pure result) :=
  fun _ faces => ⟨[], words, rfl, faces, holds⟩

theorem reads_refuse {given : Result → List Word → List Word → Prop} {expected : Expectation} :
    Reads words given (refuse expected) :=
  fun _ _ => trivial

theorem reads_bind {condition : First → List Word → List Word → Prop}
    {given : Second → List Word → List Word → Prop} {first : Reader First}
    {tail : First → Reader Second} (head : Reads words condition first)
    (last : ∀ value taken rest, words = taken ++ rest → condition value taken rest →
      Reads rest (fun result more final => given result (taken ++ more) final) (tail value)) :
    Reads words given (first >>= tail) := by
  intro cursor faces
  rw [ends_bind]
  refine (head cursor faces).weaken ?_ fun _ _ _ => trivial
  rintro value middle ⟨taken, rest, split, facesRest, holds⟩
  refine (last value taken rest split holds middle facesRest).weaken ?_ fun _ _ _ => trivial
  rintro result after ⟨more, final, splitRest, facesFinal, holdsLast⟩
  refine ⟨taken ++ more, final, ?_, facesFinal, holdsLast⟩
  rw [split, splitRest, List.append_assoc]

theorem Reads.weaken {condition given : Result → List Word → List Word → Prop}
    {reader : Reader Result} (reads : Reads words condition reader)
    (weaker : ∀ result taken rest, words = taken ++ rest → condition result taken rest →
      given result taken rest) : Reads words given reader :=
  fun cursor faces => (reads cursor faces).weaken
    (fun result _ ⟨taken, rest, split, facesRest, holds⟩ =>
      ⟨taken, rest, split, facesRest, weaker result taken rest split holds⟩) fun _ _ _ => trivial

theorem reads_current :
    Reads words (fun token taken _ => taken = [] ∧ token.word = Word.first words) current :=
  fun _ faces => ⟨[], words, rfl, faces, rfl, faces.current⟩

theorem reads_take (more : Word.first words ≠ .mark .endOfInput) :
    Reads words (fun token taken _ => taken = [Word.first words] ∧ token.word = Word.first words)
      take := by
  intro cursor faces
  rw [← faces.current] at more ⊢
  obtain ⟨rest, split, facesRest⟩ := faces.cons more
  rw [ends_take]
  exact ⟨[cursor.current.word], rest, split, facesRest, rfl, rfl⟩

theorem reads_discard {given : Result → List Word → List Word → Prop} {reader : Reader Result}
    (reads : Reads words given reader) :
    Reads words (fun _ taken rest => ∃ result, given result taken rest) (discard reader) := by
  intro cursor faces
  rw [ends_discard]
  refine (reads cursor faces).weaken ?_ fun _ _ _ => trivial
  rintro result after ⟨taken, rest, split, facesRest, holds⟩
  exact ⟨taken, rest, split, facesRest, result, holds⟩

theorem reads_sees {kind : TokenKind} :
    Reads words (fun _ taken _ => taken = []) (sees kind) :=
  fun _ faces => ⟨[], words, rfl, faces, rfl⟩

section

variable {kind : TokenKind} (plain : kind.isPlain = true) (more : kind ≠ .endOfInput)

include plain more

theorem reads_accept :
    Reads words (fun found taken _ => taken = if found then [.mark kind] else [])
      (accept kind) := by
  intro cursor faces
  rw [ends_accept]
  split
  next same =>
    have word := (Token.word_eq_mark plain).mpr same
    have notEnd : cursor.current.word ≠ .mark .endOfInput := fun ends =>
      more (Word.mark.inj (word.symm.trans ends))
    obtain ⟨rest, split, facesRest⟩ := faces.cons notEnd
    rw [word] at split
    exact ⟨[.mark kind], rest, split, facesRest, rfl⟩
  next => exact ⟨[], words, rfl, faces, rfl⟩

theorem reads_expectToken :
    Reads words (fun _ taken _ => taken = [.mark kind]) (expectToken kind) := by
  intro cursor faces
  unfold expectToken
  rw [ends_expect]
  split
  next same =>
    have word := (Token.word_eq_mark plain).mpr same
    have notEnd : cursor.current.word ≠ .mark .endOfInput := fun ends =>
      more (Word.mark.inj (word.symm.trans ends))
    obtain ⟨rest, split, facesRest⟩ := faces.cons notEnd
    rw [word] at split
    exact ⟨[.mark kind], rest, split, facesRest, rfl⟩
  next => trivial

end

/-! ### Operands -/

/-- An expression is spelled by the words taken for it, and grouped. -/
def Sound (expr : Expr) (taken _ : List Word) : Prop :=
  expr.Spelled taken ∧ expr.Grouped

/-- The same of an expression that is no operation on two operands. -/
def SoundAlone (expr : Expr) (taken rest : List Word) : Prop :=
  Sound expr taken rest ∧ expr.operator? = none

variable {inner expression : Reader Expr}

section

variable (sound : ∀ words, Reads words Sound expression)

include sound

theorem reads_items {close : TokenKind} {what : Counted} (room : Nat) :
    ∀ words, Reads words
      (fun items taken _ => Expr.AllSpelled items taken ∧ Expr.AllGrouped items)
      (items expression close what room) := by
  induction room with
  | zero =>
    intro words
    unfold items
    refine reads_bind reads_sees ?_
    rintro found _ rest - rfl
    cases found with
    | true => exact reads_pure ⟨.none, trivial⟩
    | false => exact reads_refuse
  | succ room hypothesis =>
    intro words
    unfold items
    refine reads_bind reads_sees ?_
    rintro found _ rest - rfl
    cases found with
    | true => exact reads_pure ⟨.none, trivial⟩
    | false =>
      refine reads_bind (sound rest) fun item itemWords rest _ soundItem => ?_
      refine reads_bind (reads_accept rfl (by decide)) ?_
      rintro found _ rest - rfl
      cases found with
      | false =>
        refine reads_pure ⟨?_, soundItem.2, trivial⟩
        rw [if_neg Bool.false_ne_true, List.append_nil, List.append_nil]
        exact .last soundItem.1
      | true =>
        refine reads_bind (hypothesis rest) fun others othersWords rest _ soundOthers => ?_
        refine reads_pure ⟨?_, soundItem.2, soundOthers.2⟩
        rw [List.append_nil]
        exact .comma soundItem.1 soundOthers.1

theorem reads_subscripted {target : Expr} {targetWords : List Word}
    (soundTarget : target.Spelled targetWords) (grouped : target.Grouped)
    (takes : target.TakesSubscript) (alone : target.operator? = none) (words : List Word) :
    Reads words (fun result taken rest => SoundAlone result (targetWords ++ taken) rest)
      (subscripted expression target) := by
  unfold subscripted
  refine reads_bind (reads_accept rfl (by decide)) ?_
  rintro found _ rest - rfl
  cases found with
  | false =>
    refine reads_pure ⟨⟨?_, grouped⟩, alone⟩
    rw [if_neg Bool.false_ne_true, List.append_nil, List.append_nil]
    exact soundTarget
  | true =>
    refine reads_bind (sound rest) fun index indexWords rest _ soundIndex => ?_
    refine reads_bind (reads_expectToken rfl (by decide)) ?_
    rintro close _ rest - rfl
    refine reads_pure ⟨⟨?_, takes, grouped, soundIndex.2⟩, rfl⟩
    have spelled := Expr.Spelled.subscript (target.span.through close.span) soundTarget soundIndex.1
    rw [List.append_assoc] at spelled
    rw [List.append_nil]
    exact spelled

theorem reads_named {name : Name} (opens : Word.first words = .name name) :
    Reads words SoundAlone (named expression) := by
  unfold named
  refine reads_bind (reads_take ?_) ?_
  · rw [opens]
    exact fun same => nomatch same
  rintro token _ rest - ⟨rfl, word⟩
  rw [opens] at word ⊢
  obtain ⟨-, rfl⟩ := Token.word_eq_name.mp word
  refine reads_bind (reads_accept rfl (by decide)) ?_
  rintro found _ rest - rfl
  cases found with
  | false => exact reads_subscripted sound (.name _ _) trivial trivial rfl rest
  | true =>
    refine reads_bind (reads_items sound _ rest) ?_
    rintro arguments argumentWords rest - ⟨spelled, grouped⟩
    refine reads_bind (reads_expectToken rfl (by decide)) ?_
    rintro close _ rest - rfl
    have reads := reads_subscripted sound (.call (token.span.through close.span) token.text spelled)
      grouped trivial rfl rest
    refine reads.weaken fun result taken last _ soundResult => ?_
    rw [List.append_assoc] at soundResult
    exact soundResult

theorem reads_primary (words : List Word) : Reads words SoundAlone (primary expression) := by
  unfold primary
  refine reads_bind reads_current ?_
  rintro first _ rest split ⟨rfl, word⟩
  rw [List.nil_append] at split
  subst split
  split
  next kind =>
    have opens := word.symm.trans (Token.word_eq_number.mpr ⟨kind, rfl⟩)
    refine reads_bind (reads_take (by rw [opens]; exact fun same => nomatch same)) ?_
    rintro token _ rest - ⟨rfl, same⟩
    rw [opens] at same ⊢
    rw [(Token.word_eq_number.mp same).2]
    exact reads_pure ⟨⟨.number _ _, trivial⟩, rfl⟩
  next kind =>
    have opens := word.symm.trans (Token.word_eq_string.mpr ⟨kind, rfl⟩)
    refine reads_bind (reads_take (by rw [opens]; exact fun same => nomatch same)) ?_
    rintro token _ rest - ⟨rfl, same⟩
    rw [opens] at same ⊢
    rw [(Token.word_eq_string.mp same).2]
    exact reads_pure ⟨⟨.string _ _, trivial⟩, rfl⟩
  next kind =>
    exact reads_named sound (word.symm.trans (Token.word_eq_name.mpr ⟨kind, rfl⟩))
  next kind =>
    have opens := word.symm.trans ((Token.word_eq_mark rfl).mpr kind)
    refine reads_bind (reads_take (by rw [opens]; exact fun same => nomatch same)) ?_
    rintro token _ rest - ⟨rfl, -⟩
    refine reads_bind (sound rest) fun inside insideWords rest _ soundInside => ?_
    refine reads_bind (reads_expectToken rfl (by decide)) ?_
    rintro close _ rest - rfl
    have reads := reads_subscripted sound
      (.paren (token.span.through close.span) soundInside.1) soundInside.2 trivial rfl rest
    refine reads.weaken fun result taken last _ soundResult => ?_
    rw [List.append_assoc] at soundResult
    rw [opens]
    exact soundResult
  next kind =>
    have opens := word.symm.trans ((Token.word_eq_mark rfl).mpr kind)
    refine reads_bind (reads_take (by rw [opens]; exact fun same => nomatch same)) ?_
    rintro token _ rest - ⟨rfl, -⟩
    refine reads_bind (reads_items sound _ rest) ?_
    rintro items itemWords rest - ⟨spelled, grouped⟩
    refine reads_bind (reads_expectToken rfl (by decide)) ?_
    rintro close _ rest - rfl
    refine reads_pure ⟨⟨?_, grouped⟩, rfl⟩
    rw [opens, List.append_nil]
    exact .list _ spelled
  next => exact reads_refuse

theorem reads_operand (soundInner : ∀ words, Reads words SoundAlone inner) (words : List Word) :
    Reads words SoundAlone (operand inner expression) := by
  unfold operand
  refine reads_bind reads_current ?_
  rintro first _ rest split ⟨rfl, word⟩
  rw [List.nil_append] at split
  subst split
  rw [first.unaryOfToken?_kind, word]
  cases found : (Word.first words).unary? with
  | none => exact reads_primary sound words
  | some operator =>
    have opens := Word.eq_word_of_unary? found
    refine reads_bind (reads_take ?_) ?_
    · rw [opens]
      cases operator <;> exact fun same => nomatch same
    rintro token _ rest - ⟨rfl, -⟩
    refine reads_bind (soundInner rest) fun value valueWords rest _ soundValue => ?_
    refine reads_pure ⟨⟨?_, soundValue.2, soundValue.1.2⟩, rfl⟩
    rw [opens, List.append_nil]
    exact .unary _ operator soundValue.1.1

end

/-! ### Operators -/

/-- Whatever operator comes next, an expression is left to it. -/
def StandsLeft (left : Expr) (words : List Word) : Prop :=
  ∀ next, (Word.first words).binary? = some next → left.StandsLeftOf next

/-- An expression has been extended by all operators of a level or a tighter one. -/
def Grown (least : Precedence) (left : Expr) (leftWords : List Word) (result : Expr)
    (taken rest : List Word) : Prop :=
  Sound result (leftWords ++ taken) rest ∧
  (∀ next, (Word.first rest).binary? = some next → next.precedence.rank < least.rank) ∧
  (result = left ∨
    ∃ operator, result.operator? = some operator ∧ least.rank ≤ operator.precedence.rank)

/-- What a run of operators is to do with the expression left of it. -/
def RunSound (run : Precedence → Expr → Reader Expr) : Prop :=
  ∀ (least : Precedence) (left : Expr) (leftWords words : List Word),
    left.Spelled leftWords → left.Grouped → StandsLeft left words →
      Reads words (Grown least left leftWords) (run least left)

theorem reads_operatorFrom (least : Precedence) :
    Reads words (fun found taken _ => taken = [] ∧
      found = (Word.first words).binary?.filter fun operator =>
        least.rank ≤ operator.precedence.rank) (operatorFrom least) := by
  unfold operatorFrom
  refine reads_bind reads_current ?_
  rintro token _ rest - ⟨rfl, word⟩
  rw [token.ofToken?_kind, word]
  exact reads_pure ⟨rfl, rfl⟩

theorem reads_climb {tail : Precedence → Expr → Reader Expr} (sound : RunSound tail)
    (operator : BinaryOperator) (levels : List Precedence) :
    ∀ (right : Expr) (rightWords words : List Word), Precedence.Falling levels →
      (∀ next, (Word.first words).binary? = some next → next.takesFrom operator = true →
        next.precedence ∈ levels) →
      right.Spelled rightWords → right.Grouped → right.StandsRightOf operator →
      StandsLeft right words →
        Reads words (fun result taken rest => Sound result (rightWords ++ taken) rest ∧
          result.StandsRightOf operator ∧
          ∀ next, (Word.first rest).binary? = some next → next.takesFrom operator = false)
          (climb tail operator levels right) := by
  induction levels with
  | nil =>
    intro right rightWords words _ inside spelled grouped standsRight _
    refine reads_pure ⟨⟨?_, grouped⟩, standsRight, fun next found => ?_⟩
    · rw [List.append_nil]
      exact spelled
    · exact Bool.eq_false_iff.mpr fun takes => nomatch inside next found takes
  | cons level levels hypothesis =>
    rintro right rightWords words ⟨looser, falling⟩ inside spelled grouped standsRight standsLeft
    have stop : (∀ next, (Word.first words).binary? = some next →
        next.takesFrom operator = false) →
        Reads words (fun result taken rest => Sound result (rightWords ++ taken) rest ∧
          result.StandsRightOf operator ∧
          ∀ next, (Word.first rest).binary? = some next → next.takesFrom operator = false)
          (pure right) := by
      intro untaken
      refine reads_pure ⟨⟨?_, grouped⟩, standsRight, untaken⟩
      rw [List.append_nil]
      exact spelled
    unfold climb
    refine reads_bind reads_current ?_
    rintro token _ rest split ⟨rfl, word⟩
    rw [List.nil_append] at split
    subst split
    rw [token.ofToken?_kind, word]
    cases found : (Word.first words).binary? with
    | none =>
      refine stop fun next same => ?_
      rw [found] at same
      cases same
    | some next =>
      dsimp only
      split
      next takes =>
        have member := inside next found takes
        split
        next same =>
          refine reads_bind (sound level right rightWords words spelled grouped standsLeft) ?_
          rintro result taken rest - ⟨soundResult, below, grown⟩
          have tight : ∀ inner, result.operator? = some inner →
              right.operator? = some inner ∨ level.rank ≤ inner.precedence.rank := by
            intro inner isInner
            rcases grown with rfl | ⟨other, isOther, high⟩
            · exact Or.inl isInner
            · rw [isInner] at isOther
              cases isOther
              exact Or.inr high
          refine (hypothesis result (rightWords ++ taken) rest falling ?_ soundResult.1
            soundResult.2 ?_ ?_).weaken ?_
          · exact fun other isOther _ => looser _ (below other isOther)
          · intro inner isInner
            rcases tight inner isInner with old | high
            · exact standsRight inner old
            · exact BinaryOperator.takesFrom_of_le takes (same ▸ high)
          · intro other isOther inner isInner
            have lower := below other isOther
            refine BinaryOperator.takesFrom_of_lt ?_
            rcases tight inner isInner with old | high
            · have before := standsLeft next found inner old
              rw [BinaryOperator.takesFrom_eq_false_iff, same] at before
              exact Nat.lt_of_lt_of_le lower before.1
            · exact Nat.lt_of_lt_of_le lower high
          · rintro final more last - ⟨soundFinal, after⟩
            rw [List.append_assoc] at soundFinal
            exact ⟨soundFinal, after⟩
        next differs =>
          refine hypothesis right rightWords words falling ?_ spelled grouped standsRight standsLeft
          intro other isOther _
          rw [found] at isOther
          cases isOther
          exact (List.mem_cons.mp member).resolve_left differs
      next leaves =>
        refine stop fun other isOther => ?_
        rw [found] at isOther
        cases isOther
        exact Bool.eq_false_iff.mpr leaves

/-- A run ends before an operator that is too loose, or else it goes on with it. -/
theorem reads_run {least : Precedence} {left : Expr} {leftWords : List Word}
    (spelled : left.Spelled leftWords) (grouped : left.Grouped)
    {step : BinaryOperator → Reader Expr}
    (steps : ∀ operator, (Word.first words).binary? = some operator →
      least.rank ≤ operator.precedence.rank →
        Reads words (Grown least left leftWords) (step operator)) :
    Reads words (Grown least left leftWords) (do
      match ← operatorFrom least with
      | none => return left
      | some operator => step operator) := by
  refine reads_bind (reads_operatorFrom least) ?_
  rintro found _ rest split ⟨rfl, same⟩
  rw [List.nil_append] at split
  subst split
  cases found with
  | none =>
    refine reads_pure ⟨⟨?_, grouped⟩, fun next isNext => ?_, Or.inl rfl⟩
    · rw [List.append_nil, List.append_nil]
      exact spelled
    · rw [isNext, Option.filter_some] at same
      split at same
      next => cases same
      next low => exact Nat.not_le.mp fun high => low (decide_eq_true high)
  | some operator =>
    obtain ⟨isNext, high⟩ := Option.filter_eq_some_iff.mp same.symm
    exact steps operator isNext (of_decide_eq_true high)

/-- One operator of a run with its right operand, and the rest of the run. -/
theorem reads_next {tail run : Precedence → Expr → Reader Expr} (soundTail : RunSound tail)
    (soundRun : RunSound run) {unary : Reader Expr}
    (soundUnary : ∀ words, Reads words SoundAlone unary) {least : Precedence} {left : Expr}
    {leftWords : List Word} (spelled : left.Spelled leftWords) (grouped : left.Grouped)
    (standsLeft : StandsLeft left words) {operator : BinaryOperator}
    (isNext : (Word.first words).binary? = some operator)
    (atLeast : least.rank ≤ operator.precedence.rank) :
    Reads words (Grown least left leftWords) (do
      discard take
      let first ← unary
      let right ← climb tail operator Precedence.descending first
      run least (.binary (left.span.through right.span) operator left right)) := by
  have word : Word.first words = operator.word := Word.eq_word_of_binary? isNext
  refine reads_bind (reads_discard (reads_take ?_)) ?_
  · rw [word]
    cases operator <;> exact fun same => nomatch same
  rintro _ _ rest - ⟨token, rfl, -⟩
  rw [word]
  refine reads_bind (soundUnary rest) fun first firstWords rest _ soundFirst => ?_
  refine reads_bind (reads_climb soundTail operator Precedence.descending first firstWords rest
    Precedence.falling_descending (fun next _ _ => Precedence.mem_descending next.precedence)
    soundFirst.1.1 soundFirst.1.2 (Expr.standsRightOf_of_none soundFirst.2)
    fun next _ => Expr.standsLeftOf_of_none soundFirst.2) ?_
  rintro right moreWords rest - ⟨soundRight, standsRight, untaken⟩
  have groupedWhole (span : Span) : (Expr.binary span operator left right).Grouped :=
    Expr.grouped_binary.mpr ⟨standsLeft operator isNext, standsRight, grouped, soundRight.2⟩
  refine (soundRun least _ _ rest (.binary _ operator spelled soundRight.1) (groupedWhole _)
    ?_).weaken ?_
  · intro next isNext inner isInner
    cases isInner
    exact untaken next isNext
  · rintro result taken last - ⟨soundResult, below, grown⟩
    refine ⟨?_, below, Or.inr ?_⟩
    · rw [List.append_assoc, List.cons_append, List.append_assoc] at soundResult
      exact soundResult
    · rcases grown with rfl | found
      · exact ⟨operator, rfl, atLeast⟩
      · exact found

/-- What is read with so many levels left is sound. -/
theorem sound_of_room (room : Nat) :
    (∀ words, Reads words SoundAlone (unary room)) ∧ RunSound (tail room) ∧
      RunSound (run room) := by
  induction room with
  | zero =>
    refine ⟨fun words => ?_, fun _ _ _ _ _ _ _ => reads_refuse, ?_⟩
    · rw [unary]
      exact reads_operand (fun _ => reads_refuse) (fun _ => reads_refuse) words
    · intro least left leftWords words spelled grouped _
      rw [run]
      exact reads_run spelled grouped fun _ _ _ => reads_refuse
  | succ room hypothesis =>
    obtain ⟨soundUnary, soundTail, soundRun⟩ := hypothesis
    refine ⟨fun words => ?_, soundRun, ?_⟩
    · rw [unary]
      refine reads_operand (fun words => ?_) soundUnary words
      refine reads_bind (soundUnary words) fun first firstWords rest _ soundFirst => ?_
      refine (soundTail .comparison first firstWords rest soundFirst.1.1 soundFirst.1.2
        fun next _ => Expr.standsLeftOf_of_none soundFirst.2).weaken ?_
      exact fun _ _ _ _ grown => grown.1
    · intro least left leftWords words spelled grouped standsLeft
      rw [run]
      exact reads_run spelled grouped fun operator isNext atLeast =>
        reads_next soundTail soundRun soundUnary spelled grouped standsLeft isNext atLeast

/-- An expression that is read is spelled by the words taken for it, and grouped. -/
theorem reads_expression (room : Nat) (words : List Word) :
    Reads words Sound (Reader.expression room) := by
  cases room with
  | zero => exact reads_refuse
  | succ room =>
    obtain ⟨soundUnary, soundTail, -⟩ := sound_of_room room
    refine reads_bind (soundUnary words) fun first firstWords rest _ soundFirst => ?_
    refine (soundTail .comparison first firstWords rest soundFirst.1.1 soundFirst.1.2
      fun next _ => Expr.standsLeftOf_of_none soundFirst.2).weaken ?_
    exact fun _ _ _ _ grown => grown.1

end Scriptling.Reader
