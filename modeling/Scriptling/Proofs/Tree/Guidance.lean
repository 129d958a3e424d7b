/-
This file proves that readers are guided by the kinds of the tokens and by
nothing else. From two cursors before which tokens of the same kinds come, a
reader does the same: either it gives a result from both, or from both it refuses
the token before which it stands, in the same words, and in either case it has
come equally far. What stands between the words is not fixed here. It may be any
relation that holds on, however far one reads.

Along the way the tokens are counted. An expression or a statement that could be
read has taken one at least. The end of the input is not among them: whatever is
taken was looked at before, so the relation need only hold on past words.
-/

import Scriptling.Proofs.Tree.Reading
import Scriptling.Tree.Statement

namespace Scriptling

/-- A relation between cursors before which tokens of the same kinds come, and which holds on
when one reads on past a token that is not the end of the input. -/
structure Cursor.Likeness (alike : Cursor → Cursor → Prop) : Prop where
  current {first second : Cursor} : alike first second → first.current.kind = second.current.kind
  following {first second : Cursor} :
    alike first second → first.following.kind = second.following.kind
  advance {first second : Cursor} : alike first second → first.current.kind ≠ .endOfInput →
    alike first.advance second.advance
  skipNewlines {first second : Cursor} :
    alike first second → alike first.skipNewlines second.skipNewlines

/-- The message that refuses a token, with a note if there is one. -/
def Token.refusal (token : Token) (expected : Expectation) (note : Option Note) : Diagnostic :=
  note.elim (token.unexpected expected) (token.unexpected expected).withNote

namespace Reader

/-- Two readers do the same from cursors that are alike, if they begin as is said. Their results
are related, and to give them they take so many tokens at least. -/
def GuidedFrom {Result : Type} (begins : Cursor → Prop) (alike : Cursor → Cursor → Prop)
    (related : Result → Result → Prop) (least : Nat) (first second : Reader Result) : Prop :=
  ∀ cursor twin, alike cursor twin → begins cursor →
    Ends first cursor
      (fun result after => cursor.taken + least ≤ after.taken ∧ ∃ other final,
        second twin = .ok other final ∧ related result other ∧ alike after final)
      fun diagnostic after => ∃ expected note final,
        diagnostic = after.current.refusal expected note ∧
        second twin = .error (final.current.refusal expected note) final ∧ alike after final

/-- Two readers do the same from any cursors that are alike. -/
abbrev GuidedTo {Result : Type} (alike : Cursor → Cursor → Prop)
    (related : Result → Result → Prop) (least : Nat) (first second : Reader Result) : Prop :=
  GuidedFrom (fun _ => True) alike related least first second

/-- Two readers do the same from any cursors that are alike, whatever results they give. -/
abbrev Guided {Result : Type} (alike : Cursor → Cursor → Prop) (least : Nat)
    (first second : Reader Result) : Prop :=
  GuidedTo alike (fun _ _ => True) least first second

/-- Two readers do the same before a token of a kind. -/
abbrev GuidedBefore {Result : Type} (kind : TokenKind) (alike : Cursor → Cursor → Prop)
    (least : Nat) (first second : Reader Result) : Prop :=
  GuidedFrom (fun cursor => cursor.current.kind = kind) alike (fun _ _ => True) least first second

section

variable {begins : Cursor → Prop} {alike : Cursor → Cursor → Prop} {Result First : Type}
  {least : Nat} {related : Result → Result → Prop} {condition : First → First → Prop}

theorem guided_pure {result other : Result} (same : related result other) :
    GuidedFrom begins alike related 0 (pure result) (pure other) :=
  fun _ twin holds _ => ⟨Nat.le_refl _, other, twin, rfl, same, holds⟩

/-- What is asked of the cursors may be more. -/
theorem GuidedFrom.only {other : Cursor → Prop} {first second : Reader Result}
    (guided : GuidedFrom begins alike related least first second)
    (stronger : ∀ cursor, other cursor → begins cursor) :
    GuidedFrom other alike related least first second :=
  fun cursor twin holds begin => guided cursor twin holds (stronger cursor begin)

/-- The tokens of two readers, one after another, add up. -/
theorem guided_steps {first second : Reader First} {firstRest secondRest : First → Reader Result}
    {fewer more : Nat} (enough : least = fewer + more)
    (head : GuidedFrom begins alike condition fewer first second)
    (last : ∀ value other, condition value other →
      GuidedTo alike related more (firstRest value) (secondRest other)) :
    GuidedFrom begins alike related least (first >>= firstRest) (second >>= secondRest) := by
  intro cursor twin holds begins
  rw [ends_bind]
  refine (head cursor twin holds begins).weaken ?_ ?_
  · rintro value middle ⟨taken, other, between, through, same, holdsOn⟩
    rw [bind_of_ok through]
    refine (last value other same middle between holdsOn trivial).weaken ?_
      fun _ _ refused => refused
    rintro result after ⟨takenThen, rest⟩
    exact ⟨by omega, rest⟩
  · rintro diagnostic after ⟨expected, note, final, refused, cut, holdsOn⟩
    exact ⟨expected, note, final, refused, bind_of_error cut, holdsOn⟩

/-- What is read first takes the tokens that count. -/
theorem guided_first {first second : Reader First} {firstRest secondRest : First → Reader Result}
    (head : GuidedFrom begins alike condition least first second)
    (last : ∀ value other, condition value other →
      GuidedTo alike related 0 (firstRest value) (secondRest other)) :
    GuidedFrom begins alike related least (first >>= firstRest) (second >>= secondRest) :=
  guided_steps (Nat.add_zero least).symm head last

/-- What is read afterwards takes the tokens that count. -/
theorem guided_bind {first second : Reader First} {firstRest secondRest : First → Reader Result}
    (head : GuidedFrom begins alike condition 0 first second)
    (last : ∀ value other, condition value other →
      GuidedTo alike related least (firstRest value) (secondRest other)) :
    GuidedFrom begins alike related least (first >>= firstRest) (second >>= secondRest) :=
  guided_steps (Nat.zero_add least).symm head last

/-- The tokens that were taken need not count. -/
theorem GuidedFrom.freely {first second : Reader Result}
    (guided : GuidedFrom begins alike related least first second) :
    GuidedFrom begins alike related 0 first second := by
  intro cursor twin holds begins
  refine (guided cursor twin holds begins).weaken ?_ fun _ _ refused => refused
  rintro result after ⟨taken, rest⟩
  exact ⟨Nat.le_of_add_right_le taken, rest⟩

theorem guided_discard {first second : Reader Result}
    (guided : GuidedFrom begins alike related least first second) :
    GuidedFrom begins alike (fun _ _ => True) least (discard first) (discard second) := by
  have steps (reader : Reader Result) : discard reader = reader >>= fun _ => pure () :=
    (bind_pure_comp (fun _ => ()) reader).symm
  rw [steps, steps]
  exact guided_first guided fun _ _ _ => guided_pure trivial

theorem guided_refuse {expected : Expectation} :
    GuidedFrom begins alike related least (refuse expected) (refuse expected) :=
  fun _ twin holds _ => ⟨expected, none, twin, rfl, rfl, holds⟩

theorem guided_refuseWithNote {expected : Expectation} {note : Note} :
    GuidedFrom begins alike related least (refuseWithNote expected note)
      (refuseWithNote expected note) :=
  fun _ twin holds _ => ⟨expected, some note, twin, rfl, rfl, holds⟩

end

/-! ### One token -/

section

variable {alike : Cursor → Cursor → Prop} (likeness : Cursor.Likeness alike)

include likeness

/-- After a look at the next token its kind is known. -/
theorem guided_current {Result : Type} {least : Nat} {related : Result → Result → Prop}
    {firstRest secondRest : Token → Reader Result}
    (last : ∀ token other, token.kind = other.kind →
      GuidedFrom (fun cursor => cursor.current.kind = token.kind) alike related least
        (firstRest token) (secondRest other)) :
    GuidedTo alike related least (current >>= firstRest) (current >>= secondRest) :=
  fun cursor twin holds _ => last cursor.current twin.current (likeness.current holds) cursor twin
    holds rfl

/-- A token is taken that is not the end of the input. -/
theorem guided_take {begins : Cursor → Prop}
    (word : ∀ cursor, begins cursor → cursor.current.kind ≠ .endOfInput) :
    GuidedFrom begins alike (fun first second => first.kind = second.kind) 1 take take :=
  fun cursor twin holds begins => ⟨Nat.le_refl _, twin.current, twin.advance, rfl,
    likeness.current holds, likeness.advance holds (word cursor begins)⟩

/-- A token of a kind is taken. -/
theorem guided_takeOf {kind : TokenKind} (word : kind ≠ .endOfInput) :
    GuidedFrom (fun cursor => cursor.current.kind = kind) alike
      (fun first second => first.kind = second.kind) 1 take take :=
  guided_take likeness fun _ found => found ▸ word

theorem guided_skipNewlines : Guided alike 0 skipNewlines skipNewlines :=
  fun _ twin holds _ => ⟨Nat.le_add_right _ _, (), twin.skipNewlines, rfl, trivial,
    likeness.skipNewlines holds⟩

/-- After a question for a kind, what was found is known. -/
theorem guided_sees {Result : Type} {least : Nat} {related : Result → Result → Prop}
    {kind : TokenKind} {firstRest secondRest : Bool → Reader Result}
    (found : GuidedFrom (fun cursor => cursor.current.kind = kind) alike related least
      (firstRest true) (secondRest true))
    (other : GuidedTo alike related least (firstRest false) (secondRest false)) :
    GuidedTo alike related least (sees kind >>= firstRest) (sees kind >>= secondRest) := by
  intro cursor twin holds _
  show Ends (firstRest (cursor.current.kind == kind)) cursor _ _
  have twin_sees : (sees kind >>= secondRest) twin =
      secondRest (cursor.current.kind == kind) twin := by
    rw [likeness.current holds]
    rfl
  simp only [twin_sees]
  by_cases same : cursor.current.kind = kind
  · rw [beq_iff_eq.mpr same]
    exact found cursor twin holds same
  · rw [beq_eq_false_iff_ne.mpr same]
    exact other cursor twin holds trivial

theorem guided_accept {kind : TokenKind} (word : kind ≠ .endOfInput) :
    GuidedTo alike Eq 0 (accept kind) (accept kind) := by
  refine guided_sees likeness ?_ (guided_pure rfl)
  exact guided_bind (guided_discard (guided_takeOf likeness word)).freely fun _ _ _ =>
    guided_pure rfl

theorem guided_expect {kind : TokenKind} (word : kind ≠ .endOfInput) (expected : Expectation) :
    GuidedTo alike (fun first second => first.kind = second.kind) 1 (expect kind expected)
      (expect kind expected) :=
  guided_sees likeness (guided_takeOf likeness word) guided_refuse

theorem guided_expectName (expected : Expectation) :
    Guided alike 1 (expectName expected) (expectName expected) :=
  guided_first (guided_expect likeness (by decide) _) fun _ _ _ => guided_pure trivial

/-- A token that has to come next. -/
theorem guided_token {kind : TokenKind} (word : kind ≠ .endOfInput) :
    Guided alike 0 (discard (expectToken kind)) (discard (expectToken kind)) :=
  guided_discard (guided_expect likeness word _).freely

/-! ### Expressions -/

section

variable {inner expression : Reader Expr} (guided : Guided alike 1 expression expression)

include guided

theorem guided_items (close : TokenKind) (what : Counted) (room : Nat) :
    Guided alike 0 (items expression close what room) (items expression close what room) := by
  induction room with
  | zero => exact guided_sees likeness (guided_pure trivial) guided_refuse
  | succ room hypothesis =>
    refine guided_sees likeness (guided_pure trivial) ?_
    refine guided_bind guided.freely fun _ _ _ => guided_bind (guided_accept likeness nofun) ?_
    rintro comma _ rfl
    split
    next => exact guided_bind hypothesis fun _ _ _ => guided_pure trivial
    next => exact guided_pure trivial

theorem guided_subscripted (target other : Expr) :
    Guided alike 0 (subscripted expression target) (subscripted expression other) := by
  refine guided_bind (guided_accept likeness nofun) ?_
  rintro found _ rfl
  split
  next =>
    refine guided_bind guided.freely fun _ _ _ => ?_
    exact guided_bind (guided_expect likeness (by decide) _).freely fun _ _ _ => guided_pure trivial
  next => exact guided_pure trivial

theorem guided_named :
    GuidedBefore .identifier alike 1 (named expression) (named expression) := by
  refine guided_first (guided_takeOf likeness nofun) fun _ _ _ =>
    guided_bind (guided_accept likeness nofun) ?_
  rintro called _ rfl
  split
  next =>
    refine guided_bind (guided_items likeness guided _ _ _) fun _ _ _ => ?_
    exact guided_bind (guided_expect likeness (by decide) _).freely fun _ _ _ =>
      guided_subscripted likeness guided _ _
  next => exact guided_subscripted likeness guided _ _

theorem guided_primary : Guided alike 1 (primary expression) (primary expression) := by
  refine guided_current likeness fun token other same => ?_
  rw [same]
  generalize other.kind = kind
  split
  next => exact guided_first (guided_takeOf likeness nofun) fun _ _ _ => guided_pure trivial
  next => exact guided_first (guided_takeOf likeness nofun) fun _ _ _ => guided_pure trivial
  next => exact guided_named likeness guided
  next =>
    refine guided_first (guided_takeOf likeness nofun) fun _ _ _ =>
      guided_bind guided.freely fun _ _ _ => ?_
    exact guided_bind (guided_expect likeness (by decide) _).freely fun _ _ _ =>
      guided_subscripted likeness guided _ _
  next =>
    refine guided_first (guided_takeOf likeness nofun) fun _ _ _ =>
      guided_bind (guided_items likeness guided _ _ _) fun _ _ _ => ?_
    exact guided_bind (guided_expect likeness (by decide) _).freely fun _ _ _ => guided_pure trivial
  next => exact guided_refuse

theorem guided_operand (guidedInner : Guided alike 1 inner inner) :
    Guided alike 1 (operand inner expression) (operand inner expression) := by
  refine guided_current likeness fun token other same => ?_
  rw [same]
  generalize other.kind = kind
  split
  next operator found =>
    have word : kind ≠ .endOfInput := by
      rintro rfl
      cases found
    refine guided_first (guided_takeOf likeness word) fun _ _ _ => ?_
    exact guided_bind guidedInner.freely fun _ _ _ => guided_pure trivial
  next => exact (guided_primary likeness guided).only fun _ _ => trivial

end

/-- After a look for an operator, one that was found comes next. -/
theorem guided_operatorFrom {Result : Type} {more : Nat} {related : Result → Result → Prop}
    (least : Precedence) {firstRest secondRest : Option BinaryOperator → Reader Result}
    (none : GuidedTo alike related more (firstRest none) (secondRest none))
    (some : ∀ operator, GuidedFrom (fun cursor => cursor.current.kind ≠ .endOfInput) alike related
      more (firstRest (some operator)) (secondRest (some operator))) :
    GuidedTo alike related more (operatorFrom least >>= firstRest)
      (operatorFrom least >>= secondRest) := by
  intro cursor twin holds _
  let found (kind : TokenKind) : Option BinaryOperator :=
    (BinaryOperator.ofToken? kind).filter fun operator => least.rank ≤ operator.precedence.rank
  have twin_finds : (operatorFrom least >>= secondRest) twin =
      secondRest (found cursor.current.kind) twin := by
    rw [likeness.current holds]
    rfl
  show Ends (firstRest (found cursor.current.kind)) cursor _ _
  simp only [twin_finds]
  cases finds : found cursor.current.kind with
  | none => exact none cursor twin holds trivial
  | some operator =>
    refine some operator cursor twin holds fun ends => ?_
    rw [ends] at finds
    cases finds

theorem guided_climb {tail : Precedence → Expr → Reader Expr}
    (guided : ∀ least left other, Guided alike 0 (tail least left) (tail least other))
    (operator : BinaryOperator) (levels : List Precedence) (right other : Expr) :
    Guided alike 0 (climb tail operator levels right) (climb tail operator levels other) := by
  induction levels generalizing right other with
  | nil => exact guided_pure trivial
  | cons level levels hypothesis =>
    refine guided_current likeness fun _ _ same => ?_
    rw [same]
    refine GuidedFrom.only ?_ fun _ _ => trivial
    split
    next => exact guided_pure trivial
    next next _ =>
      split
      next =>
        split
        next => exact guided_bind (guided level right other) fun wider _ _ => hypothesis wider _
        next => exact hypothesis right other
      next => exact guided_pure trivial

/-- What is read with so many levels left is guided by the kinds. -/
theorem guided_of_room (room : Nat) : Guided alike 1 (unary room) (unary room) ∧
    (∀ least left other, Guided alike 0 (tail room least left) (tail room least other)) ∧
      ∀ least left other, Guided alike 0 (run room least left) (run room least other) := by
  induction room with
  | zero =>
    refine ⟨?_, ?_, ?_⟩
    · rw [unary]
      exact guided_operand likeness guided_refuse guided_refuse
    · exact fun _ _ _ => guided_refuse
    · intro least left other
      rw [run, run]
      exact guided_operatorFrom likeness least (guided_pure trivial) fun _ => guided_refuse
  | succ room hypothesis =>
    obtain ⟨guidedUnary, guidedTail, guidedRun⟩ := hypothesis
    refine ⟨?_, guidedRun, ?_⟩
    · rw [unary]
      refine guided_operand likeness ?_ guidedUnary
      exact guided_first guidedUnary fun _ _ _ => guidedTail _ _ _
    · intro least left other
      rw [run, run]
      refine guided_operatorFrom likeness least (guided_pure trivial) fun operator => ?_
      refine guided_bind (guided_discard (guided_take likeness fun _ word => word)).freely
        fun _ _ _ => guided_bind guidedUnary.freely fun first _ _ => ?_
      exact guided_bind (guided_climb likeness guidedTail _ _ _ _) fun right _ _ =>
        guidedRun _ _ _

theorem guided_expression (room : Nat) :
    Guided alike 1 (expression room) (expression room) := by
  cases room with
  | zero => exact guided_refuse
  | succ room =>
    obtain ⟨guidedUnary, guidedTail, -⟩ := guided_of_room likeness room
    exact guided_first guidedUnary fun _ _ _ => guidedTail _ _ _

/-! ### Statements -/

section

variable {expression : Reader Expr} (guided : Guided alike 1 expression expression)

include guided

theorem guided_returnStatement (surroundings : Surroundings) :
    GuidedBefore (.keyword .returnWord) alike 1 (returnStatement expression surroundings)
      (returnStatement expression surroundings) := by
  unfold returnStatement
  split
  next => exact guided_refuseWithNote
  next =>
    refine guided_first (guided_takeOf likeness nofun) fun _ _ _ =>
      guided_current likeness fun next other same => ?_
    simp only [same]
    split
    next => exact guided_pure trivial
    next =>
      refine GuidedFrom.only ?_ fun _ _ => trivial
      exact guided_bind guided.freely fun _ _ _ => guided_pure trivial

omit guided in
theorem guided_jumpStatement {word keyword : Keyword} (surroundings : Surroundings)
    (jump : Span → Stmt) :
    GuidedBefore (.keyword keyword) alike 1 (jumpStatement word surroundings jump)
      (jumpStatement word surroundings jump) := by
  unfold jumpStatement
  split
  next => exact guided_first (guided_takeOf likeness nofun) fun _ _ _ => guided_pure trivial
  next => exact guided_refuseWithNote

/-- The name and the equals sign of an assignment are taken, and then its value. -/
theorem guided_assignment :
    GuidedFrom (fun cursor => cursor.current.kind = .identifier ∧ cursor.following.kind = .assign)
      alike (fun _ _ => True) 1 (assignment expression) (assignment expression) := by
  intro cursor twin holds begins
  have name : cursor.current.kind ≠ .endOfInput := begins.1 ▸ nofun
  have rest (target other : Token) : GuidedBefore .assign alike 0
      (do discard take
          let value ← expression
          return Stmt.assign (target.span.through value.span) target.text value)
      (do discard take
          let value ← expression
          return Stmt.assign (other.span.through value.span) other.text value) := by
    refine guided_bind (guided_discard (guided_takeOf likeness (by decide))).freely fun _ _ _ => ?_
    exact guided_bind guided.freely fun _ _ _ => guided_pure trivial
  exact rest cursor.current twin.current cursor.advance twin.advance (likeness.advance holds name)
    begins.2

theorem guided_assignmentOrExpression :
    Guided alike 1 (assignmentOrExpression expression) (assignmentOrExpression expression) := by
  intro cursor twin holds _
  have choice (cursor : Cursor) : assignmentOrExpression expression cursor =
      (if cursor.current.kind = .identifier ∧ cursor.following.kind = .assign then
        assignment expression else do return .expr (← expression)) cursor := rfl
  rw [ends_congr (choice cursor)]
  simp only [choice twin, ← likeness.current holds, ← likeness.following holds]
  split
  next begins => exact guided_assignment likeness guided cursor twin holds begins
  next =>
    have alone : Guided alike 1 (do return Stmt.expr (← expression))
        (do return Stmt.expr (← expression)) :=
      guided_first guided fun _ _ _ => guided_pure trivial
    exact alone cursor twin holds trivial

theorem guided_simple (surroundings : Surroundings) :
    Guided alike 1 (simple expression surroundings) (simple expression surroundings) := by
  have line : Guided alike 1 (oneLine expression surroundings)
      (oneLine expression surroundings) := by
    refine guided_current likeness fun token other same => ?_
    rw [same]
    generalize other.kind = kind
    split
    next => exact guided_returnStatement likeness guided surroundings
    next => exact guided_first (guided_takeOf likeness nofun) fun _ _ _ => guided_pure trivial
    next => exact guided_jumpStatement likeness _ _
    next => exact guided_jumpStatement likeness _ _
    next =>
      refine guided_first (guided_takeOf likeness nofun) fun _ _ _ => ?_
      exact guided_bind (guided_expect likeness (by decide) _).freely
        fun _ _ _ => guided_pure trivial
    next => exact (guided_assignmentOrExpression likeness guided).only fun _ _ => trivial
  refine guided_first line fun _ _ _ => ?_
  exact guided_bind (guided_discard (guided_accept likeness nofun)) fun _ _ _ =>
    guided_pure trivial

end

theorem guided_body {statement : Reader Stmt} (guided : Guided alike 1 statement statement) :
    Guided alike 1 (body statement) (body statement) :=
  guided_bind (guided_skipNewlines likeness) fun _ _ _ =>
    guided_sees likeness guided_refuse guided

theorem guided_parameters (room : Nat) :
    Guided alike 0 (parameters room) (parameters room) := by
  induction room with
  | zero => exact guided_sees likeness (guided_pure trivial) guided_refuse
  | succ room hypothesis =>
    refine guided_sees likeness (guided_pure trivial) ?_
    refine guided_bind (guided_expectName likeness _).freely fun _ _ _ =>
      guided_bind (guided_accept likeness nofun) ?_
    rintro comma _ rfl
    split
    next => exact guided_bind hypothesis fun _ _ _ => guided_pure trivial
    next => exact guided_pure trivial

section

variable {expression : Reader Expr} {inner : Reader Stmt}
  (guided : Guided alike 1 expression expression) (guidedInner : Guided alike 1 inner inner)

include guidedInner

theorem guided_otherwise :
    Guided alike 0 (branches.otherwise inner) (branches.otherwise inner) := by
  refine guided_bind (guided_accept likeness nofun) ?_
  rintro found _ rfl
  split
  next =>
    refine guided_bind (guided_token likeness nofun) fun _ _ _ => ?_
    exact guided_bind guidedInner.freely fun _ _ _ => guided_pure trivial
  next => exact guided_pure trivial

include guided

theorem guided_branches (room : Nat) :
    Guided alike 0 (branches expression inner room) (branches expression inner room) := by
  induction room with
  | zero =>
    exact guided_bind (guided_skipNewlines likeness) fun _ _ _ =>
      guided_sees likeness guided_refuse (guided_otherwise likeness guidedInner)
  | succ room hypothesis =>
    refine guided_bind (guided_skipNewlines likeness) fun _ _ _ =>
      guided_bind (guided_accept likeness nofun) ?_
    rintro found _ rfl
    split
    next =>
      refine guided_bind guided.freely fun _ _ _ =>
        guided_bind (guided_token likeness nofun) fun _ _ _ => ?_
      refine guided_bind guidedInner.freely fun _ _ _ => ?_
      exact guided_bind hypothesis fun _ _ _ => guided_pure trivial
    next => exact guided_otherwise likeness guidedInner

end

theorem guided_statementWith {expression : Reader Expr} {inner : Surroundings → Reader Stmt}
    (guided : Guided alike 1 expression expression)
    (guidedInner : ∀ surroundings, Guided alike 1 (inner surroundings) (inner surroundings))
    (surroundings : Surroundings) :
    Guided alike 1 (statementWith expression inner surroundings)
      (statementWith expression inner surroundings) := by
  refine guided_current likeness fun token other same => ?_
  rw [same]
  generalize other.kind = kind
  split
  next =>
    refine guided_first (guided_takeOf likeness nofun) fun _ _ _ =>
      guided_bind (guided_expectName likeness _).freely fun _ _ _ => ?_
    refine guided_bind (guided_token likeness nofun) fun _ _ _ =>
      guided_bind (guided_parameters likeness _) fun _ _ _ => ?_
    refine guided_bind (guided_token likeness nofun) fun _ _ _ =>
      guided_bind (guided_token likeness nofun) fun _ _ _ => ?_
    exact guided_bind (guidedInner _).freely fun _ _ _ => guided_pure trivial
  next =>
    refine guided_first (guided_takeOf likeness nofun) fun _ _ _ =>
      guided_bind guided.freely fun _ _ _ => ?_
    refine guided_bind (guided_token likeness nofun) fun _ _ _ =>
      guided_bind (guidedInner _).freely fun _ _ _ => ?_
    exact guided_bind (guided_branches likeness guided (guidedInner _) _) fun _ _ _ =>
      guided_pure trivial
  next =>
    refine guided_first (guided_takeOf likeness nofun) fun _ _ _ =>
      guided_bind (guided_expectName likeness _).freely fun _ _ _ => ?_
    refine guided_bind (guided_token likeness nofun) fun _ _ _ =>
      guided_bind guided.freely fun _ _ _ => ?_
    refine guided_bind (guided_token likeness nofun) fun _ _ _ => ?_
    exact guided_bind (guidedInner _).freely fun _ _ _ => guided_pure trivial
  next =>
    refine guided_first (guided_takeOf likeness nofun) fun _ _ _ =>
      guided_bind guided.freely fun _ _ _ => ?_
    refine guided_bind (guided_token likeness nofun) fun _ _ _ => ?_
    exact guided_bind (guidedInner _).freely fun _ _ _ => guided_pure trivial
  next => exact (guided_simple likeness guided surroundings).only fun _ _ => trivial

/-- Statements are read by the kinds of their tokens. -/
theorem guided_statement (room : Nat) (surroundings : Surroundings) :
    Guided alike 1 (statement room surroundings) (statement room surroundings) := by
  induction room generalizing surroundings with
  | zero =>
    exact guided_statementWith likeness (guided_expression likeness 0)
      (fun _ => guided_body likeness guided_refuse) surroundings
  | succ room hypothesis =>
    exact guided_statementWith likeness (guided_expression likeness _)
      (fun inside => guided_body likeness (hypothesis inside)) surroundings

end

end Reader

end Scriptling
