/-
This file reads statements with counters. Where the reader of programs is told how
deep it is, this one keeps the count beside its cursor and goes by nothing else: a
jump is allowed if the counters say so, and a level is taken if they leave one. A
function body puts the count of loops aside, and whoever has raised a counter puts
it back when the body or the level is left, be it with a result or with a message.
Only the operators of a run leave their levels to the reader of the whole run.

Both readers read the same, and after every statement the counters stand where
they stood before it. The recursion is bounded by fuel, which is not what refuses:
any amount from the limit on will do.
-/

import Scriptling.Proofs.Tree.Reading
import Scriptling.Tree.Source

namespace Scriptling

namespace Depths

/-- What surrounds a statement that begins here. -/
def surroundings (depths : Depths) : Surroundings :=
  ⟨depths.functions != 0, depths.loops != 0⟩

/-- In the body of a function, outside of every loop of it. -/
def inFunction (depths : Depths) : Depths :=
  { depths with functions := depths.functions + 1, loops := 0 }

def inLoop (depths : Depths) : Depths :=
  { depths with loops := depths.loops + 1 }

def deeper (depths : Depths) : Depths :=
  { depths with nesting := depths.nesting + 1 }

/-- In the same bodies, on whatever level. -/
def SameBodies (before after : Depths) : Prop :=
  after.functions = before.functions ∧ after.loops = before.loops

end Depths

/-- The same cursor with other counters. -/
def Cursor.withDepths (depths : Depths) (cursor : Cursor) : Cursor :=
  { cursor with depths }

theorem Cursor.withDepths_depths {cursor : Cursor} {depths : Depths}
    (stands : cursor.depths = depths) : cursor.withDepths depths = cursor := by
  subst stands
  rfl

namespace Tracking

open Reader

/-! ### The counters -/

def depths : Reader Depths := do
  return (← get).depths

def modifyDepths (change : Depths → Depths) : Reader Unit :=
  modify fun cursor => cursor.withDepths (change cursor.depths)

/-- Changes the counters, reads, and changes them again whether that went well or not. The second
change may go back to how they stood at first. -/
def within {Result : Type} (enter : Depths → Depths) (leave : Depths → Depths → Depths)
    (inner : Reader Result) : Reader Result := do
  let before ← depths
  modifyDepths enter
  let result ← observing inner
  modifyDepths (leave before)
  ofExcept result

/-- Takes a level, if one is left. -/
def descend : Reader Unit := do
  if (← depths).nesting < nestingLimit then modifyDepths Depths.deeper else tooDeep

/-- Reads one level down. -/
def nested {Result : Type} (inner : Reader Result) : Reader Result :=
  within id (fun before after => { after with nesting := before.nesting }) do
    descend
    inner

def functionBody (inner : Reader Stmt) : Reader Stmt :=
  within Depths.inFunction (fun before after =>
    { after with functions := after.functions - 1, loops := before.loops }) inner

def loopBody (inner : Reader Stmt) : Reader Stmt :=
  within Depths.inLoop (fun _ after => { after with loops := after.loops - 1 }) inner

/-! ### The reader -/

mutual

def unary : Nat → Reader Expr
  | 0 => operand (nested tooDeep) (nested tooDeep)
  | fuel + 1 => operand (nested (unary fuel)) (nested do
      let left ← unary fuel
      tail fuel .comparison left)

/-- A run of operators after its first operand, one level down. -/
def tail : Nat → Precedence → Expr → Reader Expr
  | 0, _, _ => nested tooDeep
  | fuel + 1, least, left => nested (run fuel least left)

/-- The operators that bind at least as tightly as `least`, with their right operands. Each of
them takes a level and does not give it back. -/
def run : Nat → Precedence → Expr → Reader Expr
  | 0, least, left => do
    match ← operatorFrom least with
    | none => return left
    | some _ =>
      descend
      tooDeep
  | fuel + 1, least, left => do
    match ← operatorFrom least with
    | none => return left
    | some operator =>
      descend
      discard take
      let first ← unary fuel
      let right ← climb (tail fuel) operator Precedence.descending first
      run fuel least (.binary (left.span.through right.span) operator left right)

end

def expression : Nat → Reader Expr
  | 0 => nested tooDeep
  | fuel + 1 => nested do
    let left ← unary fuel
    tail fuel .comparison left

/-- A statement, given how to read an expression and the body of a compound statement. The
counters say what surrounds it. -/
def statementWith (expression : Reader Expr) (inner : Reader Stmt) : Reader Stmt := do
  match (← current).kind with
  | .keyword .defWord => definition fun _ => functionBody inner
  | .keyword .ifWord => branch expression inner
  | .keyword .forWord => forLoop expression (loopBody inner)
  | .keyword .whileWord => whileLoop expression (loopBody inner)
  | _ => simple expression (← depths).surroundings

def statement : Nat → Reader Stmt
  | 0 => statementWith (expression 0) (body (nested tooDeep))
  | fuel + 1 => statementWith (expression (fuel + 1)) (body (nested (statement fuel)))

/-- Reading statements from a cursor on, one of them is begun at `start`. -/
inductive Begins (statement : Reader Stmt) : Cursor → Cursor → Prop
  | here {cursor : Cursor} (more : cursor.skipNewlines.current.kind ≠ .endOfInput) :
      Begins statement cursor cursor.skipNewlines
  | passed {cursor after start : Cursor} {item : Stmt}
      (through : statement cursor.skipNewlines = .ok item after)
      (begins : Begins statement after start) : Begins statement cursor start
  | failed {cursor after start : Cursor} {diagnostic : Diagnostic}
      (cut : statement cursor.skipNewlines = .error diagnostic after)
      (begins : Begins statement after.toNewline start) : Begins statement cursor start

/-! ### Reading the same -/

/-- Begun with the counters at `before`, a reader does what another does that leaves them alone,
and in the end `left` holds of the counters. -/
def ReadsAs {Result : Type} (before : Depths) (left : Depths → Prop)
    (counting plain : Reader Result) : Prop :=
  ∀ cursor : Cursor, Ends counting (cursor.withDepths before)
    (fun result after => left after.depths ∧
      plain cursor = .ok result (after.withDepths cursor.depths))
    fun diagnostic after => left after.depths ∧
      plain cursor = .error diagnostic (after.withDepths cursor.depths)

/-- A reader does what another does, and in the end the counters stand where they stood. -/
abbrev Restores {Result : Type} (before : Depths) (counting plain : Reader Result) : Prop :=
  ReadsAs before (· = before) counting plain

section

variable {Result First : Type} {before : Depths} {left : Depths → Prop}

theorem readsAs_pure (stays : left before) (result : Result) :
    ReadsAs before left (pure result) (pure result) :=
  fun _ => ⟨stays, rfl⟩

/-- What is read first puts the counters back, and then the rest begins where it did. -/
theorem readsAs_bind (stays : left before) {counting plain : Reader First}
    {countingRest plainRest : First → Reader Result} (head : Restores before counting plain)
    (last : ∀ value, ReadsAs before left (countingRest value) (plainRest value)) :
    ReadsAs before left (counting >>= countingRest) (plain >>= plainRest) := by
  intro cursor
  rw [ends_bind]
  refine (head cursor).weaken ?_ ?_
  · rintro value middle ⟨back, through⟩
    rw [bind_of_ok through]
    have rest := last value (middle.withDepths cursor.depths)
    rwa [show (middle.withDepths cursor.depths).withDepths before = middle from
      Cursor.withDepths_depths back] at rest
  · rintro diagnostic after ⟨back, cut⟩
    exact ⟨back ▸ stays, bind_of_error cut⟩

theorem restores_pure (result : Result) : Restores before (pure result) (pure result) :=
  fun _ => ⟨rfl, rfl⟩

theorem restores_refuse (expected : Expectation) :
    Restores before (refuse expected : Reader Result) (refuse expected) :=
  fun _ => ⟨rfl, rfl⟩

theorem restores_bind {counting plain : Reader First}
    {countingRest plainRest : First → Reader Result} (head : Restores before counting plain)
    (last : ∀ value, Restores before (countingRest value) (plainRest value)) :
    Restores before (counting >>= countingRest) (plain >>= plainRest) := by
  refine readsAs_bind ?_ head last
  exact rfl

theorem Restores.sameBodies {counting plain : Reader Result}
    (reads : Restores before counting plain) :
    ReadsAs before before.SameBodies counting plain := by
  intro cursor
  refine (reads cursor).weaken ?_ ?_
  · rintro result after ⟨back, same⟩
    exact ⟨back ▸ ⟨rfl, rfl⟩, same⟩
  · rintro diagnostic after ⟨back, same⟩
    exact ⟨back ▸ ⟨rfl, rfl⟩, same⟩

theorem restores_discard {counting plain : Reader Result}
    (reads : Restores before counting plain) :
    Restores before (discard counting) (discard plain) := by
  have steps (reader : Reader Result) : discard reader = reader >>= fun _ => pure () :=
    (bind_pure_comp (fun _ => ()) reader).symm
  rw [steps, steps]
  exact restores_bind reads fun _ => restores_pure ()

end

/-! ### Going in and out -/

section

variable {Result : Type} {before : Depths} {left : Depths → Prop}

theorem ends_observing {reader : Reader Result} {cursor : Cursor}
    {given : Except Diagnostic Result → Cursor → Prop} {refused : Diagnostic → Cursor → Prop} :
    Ends (observing reader) cursor given refused ↔
      Ends reader cursor (fun result after => given (.ok result) after)
        fun diagnostic after => given (.error diagnostic) after := by
  show Ends (EStateM.tryCatch (reader >>= fun result => pure (.ok result))
    fun diagnostic => pure (.error diagnostic)) cursor given refused ↔ _
  unfold Ends EStateM.tryCatch
  cases ended : reader cursor with
  | ok result after =>
    rw [bind_of_ok ended]
    exact Iff.rfl
  | error diagnostic after =>
    rw [bind_of_error ended]
    exact Iff.rfl

/-- What stands inside is read between the two changes of the counters, whatever comes of it. -/
theorem ends_within {enter : Depths → Depths} {leave : Depths → Depths → Depths}
    {inner : Reader Result} {cursor : Cursor} {given : Result → Cursor → Prop}
    {refused : Diagnostic → Cursor → Prop} :
    Ends (within enter leave inner) cursor given refused ↔
      Ends inner (cursor.withDepths (enter cursor.depths))
        (fun result after => given result (after.withDepths (leave cursor.depths after.depths)))
        fun diagnostic after =>
          refused diagnostic (after.withDepths (leave cursor.depths after.depths)) := by
  show Ends (observing inner >>= fun result => do
    modifyDepths (leave cursor.depths)
    ofExcept result) (cursor.withDepths (enter cursor.depths)) given refused ↔ _
  rw [ends_bind, ends_observing]
  exact Iff.rfl

theorem restores_within {enter : Depths → Depths} {leave : Depths → Depths → Depths}
    {counting plain : Reader Result} (reads : ReadsAs (enter before) left counting plain)
    (back : ∀ after, left after → leave before after = before) :
    Restores before (within enter leave counting) plain := by
  intro cursor
  rw [ends_within]
  refine (reads cursor).weaken ?_ ?_
  · rintro result after ⟨stands, same⟩
    exact ⟨back after.depths stands, same⟩
  · rintro diagnostic after ⟨stands, same⟩
    exact ⟨back after.depths stands, same⟩

theorem restores_functionBody {counting plain : Reader Stmt}
    (reads : Restores before.inFunction counting plain) :
    Restores before (functionBody counting) plain := by
  refine restores_within reads ?_
  rintro _ rfl
  rfl

theorem restores_loopBody {counting plain : Reader Stmt}
    (reads : Restores before.inLoop counting plain) :
    Restores before (loopBody counting) plain := by
  refine restores_within reads ?_
  rintro _ rfl
  rfl

/-- What a reader that is told how many levels are left reads with one of them taken. -/
def below (inner : Nat → Reader Result) : Nat → Reader Result
  | 0 => tooDeep
  | room + 1 => inner room

/-- As many levels are in use as the other reader has not left. -/
theorem readsAs_descend (stays : left before) {counting : Reader Result}
    {plain : Nat → Reader Result} {room : Nat} (levels : before.nesting + room = nestingLimit)
    (reads : ∀ less, room = less + 1 → ReadsAs before.deeper left counting (plain less)) :
    ReadsAs before left (do descend; counting) (below plain room) := by
  intro cursor
  cases room with
  | zero =>
    have full : ¬before.nesting < nestingLimit := by omega
    have refused : (do descend; counting) (cursor.withDepths before) =
        (tooDeep : Reader Result) (cursor.withDepths before) := by
      refine (bind_of_error (?_ : descend _ = (tooDeep : Reader Unit) _)).trans rfl
      exact congrFun (if_neg full) _
    rw [ends_congr refused]
    exact ⟨stays, rfl⟩
  | succ room =>
    have free : before.nesting < nestingLimit := by omega
    have taken : descend (cursor.withDepths before) =
        .ok () (cursor.withDepths before.deeper) := by
      exact congrFun (if_pos free) _
    rw [ends_bind_of_ok taken]
    exact reads room rfl cursor

/-- Whatever levels are taken inside are given back. -/
theorem restores_nested {counting : Reader Result} {plain : Nat → Reader Result} {room : Nat}
    (levels : before.nesting + room = nestingLimit)
    (reads : ∀ less, room = less + 1 →
      ReadsAs before.deeper before.SameBodies counting (plain less)) :
    Restores before (nested counting) (below plain room) := by
  refine restores_within (readsAs_descend ⟨rfl, rfl⟩ levels reads) ?_
  rintro ⟨functions, loops, nesting⟩ ⟨sameFunctions, sameLoops⟩
  obtain rfl : functions = before.functions := sameFunctions
  obtain rfl : loops = before.loops := sameLoops
  rfl

end

/-! ### One token -/

section

variable {before : Depths}

theorem restores_current : Restores before current current :=
  fun _ => ⟨rfl, rfl⟩

theorem restores_take : Restores before take take :=
  fun _ => ⟨rfl, rfl⟩

theorem restores_skipNewlines : Restores before skipNewlines skipNewlines :=
  fun _ => ⟨rfl, rfl⟩

theorem restores_sees (kind : TokenKind) : Restores before (sees kind) (sees kind) :=
  fun _ => ⟨rfl, rfl⟩

theorem restores_accept (kind : TokenKind) : Restores before (accept kind) (accept kind) := by
  refine restores_bind (restores_sees kind) fun found => ?_
  split
  next => exact restores_bind (restores_discard restores_take) fun _ => restores_pure true
  next => exact restores_pure false

theorem restores_expect (kind : TokenKind) (expected : Expectation) :
    Restores before (expect kind expected) (expect kind expected) := by
  refine restores_bind (restores_sees kind) fun found => ?_
  split
  next => exact restores_take
  next => exact restores_refuse expected

theorem restores_expectName (expected : Expectation) :
    Restores before (expectName expected) (expectName expected) :=
  restores_bind (restores_expect _ _) fun token => restores_pure token.text

/-- A token that has to come next. -/
theorem restores_token (kind : TokenKind) :
    Restores before (discard (expectToken kind)) (discard (expectToken kind)) :=
  restores_discard (restores_expect _ _)

theorem restores_operatorFrom (least : Precedence) :
    Restores before (operatorFrom least) (operatorFrom least) :=
  fun _ => ⟨rfl, rfl⟩

end

/-! ### Expressions -/

section

variable {before : Depths} {counting plain : Reader Expr} (reads : Restores before counting plain)

include reads

theorem restores_items (close : TokenKind) (what : Counted) (room : Nat) :
    Restores before (items counting close what room) (items plain close what room) := by
  induction room with
  | zero =>
    refine restores_bind (restores_sees close) fun found => ?_
    split
    next => exact restores_pure []
    next => exact restores_refuse _
  | succ room hypothesis =>
    refine restores_bind (restores_sees close) fun found => ?_
    split
    next => exact restores_pure []
    next =>
      refine restores_bind reads fun item => restores_bind (restores_accept _) fun comma => ?_
      split
      next => exact restores_bind hypothesis fun others => restores_pure (item :: others)
      next => exact restores_pure [item]

theorem restores_subscripted (target : Expr) :
    Restores before (subscripted counting target) (subscripted plain target) := by
  refine restores_bind (restores_accept _) fun found => ?_
  split
  next =>
    exact restores_bind reads fun index => restores_bind (restores_expect _ _) fun close =>
      restores_pure _
  next => exact restores_pure target

theorem restores_named : Restores before (named counting) (named plain) := by
  refine restores_bind restores_take fun token =>
    restores_bind (restores_accept _) fun called => ?_
  split
  next =>
    exact restores_bind (restores_items reads _ _ _) fun arguments =>
      restores_bind (restores_expect _ _) fun close => restores_subscripted reads _
  next => exact restores_subscripted reads _

theorem restores_primary : Restores before (primary counting) (primary plain) := by
  refine restores_bind restores_current fun token => ?_
  split
  next => exact restores_bind restores_take fun token => restores_pure _
  next => exact restores_bind restores_take fun token => restores_pure _
  next => exact restores_named reads
  next =>
    exact restores_bind restores_take fun first => restores_bind reads fun inner =>
      restores_bind (restores_expect _ _) fun close => restores_subscripted reads _
  next =>
    exact restores_bind restores_take fun first => restores_bind (restores_items reads _ _ _)
      fun content => restores_bind (restores_expect _ _) fun close => restores_pure _
  next => exact restores_refuse _

theorem restores_operand {countingInner plainInner : Reader Expr}
    (readsInner : Restores before countingInner plainInner) :
    Restores before (operand countingInner counting) (operand plainInner plain) := by
  refine restores_bind restores_current fun token => ?_
  split
  next =>
    exact restores_bind restores_take fun first => restores_bind readsInner fun value =>
      restores_pure _
  next => exact restores_primary reads

end

theorem restores_climb {before : Depths} {counting plain : Precedence → Expr → Reader Expr}
    (reads : ∀ least left, Restores before (counting least left) (plain least left))
    (operator : BinaryOperator) (levels : List Precedence) (right : Expr) :
    Restores before (climb counting operator levels right) (climb plain operator levels right) := by
  induction levels generalizing right with
  | nil => exact restores_pure right
  | cons level levels hypothesis =>
    refine restores_bind restores_current fun token => ?_
    split
    next => exact restores_pure right
    next =>
      split
      next =>
        split
        next => exact restores_bind (reads level right) fun wider => hypothesis wider
        next => exact hypothesis right
      next => exact restores_pure right

/-! ### As many levels as are left -/

theorem unary_eq (room : Nat) :
    Reader.unary room = operand (below Reader.unary room) (Reader.expression room) := by
  cases room with
  | zero => rfl
  | succ room =>
    rw [Reader.unary]
    rfl

theorem tail_eq (room : Nat) (least : Precedence) (left : Expr) :
    Reader.tail room least left = below (fun less => Reader.run less least left) room := by
  cases room with
  | zero => rw [Reader.tail, below]
  | succ room => rw [Reader.tail, below]

theorem expression_eq (room : Nat) :
    Reader.expression room = below (fun less => do
      let left ← Reader.unary less
      Reader.tail less .comparison left) room := by
  cases room with
  | zero => rfl
  | succ room => rfl

theorem run_eq (room : Nat) (least : Precedence) (left : Expr) :
    Reader.run room least left = operatorFrom least >>= fun found => found.elim (return left)
      fun operator => below (fun less => do
        discard take
        let first ← Reader.unary less
        let right ← climb (Reader.tail less) operator Precedence.descending first
        Reader.run less least
          (.binary (left.span.through right.span) operator left right)) room := by
  cases room with
  | zero =>
    rw [Reader.run]
    refine bind_congr fun found => ?_
    cases found <;> rfl
  | succ room =>
    rw [Reader.run]
    refine bind_congr fun found => ?_
    cases found <;> rfl

theorem statement_eq (room : Nat) (surroundings : Surroundings) :
    Reader.statement room surroundings = Reader.statementWith (Reader.expression room)
      (fun inner => body (below (fun less => Reader.statement less inner) room)) surroundings := by
  cases room with
  | zero => rfl
  | succ room => rfl

/-- Where the levels that are in use and those that are left add up to the limit, both readers read
the same, with any fuel that covers the levels that are left. -/
theorem restores_of_fuel (fuel room : Nat) (before : Depths)
    (levels : before.nesting + room = nestingLimit) (enough : room ≤ fuel) :
    Restores before (unary fuel) (Reader.unary room) ∧
      (∀ least left, Restores before (tail fuel least left) (Reader.tail room least left)) ∧
      ∀ least left, ReadsAs before before.SameBodies (run fuel least left)
        (Reader.run room least left) := by
  -- Fuel falls with every level that is taken. Where none is left it does not matter.
  induction fuel generalizing room before with
  | zero =>
    have full (less : Nat) : room ≠ less + 1 := by omega
    refine ⟨?_, fun least left => ?_, fun least left => ?_⟩
    · rw [unary, unary_eq, expression_eq]
      exact restores_operand (restores_nested levels fun less taken => absurd taken (full less))
        (restores_nested levels fun less taken => absurd taken (full less))
    · rw [tail, tail_eq]
      exact restores_nested levels fun less taken => absurd taken (full less)
    · rw [run, run_eq]
      refine readsAs_bind ⟨rfl, rfl⟩ (restores_operatorFrom least) fun found => ?_
      cases found with
      | none => exact readsAs_pure ⟨rfl, rfl⟩ left
      | some operator =>
        exact readsAs_descend ⟨rfl, rfl⟩ levels fun less taken => absurd taken (full less)
  | succ fuel hypothesis =>
    have deeper (less : Nat) (taken : room = less + 1) :=
      hypothesis less before.deeper (by show before.nesting + 1 + less = _; omega) (by omega)
    refine ⟨?_, fun least left => ?_, fun least left => ?_⟩
    · rw [unary, unary_eq, expression_eq]
      refine restores_operand (restores_nested levels fun less taken => ?_)
        (restores_nested levels fun less taken => ?_)
      · exact Restores.sameBodies (restores_bind (deeper less taken).1 fun first =>
          (deeper less taken).2.1 _ first)
      · exact (deeper less taken).1.sameBodies
    · rw [tail, tail_eq]
      exact restores_nested levels fun less taken => (deeper less taken).2.2 least left
    · rw [run, run_eq]
      refine readsAs_bind ⟨rfl, rfl⟩ (restores_operatorFrom least) fun found => ?_
      cases found with
      | none => exact readsAs_pure ⟨rfl, rfl⟩ left
      | some operator =>
        refine readsAs_descend ⟨rfl, rfl⟩ levels fun less taken => ?_
        obtain ⟨readsUnary, readsTail, readsRun⟩ := deeper less taken
        refine readsAs_bind ⟨rfl, rfl⟩ (restores_discard restores_take) fun _ =>
          readsAs_bind ⟨rfl, rfl⟩ readsUnary fun first => ?_
        exact readsAs_bind ⟨rfl, rfl⟩ (restores_climb readsTail operator _ first) fun right =>
          readsRun least _

theorem restores_expression (fuel room : Nat) (before : Depths)
    (levels : before.nesting + room = nestingLimit) (enough : room ≤ fuel) :
    Restores before (expression fuel) (Reader.expression room) := by
  rw [expression_eq]
  cases fuel with
  | zero => exact restores_nested levels fun less taken => by omega
  | succ fuel =>
    refine restores_nested levels fun less taken => ?_
    obtain ⟨readsUnary, readsTail, -⟩ := restores_of_fuel fuel less before.deeper
      (by show before.nesting + 1 + less = _; omega) (by omega)
    exact Restores.sameBodies (restores_bind readsUnary fun first => readsTail _ first)

/-! ### Statements -/

section

variable {before : Depths} {counting plain : Reader Expr} (reads : Restores before counting plain)

include reads

theorem restores_assignmentOrExpression :
    Restores before (assignmentOrExpression counting) (assignmentOrExpression plain) := by
  have assigns : Restores before (assignment counting) (assignment plain) := by
    exact restores_bind restores_take fun target =>
      restores_bind (restores_discard restores_take) fun _ =>
        restores_bind reads fun value => restores_pure _
  have alone : Restores before (do return Stmt.expr (← counting))
      (do return Stmt.expr (← plain)) :=
    restores_bind reads fun value => restores_pure _
  intro cursor
  have counted : assignmentOrExpression counting (cursor.withDepths before) =
      (if cursor.current.kind = .identifier ∧ cursor.following.kind = .assign then
        assignment counting else do return .expr (← counting)) (cursor.withDepths before) := rfl
  have told : assignmentOrExpression plain cursor =
      (if cursor.current.kind = .identifier ∧ cursor.following.kind = .assign then
        assignment plain else do return .expr (← plain)) cursor := rfl
  rw [ends_congr counted]
  simp only [told]
  split
  next => exact assigns cursor
  next => exact alone cursor

theorem restores_simple (surroundings : Surroundings) :
    Restores before (simple counting surroundings) (simple plain surroundings) := by
  have jumps (word : Keyword) (jump : Span → Stmt) :
      Restores before (jumpStatement word surroundings jump)
        (jumpStatement word surroundings jump) := by
    unfold jumpStatement
    split
    next => exact restores_bind restores_take fun token => restores_pure (jump token.span)
    next => exact fun _ => ⟨rfl, rfl⟩
  have returns : Restores before (returnStatement counting surroundings)
      (returnStatement plain surroundings) := by
    unfold returnStatement
    split
    next => exact fun _ => ⟨rfl, rfl⟩
    next =>
      refine restores_bind restores_take fun first => restores_bind restores_current fun next => ?_
      split
      next => exact restores_pure _
      next => exact restores_bind reads fun value => restores_pure _
  have line : Restores before (oneLine counting surroundings) (oneLine plain surroundings) := by
    refine restores_bind restores_current fun token => ?_
    split
    next => exact returns
    next => exact restores_bind restores_take fun token => restores_pure _
    next => exact jumps .breakWord .breaks
    next => exact jumps .continueWord .continues
    next =>
      exact restores_bind restores_take fun first => restores_bind (restores_expect _ _)
        fun name => restores_pure _
    next => exact restores_assignmentOrExpression reads
  exact restores_bind line fun statement =>
    restores_bind (restores_discard (restores_accept _)) fun _ => restores_pure statement

end

section

variable {before : Depths} {counting plain : Reader Expr} {countingInner plainInner : Reader Stmt}

theorem restores_body (inner : Restores before countingInner plainInner) :
    Restores before (body countingInner) (body plainInner) := by
  refine restores_bind restores_skipNewlines fun _ =>
    restores_bind (restores_sees _) fun ended => ?_
  split
  next => exact restores_refuse _
  next => exact inner

theorem restores_parameters (room : Nat) :
    Restores before (parameters room) (parameters room) := by
  induction room with
  | zero =>
    refine restores_bind (restores_sees _) fun found => ?_
    split
    next => exact restores_pure []
    next => exact restores_refuse _
  | succ room hypothesis =>
    refine restores_bind (restores_sees _) fun found => ?_
    split
    next => exact restores_pure []
    next =>
      refine restores_bind (restores_expectName _) fun name =>
        restores_bind (restores_accept _) fun comma => ?_
      split
      next => exact restores_bind hypothesis fun others => restores_pure (name :: others)
      next => exact restores_pure [name]

variable (reads : Restores before counting plain) (inner : Restores before countingInner plainInner)

include inner

theorem restores_otherwise :
    Restores before (branches.otherwise countingInner) (branches.otherwise plainInner) := by
  refine restores_bind (restores_accept _) fun found => ?_
  split
  next =>
    exact restores_bind (restores_token _) fun _ => restores_bind inner fun content =>
      restores_pure _
  next => exact restores_pure _

include reads

theorem restores_branches (room : Nat) :
    Restores before (branches counting countingInner room) (branches plain plainInner room) := by
  induction room with
  | zero =>
    refine restores_bind restores_skipNewlines fun _ =>
      restores_bind (restores_sees _) fun found => ?_
    split
    next => exact restores_refuse _
    next => exact restores_otherwise inner
  | succ room hypothesis =>
    refine restores_bind restores_skipNewlines fun _ =>
      restores_bind (restores_accept _) fun found => ?_
    split
    next =>
      exact restores_bind reads fun condition => restores_bind (restores_token _) fun _ =>
        restores_bind inner fun content => restores_bind hypothesis fun others =>
          restores_pure _
    next => exact restores_otherwise inner

end

/-- The counters say what the other reader is told, and in the bodies they say it again. -/
theorem restores_statementWith {before : Depths} {counting plain : Reader Expr}
    {countingInner : Reader Stmt} {plainInner : Surroundings → Reader Stmt}
    (reads : Restores before counting plain)
    (inner : ∀ inside : Depths, inside.nesting = before.nesting →
      Restores inside countingInner (plainInner inside.surroundings)) :
    Restores before (statementWith counting countingInner)
      (Reader.statementWith plain plainInner before.surroundings) := by
  have function := restores_functionBody (inner before.inFunction rfl)
  have loop := restores_loopBody (inner before.inLoop rfl)
  have simple := restores_simple reads before.surroundings
  refine restores_bind restores_current fun token => ?_
  cases token.kind with
  | keyword word =>
    cases word with
    | defWord =>
      refine restores_bind restores_take fun first => restores_bind (restores_expectName _)
        fun name => restores_bind (restores_token _) fun _ => ?_
      refine restores_bind (restores_parameters _) fun names => restores_bind (restores_token _)
        fun _ => restores_bind (restores_token _) fun _ => ?_
      exact restores_bind function fun content => restores_pure _
    | ifWord =>
      refine restores_bind restores_take fun first => restores_bind reads fun condition =>
        restores_bind (restores_token _) fun _ => restores_bind (inner before rfl) fun content => ?_
      exact restores_bind (restores_branches reads (inner before rfl) _) fun others =>
        restores_pure _
    | forWord =>
      refine restores_bind restores_take fun first => restores_bind (restores_expectName _)
        fun name => restores_bind (restores_token _) fun _ => ?_
      exact restores_bind reads fun iterable => restores_bind (restores_token _) fun _ =>
        restores_bind loop fun content => restores_pure _
    | whileWord =>
      exact restores_bind restores_take fun first => restores_bind reads fun condition =>
        restores_bind (restores_token _) fun _ => restores_bind loop fun content => restores_pure _
    | _ => exact simple
  | _ => exact simple

/-- Wherever a statement begins, both readers read the same, and the counters are put back. -/
theorem restores_statement (fuel room : Nat) (before : Depths)
    (levels : before.nesting + room = nestingLimit) (enough : room ≤ fuel) :
    Restores before (statement fuel) (Reader.statement room before.surroundings) := by
  induction fuel generalizing room before with
  | zero =>
    rw [statement_eq, statement]
    refine restores_statementWith (restores_expression 0 room before levels enough)
      fun inside same => restores_body (restores_nested (same ▸ levels) fun less taken => ?_)
    omega
  | succ fuel hypothesis =>
    rw [statement_eq, statement]
    refine restores_statementWith (restores_expression _ room before levels enough)
      fun inside same => restores_body (restores_nested (same ▸ levels) fun less taken => ?_)
    refine Restores.sameBodies (hypothesis less inside.deeper ?_ (by omega))
    show inside.nesting + 1 + less = nestingLimit
    omega

/-! ### Round by round -/

section

variable {counting plain : Reader Stmt} {before : Depths} (reads : Restores before counting plain)

include reads

/-- Where the counters stand as they are left, both readers do the same, and leave them so. -/
theorem Restores.alike {cursor : Cursor} (stands : cursor.depths = before) :
    counting cursor = plain cursor ∧ Ends counting cursor (fun _ after => after.depths = before)
      fun _ after => after.depths = before := by
  have same := reads cursor
  rw [Cursor.withDepths_depths stands] at same
  refine ⟨?_, same.weaken (fun _ _ back => back.1) fun _ _ back => back.1⟩
  cases ended : counting cursor with
  | ok item after =>
    obtain ⟨back, through⟩ := same.of_ok ended
    rw [through, stands, Cursor.withDepths_depths back]
  | error diagnostic after =>
    obtain ⟨back, cut⟩ := same.of_error ended
    rw [cut, stands, Cursor.withDepths_depths back]

/-- Counters that stand as they are left stand so whenever a statement is begun. -/
theorem Begins.depths {cursor start : Cursor} (begins : Begins counting cursor start)
    (stands : cursor.depths = before) : start.depths = before := by
  induction begins with
  | here => exact stands
  | @passed cursor _ _ _ through _ hypothesis =>
    have skipped : cursor.skipNewlines.depths = before := stands
    exact hypothesis ((reads.alike skipped).2.of_ok through)
  | @failed cursor _ _ _ cut _ hypothesis =>
    have skipped : cursor.skipNewlines.depths = before := stands
    have back := (reads.alike skipped).2.of_error cut
    exact hypothesis back

/-- Both readers give the same statements and the same messages. -/
theorem statementsAfter_alike (items : List Stmt) (diagnostics : List Diagnostic) (rounds : Nat)
    {cursor : Cursor} (stands : cursor.depths = before) :
    statementsAfter counting items diagnostics rounds cursor =
      statementsAfter plain items diagnostics rounds cursor := by
  induction rounds generalizing items diagnostics cursor with
  | zero => rfl
  | succ rounds hypothesis =>
    have skipped : cursor.skipNewlines.depths = before := stands
    obtain ⟨same, stays⟩ := reads.alike skipped
    unfold statementsAfter
    dsimp only
    rw [same]
    rw [ends_congr same] at stays
    split
    next => rfl
    next =>
      split
      next item after through => exact hypothesis _ _ (stays.of_ok through)
      next diagnostic after cut =>
        have back := stays.of_error cut
        exact hypothesis _ _ back

end

/-- From the start of a source, every statement is begun outside of everything, and what is read is
what the reader of programs reads. -/
theorem statements_alike {fuel : Nat} (enough : nestingLimit ≤ fuel) (tokens : Tokens) :
    let start := Cursor.ofTokens tokens
    statementsAfter (statement fuel) [] [] start.ahead.length start = statements start ∧
      ∀ begun, Begins (statement fuel) start begun → begun.depths = .outside := by
  have reads := restores_statement fuel nestingLimit .outside (Nat.zero_add _) enough
  exact ⟨statementsAfter_alike reads [] [] _ rfl, fun begun begins => begins.depths reads rfl⟩

end Tracking

end Scriptling
