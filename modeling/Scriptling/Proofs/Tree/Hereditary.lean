/-
This file carries a property of statements through the reader. A property is
hereditary if a statement has it whenever the expressions and the statements
inside it have theirs, with as many levels left as there are for them and in the
surroundings in which they stand, and the reader lets the statement stand where
it is: jumps where something surrounds them that they can leave, and definitions
with only so many parameters. Every statement that is read has every hereditary
property, however deeply it is nested.
-/

import Scriptling.Proofs.Tree.Reading
import Scriptling.Tree.Source

namespace Scriptling

/-- Properties of expressions, statements and chains of branches, by the levels that are left and by
what surrounds them, that are handed on from the inside to the outside. -/
structure Hereditary (exprs : Nat → Expr → Prop) (statements : Nat → Surroundings → Stmt → Prop)
    (chains : Nat → Surroundings → Branches → Prop) : Prop where
  /-- Expressions have theirs to begin with. -/
  reads (room : Nat) : Gives (exprs room) (Reader.expression room)
  expr {room : Nat} {around : Surroundings} {value : Expr} :
    exprs room value → statements room around (.expr value)
  returns {room : Nat} {around : Surroundings} {value : Option Expr} (span : Span) :
    around.inFunction → (∀ result ∈ value, exprs room result) →
      statements room around (.returns span value)
  define {room : Nat} {around : Surroundings} {parameters : List Name} {body : Stmt} (span : Span)
    (name : Name) : parameters.length ≤ itemLimit → statements room .functionBody body →
      statements (room + 1) around (.define span name parameters body)
  assign {room : Nat} {around : Surroundings} {value : Expr} (span : Span) (name : Name) :
    exprs room value → statements room around (.assign span name value)
  forLoop {room : Nat} {around : Surroundings} {iterable : Expr} {body : Stmt} (span : Span)
    (name : Name) : exprs (room + 1) iterable → statements room around.loopBody body →
      statements (room + 1) around (.forLoop span name iterable body)
  branch {room : Nat} {around : Surroundings} {condition : Expr} {body : Stmt} {others : Branches}
    (span : Span) : exprs (room + 1) condition → statements room around body →
      chains (room + 1) around others →
        statements (room + 1) around (.branch span condition body others)
  whileLoop {room : Nat} {around : Surroundings} {condition : Expr} {body : Stmt} (span : Span) :
    exprs (room + 1) condition → statements room around.loopBody body →
      statements (room + 1) around (.whileLoop span condition body)
  pass {room : Nat} {around : Surroundings} (span : Span) : statements room around (.pass span)
  breaks {room : Nat} {around : Surroundings} (span : Span) :
    around.inLoop → statements room around (.breaks span)
  continues {room : Nat} {around : Surroundings} (span : Span) :
    around.inLoop → statements room around (.continues span)
  imports {room : Nat} {around : Surroundings} (span : Span) (name : Name) :
    statements room around (.imports span name)
  arm {room : Nat} {around : Surroundings} {condition : Expr} {body : Stmt} {others : Branches} :
    exprs (room + 1) condition → statements room around body → chains (room + 1) around others →
      chains (room + 1) around (.arm condition body others)
  otherwise {room : Nat} {around : Surroundings} {body : Stmt} :
    statements room around body → chains (room + 1) around (.otherwise body)
  done {room : Nat} {around : Surroundings} : chains room around .done

namespace Reader

variable {Result : Type} {property : Result → Prop}

theorem gives_refuse {expected : Expectation} : Gives property (refuse expected) :=
  fun _ => trivial

theorem gives_refuseWithNote {expected : Expectation} {note : Note} :
    Gives property (refuseWithNote expected note) :=
  fun _ => trivial

/-- No more names are read than there is room for. -/
theorem length_parameters_le (room : Nat) :
    Gives (fun names => names.length ≤ room) (parameters room) := by
  induction room with
  | zero =>
    refine gives_bind fun closed => ?_
    split
    next => exact gives_pure (Nat.le_refl 0)
    next => exact gives_refuse
  | succ room hypothesis =>
    refine gives_bind fun closed => ?_
    split
    next => exact gives_pure (Nat.zero_le _)
    next =>
      refine gives_bind fun name => gives_bind fun more => ?_
      split
      next => exact gives_bind_of hypothesis fun names few => gives_pure (Nat.succ_le_succ few)
      next => exact gives_pure (Nat.le_add_left 1 room)

theorem gives_body {inner : Reader Stmt} {property : Stmt → Prop} (inside : Gives property inner) :
    Gives property (body inner) := by
  refine gives_bind fun _ => gives_bind fun finished => ?_
  split
  next => exact gives_refuse
  next => exact inside

/-- What holds of every statement that can be read at the top level holds of all statements of a
source. -/
theorem forall_statementsAfter {property : Stmt → Prop}
    {statement : Reader Stmt} (each : Gives property statement) (items : List Stmt)
    (diagnostics : List Diagnostic) (rounds : Nat) (cursor : Cursor)
    (before : ∀ item ∈ items, property item) :
    ∀ item ∈ (statementsAfter statement items diagnostics rounds cursor).items,
      property item := by
  induction rounds generalizing items diagnostics cursor with
  | zero => exact fun item member => before item (List.mem_reverse.mp member)
  | succ rounds hypothesis =>
    unfold statementsAfter
    dsimp only
    split
    next => exact fun item member => before item (List.mem_reverse.mp member)
    next =>
      split
      next item after read =>
        refine hypothesis _ _ _ fun other member => ?_
        rcases List.mem_cons.mp member with rfl | old
        · exact (each _).of_ok read
        · exact before other old
      next => exact hypothesis _ _ _ before

end Reader

namespace Hereditary

open Reader

variable {exprs : Nat → Expr → Prop} {statements : Nat → Surroundings → Stmt → Prop}
  {chains : Nat → Surroundings → Branches → Prop} {room : Nat} {around : Surroundings}

/-- A body has its property with one level less than there are for its statement. -/
def Below (statements : Nat → Surroundings → Stmt → Prop) (room : Nat) (around : Surroundings)
    (body : Stmt) : Prop :=
  ∃ lower, room = lower + 1 ∧ statements lower around body

variable (hereditary : Hereditary exprs statements chains)

include hereditary

theorem returnStatement :
    Gives (statements room around) (returnStatement (expression room) around) := by
  unfold Reader.returnStatement
  split
  next => exact gives_refuseWithNote
  next inside =>
    have allowed : around.inFunction = true := by simpa using inside
    refine gives_bind fun first => gives_bind fun next => ?_
    split
    next => exact gives_pure (hereditary.returns _ allowed nofun)
    next =>
      refine gives_bind_of (hereditary.reads room) fun value holds => ?_
      exact gives_pure (hereditary.returns _ allowed fun _ same => Option.some.inj same ▸ holds)

omit hereditary in
theorem jumpStatement (word : Keyword) (jump : Span → Stmt)
    (fits : around.inLoop → ∀ span, statements room around (jump span)) :
    Gives (statements room around) (jumpStatement word around jump) := by
  unfold Reader.jumpStatement
  split
  next inside => exact gives_bind fun token => gives_pure (fits inside token.span)
  next => exact gives_refuseWithNote

theorem importStatement : Gives (statements room around) importStatement :=
  gives_bind fun _ => gives_bind fun _ => gives_pure (hereditary.imports _ _)

theorem assignmentOrExpression :
    Gives (statements room around) (assignmentOrExpression (expression room)) := by
  unfold Reader.assignmentOrExpression
  refine gives_bind fun cursor => ?_
  split
  next =>
    exact gives_bind fun _ => gives_bind fun _ => gives_bind_of (hereditary.reads room)
      fun _ holds => gives_pure (hereditary.assign _ _ holds)
  next =>
    exact gives_bind_of (hereditary.reads room) fun _ holds => gives_pure (hereditary.expr holds)

theorem simple : Gives (statements room around) (simple (expression room) around) := by
  have line : Gives (statements room around) (oneLine (expression room) around) := by
    unfold oneLine
    refine gives_bind fun token => ?_
    split
    next => exact hereditary.returnStatement
    next => exact gives_bind fun _ => gives_pure (hereditary.pass _)
    next => exact jumpStatement _ _ fun inside span => hereditary.breaks span inside
    next => exact jumpStatement _ _ fun inside span => hereditary.continues span inside
    next => exact hereditary.importStatement
    next => exact hereditary.assignmentOrExpression
  exact gives_bind_of line fun statement holds => gives_bind fun _ => gives_pure holds

theorem definition {inner : Surroundings → Reader Stmt}
    (inside : Gives (Below statements room .functionBody) (inner .functionBody)) :
    Gives (statements room around) (definition inner) := by
  refine gives_bind fun _ => gives_bind fun _ => gives_bind fun _ => ?_
  refine gives_bind_of (length_parameters_le itemLimit) fun names few => ?_
  refine gives_bind fun _ => gives_bind fun _ => gives_bind_of inside ?_
  rintro content ⟨lower, rfl, holds⟩
  exact gives_pure (hereditary.define _ _ few holds)

variable {inner : Reader Stmt}

theorem branchesOtherwise (inside : Gives (Below statements room around) inner) :
    Gives (chains room around) (branches.otherwise inner) := by
  refine gives_bind fun found => ?_
  split
  next =>
    refine gives_bind fun _ => gives_bind_of inside ?_
    rintro content ⟨lower, rfl, holds⟩
    exact gives_pure (hereditary.otherwise holds)
  next => exact gives_pure hereditary.done

theorem branches (inside : Gives (Below statements room around) inner) (arms : Nat) :
    Gives (chains room around) (branches (expression room) inner arms) := by
  induction arms with
  | zero =>
    refine gives_bind fun _ => gives_bind fun found => ?_
    split
    next => exact gives_refuse
    next => exact hereditary.branchesOtherwise inside
  | succ arms hypothesis =>
    refine gives_bind fun _ => gives_bind fun found => ?_
    split
    next =>
      refine gives_bind_of (hereditary.reads room) fun condition holds => gives_bind fun _ =>
        gives_bind_of inside ?_
      rintro content ⟨lower, rfl, first⟩
      exact gives_bind_of hypothesis fun others rest => gives_pure (hereditary.arm holds first rest)
    next => exact hereditary.branchesOtherwise inside

theorem statementWith {inner : Surroundings → Reader Stmt}
    (inside : ∀ around, Gives (Below statements room around) (inner around)) :
    Gives (statements room around) (statementWith (expression room) inner around) := by
  unfold Reader.statementWith
  refine gives_bind fun token => ?_
  split
  next => exact hereditary.definition (inside .functionBody)
  next =>
    refine gives_bind fun _ => gives_bind_of (hereditary.reads room) fun condition holds =>
      gives_bind fun _ => gives_bind_of (inside around) ?_
    rintro content ⟨lower, rfl, first⟩
    exact gives_bind_of (hereditary.branches (inside around) _) fun others rest =>
      gives_pure (hereditary.branch _ holds first rest)
  next =>
    refine gives_bind fun _ => gives_bind fun _ => gives_bind fun _ =>
      gives_bind_of (hereditary.reads room) fun iterable holds => gives_bind fun _ =>
        gives_bind_of (inside around.loopBody) ?_
    rintro content ⟨lower, rfl, round⟩
    exact gives_pure (hereditary.forLoop _ _ holds round)
  next =>
    refine gives_bind fun _ => gives_bind_of (hereditary.reads room) fun condition holds =>
      gives_bind fun _ => gives_bind_of (inside around.loopBody) ?_
    rintro content ⟨lower, rfl, round⟩
    exact gives_pure (hereditary.whileLoop _ holds round)
  next => exact hereditary.simple

/-- A statement that is read has every hereditary property. -/
theorem statement (room : Nat) (around : Surroundings) :
    Gives (statements room around) (statement room around) := by
  induction room generalizing around with
  | zero => exact hereditary.statementWith fun inside => gives_body gives_refuse
  | succ room hypothesis =>
    refine hereditary.statementWith fun inside => gives_body ?_
    exact (hypothesis inside).weaken fun _ holds => ⟨room, rfl, holds⟩

/-- In a program that can be read, every statement at the top level has every hereditary
property. -/
theorem of_ofSource {source : Bytes} {program : Program}
    (read : Program.ofSource source = .ok program) :
    ∀ item ∈ program.items, statements nestingLimit .topLevel item := by
  unfold Program.ofSource at read
  dsimp only at read
  split at read
  next =>
    cases read
    exact forall_statementsAfter (hereditary.statement _ _) _ _ _ _
      fun item member => absurd member List.not_mem_nil
  next => cases read

end Hereditary

/-- What holds of every expression that can be read holds of the expression of a source. -/
theorem Expr.of_ofSource {property : Expr → Prop}
    (reads : Gives property (Reader.expression nestingLimit)) {source : Bytes} {expr : Expr}
    (read : Expr.ofSource source = .ok expr) : property expr := by
  have whole : Gives property Reader.wholeExpression := by
    refine gives_bind_of reads fun value holds => gives_bind fun _ => gives_bind fun ended => ?_
    split
    next => exact gives_pure holds
    next => exact Reader.gives_refuse
  unfold Expr.ofSource at read
  dsimp only at read
  split at read
  next value cursor through =>
    split at read
    next =>
      cases read
      exact (whole _).of_ok through
    next => cases read
  next => cases read

end Scriptling
