/-
This file moves trees to other places in their source. Only the spans change, and
they may change in any way: moving all of them to one place leaves of a tree what
does not depend on where it was read. A registry of functions is moved with their
bodies. Looking a function up and registering one do not depend on places, so
they may be done before or after.
-/

import Scriptling.Registry

namespace Scriptling

variable (move : Span → Span)

/-! ### Trees -/

mutual

/-- The same expression at other places. -/
def Expr.moved : Expr → Expr
  | .number span value => .number (move span) value
  | .string span text => .string (move span) text
  | .name span content => .name (move span) content
  | .binary span operator left right => .binary (move span) operator left.moved right.moved
  | .unary span operator operand => .unary (move span) operator operand.moved
  | .call span callee arguments => .call (move span) callee (Expr.allMoved arguments)
  | .paren span inner => .paren (move span) inner.moved
  | .list span items => .list (move span) (Expr.allMoved items)
  | .subscript span target index => .subscript (move span) target.moved index.moved

/-- The same expressions at other places. -/
def Expr.allMoved : List Expr → List Expr
  | [] => []
  | item :: rest => item.moved :: Expr.allMoved rest

end

mutual

/-- The same statement at other places. -/
def Stmt.moved : Stmt → Stmt
  | .expr value => .expr (value.moved move)
  | .returns span value => .returns (move span) (value.map (Expr.moved move))
  | .define span name parameters body => .define (move span) name parameters body.moved
  | .assign span name value => .assign (move span) name (value.moved move)
  | .forLoop span loopName iterable body =>
    .forLoop (move span) loopName (iterable.moved move) body.moved
  | .branch span condition body others =>
    .branch (move span) (condition.moved move) body.moved others.moved
  | .whileLoop span condition body => .whileLoop (move span) (condition.moved move) body.moved
  | .pass span => .pass (move span)
  | .breaks span => .breaks (move span)
  | .continues span => .continues (move span)
  | .imports span name => .imports (move span) name

/-- The same branches at other places. -/
def Branches.moved : Branches → Branches
  | .arm condition body others => .arm (condition.moved move) body.moved others.moved
  | .otherwise body => .otherwise body.moved
  | .done => .done

end

theorem Expr.allMoved_eq_map (items : List Expr) :
    allMoved move items = items.map (moved move) := by
  induction items with
  | nil => rfl
  | cons item rest hypothesis => rw [allMoved, hypothesis, List.map_cons]

theorem Expr.length_allMoved (items : List Expr) : (allMoved move items).length = items.length := by
  rw [allMoved_eq_map, List.length_map]

mutual

/-- Where nothing is moved, an expression is the same. -/
theorem Expr.moved_id : ∀ expr : Expr, expr.moved id = expr
  | .number .. | .string .. | .name .. => rfl
  | .binary _ _ left right => by rw [Expr.moved, left.moved_id, right.moved_id, id]
  | .unary _ _ operand => by rw [Expr.moved, operand.moved_id, id]
  | .call _ _ arguments => by rw [Expr.moved, Expr.allMoved_id arguments, id]
  | .paren _ inner => by rw [Expr.moved, inner.moved_id, id]
  | .list _ items => by rw [Expr.moved, Expr.allMoved_id items, id]
  | .subscript _ target index => by rw [Expr.moved, target.moved_id, index.moved_id, id]

theorem Expr.allMoved_id : ∀ items : List Expr, allMoved id items = items
  | [] => rfl
  | item :: rest => by rw [Expr.allMoved, item.moved_id, Expr.allMoved_id rest]

end

mutual

/-- Where nothing is moved, a statement is the same. -/
theorem Stmt.moved_id : ∀ statement : Stmt, statement.moved id = statement
  | .expr value => by rw [Stmt.moved, value.moved_id]
  | .returns _ none => rfl
  | .returns _ (some value) => by rw [Stmt.moved, Option.map_some, value.moved_id, id]
  | .define _ _ _ body => by rw [Stmt.moved, body.moved_id, id]
  | .assign _ _ value => by rw [Stmt.moved, value.moved_id, id]
  | .forLoop _ _ iterable body => by rw [Stmt.moved, iterable.moved_id, body.moved_id, id]
  | .branch _ condition body others => by
    rw [Stmt.moved, condition.moved_id, body.moved_id, others.moved_id, id]
  | .whileLoop _ condition body => by rw [Stmt.moved, condition.moved_id, body.moved_id, id]
  | .pass _ | .breaks _ | .continues _ | .imports .. => rfl

theorem Branches.moved_id : ∀ branches : Branches, branches.moved id = branches
  | .arm condition body others => by
    rw [Branches.moved, condition.moved_id, body.moved_id, others.moved_id]
  | .otherwise body => by rw [Branches.moved, body.moved_id]
  | .done => rfl

end

/-- Where nothing is moved, statements are the same. -/
theorem Stmt.map_moved_id (statements : List Stmt) :
    statements.map (Stmt.moved id) = statements := by
  have same : Stmt.moved id = id := funext Stmt.moved_id
  rw [same, List.map_id]

theorem Stmt.span_moved (statement : Stmt) : (statement.moved move).span = move statement.span := by
  have expression (expr : Expr) : (expr.moved move).span = move expr.span := by
    cases expr <;> rfl
  cases statement with
  | expr value => exact expression value
  | _ => rfl

/-! ### Functions -/

/-- The same function at another place. -/
def Function.moved (function : Function) : Function :=
  ⟨function.name, function.parameters, function.body.moved move, move function.span⟩

/-- Where nothing is moved, functions are the same. -/
theorem Function.map_moved_id (functions : List Function) :
    functions.map (Function.moved id) = functions := by
  have same : Function.moved id = id := by
    funext function
    rw [Function.moved, function.body.moved_id, id, id]
  rw [same, List.map_id]

namespace Registry

/-- The same functions at other places. -/
def moved (registry : Registry) : Registry :=
  ⟨registry.functions.map (Function.moved move)⟩

theorem moved_id (registry : Registry) : registry.moved id = registry := by
  rw [moved, Function.map_moved_id]

theorem lookup_moved (registry : Registry) (name : Name) :
    (registry.moved move).lookup name = (registry.lookup name).map (Function.moved move) := by
  unfold lookup moved Entries.find?
  rw [List.find?_map]
  rfl

theorem register_moved (registry : Registry) (function : Function) :
    (registry.register function).moved move =
      (registry.moved move).register (function.moved move) := by
  have known : Entries.contains Function.name (registry.moved move).functions function.name =
      Entries.contains Function.name registry.functions function.name := by
    unfold Entries.contains moved
    rw [List.any_map]
    rfl
  have named : (function.moved move).name = function.name := rfl
  unfold register Entries.insert
  rw [named, known]
  split
  next =>
    simp only [moved, List.map_map]
    congr 1
    refine List.map_congr_left fun other _ => ?_
    show (if other.name == function.name then function else other).moved move =
      if other.name == function.name then function.moved move else other.moved move
    exact apply_ite (Function.moved move) _ _ _
  next => simp [moved]

end Registry

end Scriptling
