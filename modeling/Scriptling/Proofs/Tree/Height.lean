/-
This file measures trees. The height of an expression or a statement is the
number of nodes on its longest way down, where a statement stands above the
expressions and the statements in it. Whatever is a part of a tree is lower than
the tree.
-/

import Scriptling.Proofs.Tree.Parts
import Scriptling.Registry

namespace Scriptling

/-- The greatest of some numbers. -/
def greatest (numbers : List Nat) : Nat :=
  numbers.foldr max 0

theorem le_greatest {numbers : List Nat} {number : Nat} (member : number ∈ numbers) :
    number ≤ greatest numbers := by
  induction numbers with
  | nil => cases member
  | cons first rest hypothesis =>
    rcases List.mem_cons.mp member with rfl | inside
    · exact Nat.le_max_left _ _
    · exact Nat.le_trans (hypothesis inside) (Nat.le_max_right _ _)

/-! ### Expressions -/

namespace Expr

mutual

def height : Expr → Nat
  | .number .. | .string .. | .name .. => 1
  | .binary _ _ left right => max left.height right.height + 1
  | .unary _ _ operand => operand.height + 1
  | .call _ _ arguments => allHeight arguments + 1
  | .paren _ inner => inner.height + 1
  | .list _ items => allHeight items + 1
  | .subscript _ target index => max target.height index.height + 1

/-- The height of the highest of some expressions. -/
def allHeight : List Expr → Nat
  | [] => 0
  | item :: rest => max item.height (allHeight rest)

end

theorem height_pos (expr : Expr) : 0 < expr.height := by
  cases expr <;> simp [height]

theorem height_le_allHeight {items : List Expr} {item : Expr} (member : item ∈ items) :
    item.height ≤ allHeight items := by
  have same (items : List Expr) : allHeight items = greatest (items.map height) := by
    induction items with
    | nil => rfl
    | cons first rest hypothesis =>
      rw [allHeight, hypothesis]
      rfl
  rw [same]
  exact le_greatest (List.mem_map_of_mem member)

end Expr

/-! ### Statements -/

mutual

def Stmt.height : Stmt → Nat
  | .expr value => value.height + 1
  | .returns _ value => (value.map Expr.height).getD 0 + 1
  | .define _ _ _ body => body.height + 1
  | .assign _ _ value => value.height + 1
  | .forLoop _ _ iterable body => max iterable.height body.height + 1
  | .branch _ condition body others =>
    max condition.height (max body.height others.height) + 1
  | .whileLoop _ condition body => max condition.height body.height + 1
  | .pass _ | .breaks _ | .continues _ | .imports .. => 1

/-- The height of the highest condition or body of a chain. -/
def Branches.height : Branches → Nat
  | .arm condition body others => max condition.height (max body.height others.height)
  | .otherwise body => body.height
  | .done => 0

end

theorem Stmt.height_pos (statement : Stmt) : 0 < statement.height := by
  cases statement <;> simp [Stmt.height]

mutual

/-- The functions that a statement defines have lower bodies than the statement. -/
theorem Stmt.eachFunction_height {bound : Nat} : ∀ statement : Stmt, statement.height ≤ bound →
    statement.EachFunction fun function => function.body.height ≤ bound
  | .define _ _ _ body, low => by
    rw [Stmt.height] at low
    exact ⟨Nat.le_of_succ_le low, body.eachFunction_height (Nat.le_of_succ_le low)⟩
  | .forLoop _ _ _ body, low | .whileLoop _ _ body, low => by
    rw [Stmt.height] at low
    exact body.eachFunction_height (by omega)
  | .branch _ _ body others, low => by
    rw [Stmt.height] at low
    exact ⟨body.eachFunction_height (by omega), others.eachFunction_height (by omega)⟩
  | .expr _, _ | .returns .., _ | .assign .., _ | .pass _, _ | .breaks _, _ | .continues _, _
  | .imports .., _ => trivial

theorem Branches.eachFunction_height {bound : Nat} : ∀ branches : Branches,
    branches.height ≤ bound →
      branches.EachFunction fun function => function.body.height ≤ bound
  | .arm _ body others, low => by
    rw [Branches.height] at low
    exact ⟨body.eachFunction_height (by omega), others.eachFunction_height (by omega)⟩
  | .otherwise body, low => body.eachFunction_height low
  | .done, _ => trivial

end

/-! ### Programs and registries -/

/-- The height of the highest statement of a program. -/
def Program.height (program : Program) : Nat :=
  greatest (program.items.map Stmt.height)

/-- The height of the highest body of a function. -/
def Registry.height (registry : Registry) : Nat :=
  greatest (registry.functions.map fun function => function.body.height)

theorem Program.height_le_of_mem {program : Program} {item : Stmt} (member : item ∈ program.items) :
    item.height ≤ program.height :=
  le_greatest (List.mem_map_of_mem member)

theorem Registry.height_le_of_mem {registry : Registry} {function : Function}
    (member : function ∈ registry.functions) : function.body.height ≤ registry.height :=
  le_greatest (List.mem_map.mpr ⟨function, member, rfl⟩)

end Scriptling
