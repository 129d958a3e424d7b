/-
This file collects the variables that a tree reads. They are the names by which
an expression asks for values, wherever they stand in it, and those of all
expressions in a statement, also in the bodies of functions that it defines. The
names of functions are not among them, nor are names that are only bound.
-/

import Scriptling.Tree

namespace Scriptling

namespace Expr

mutual

/-- The variables that an expression reads. -/
def reads : Expr → List Name
  | .number .. | .string .. => []
  | .name _ known => [known]
  | .binary _ _ left right => left.reads ++ right.reads
  | .unary _ _ operand => operand.reads
  | .call _ _ arguments => allReads arguments
  | .paren _ inner => inner.reads
  | .list _ items => allReads items
  | .subscript _ target index => target.reads ++ index.reads

/-- The variables that some expressions read. -/
def allReads : List Expr → List Name
  | [] => []
  | item :: rest => item.reads ++ allReads rest

end

theorem reads_subset_allReads {items : List Expr} {item : Expr} (member : item ∈ items) :
    item.reads ⊆ allReads items := by
  induction items with
  | nil => cases member
  | cons first rest hypothesis =>
    rw [allReads]
    rcases List.mem_cons.mp member with rfl | inside
    · exact List.subset_append_left _ _
    · exact List.subset_append_of_subset_right _ (hypothesis inside)

end Expr

mutual

/-- The variables that a statement reads. -/
def Stmt.reads : Stmt → List Name
  | .expr value | .assign _ _ value => value.reads
  | .returns _ value => (value.map Expr.reads).getD []
  | .define _ _ _ body => body.reads
  | .forLoop _ _ iterable body => iterable.reads ++ body.reads
  | .branch _ condition body others =>
    condition.reads ++ (body.reads ++ others.reads)
  | .whileLoop _ condition body => condition.reads ++ body.reads
  | .pass _ | .breaks _ | .continues _ | .imports .. => []

/-- The variables that the conditions and the bodies of a chain read. -/
def Branches.reads : Branches → List Name
  | .arm condition body others => condition.reads ++ (body.reads ++ others.reads)
  | .otherwise body => body.reads
  | .done => []

end

end Scriptling
