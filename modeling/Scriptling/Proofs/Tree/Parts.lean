/-
This file takes programs apart. The parts of a statement are itself and all the
statements that stand inside it, at any depth, and some of those define a
function. A statement or a function is readable if a program that can be read
has it as a part. What holds of every function that readable programs define
holds of every readable function.
-/

import Scriptling.Proofs.Tree.Hereditary

namespace Scriptling

/-! ### Parts of a statement -/

mutual

/-- A statement, and all statements that stand inside it. -/
def Stmt.parts (statement : Stmt) : List Stmt :=
  statement :: match statement with
    | .define _ _ _ body | .forLoop _ _ _ body | .whileLoop _ _ body => body.parts
    | .branch _ _ body others => body.parts ++ others.parts
    | .expr _ | .returns .. | .assign .. | .pass _ | .breaks _ | .continues _ | .imports .. => []

/-- All statements that stand in the bodies of a chain. -/
def Branches.parts : Branches → List Stmt
  | .arm _ body others => body.parts ++ others.parts
  | .otherwise body => body.parts
  | .done => []

end

theorem Stmt.mem_parts_self (statement : Stmt) : statement ∈ statement.parts := by
  unfold Stmt.parts
  exact List.mem_cons_self

mutual

/-- The parts of a part are parts. -/
theorem Stmt.parts_subset : ∀ (statement : Stmt) {part : Stmt},
    part ∈ statement.parts → part.parts ⊆ statement.parts
  | .define _ _ _ body, _, inside | .forLoop _ _ _ body, _, inside
  | .whileLoop _ _ body, _, inside => by
    rw [Stmt.parts] at inside ⊢
    rcases List.mem_cons.mp inside with rfl | deeper
    · rw [Stmt.parts]
      exact List.Subset.refl _
    · exact List.subset_cons_of_subset _ (body.parts_subset deeper)
  | .branch _ _ body others, _, inside => by
    rw [Stmt.parts] at inside ⊢
    rcases List.mem_cons.mp inside with rfl | deeper
    · rw [Stmt.parts]
      exact List.Subset.refl _
    · refine List.subset_cons_of_subset _ ?_
      rcases List.mem_append.mp deeper with first | rest
      · exact List.subset_append_of_subset_left _ (body.parts_subset first)
      · exact List.subset_append_of_subset_right _ (others.parts_subset rest)
  | .expr _, _, inside | .returns .., _, inside | .assign .., _, inside | .pass _, _, inside
  | .breaks _, _, inside | .continues _, _, inside | .imports .., _, inside => by
    rw [Stmt.parts] at inside
    rw [List.mem_singleton.mp inside]
    exact List.Subset.refl _

theorem Branches.parts_subset : ∀ (branches : Branches) {part : Stmt},
    part ∈ branches.parts → part.parts ⊆ branches.parts
  | .arm _ body others, _, inside => by
    rw [Branches.parts] at inside ⊢
    rcases List.mem_append.mp inside with first | rest
    · exact List.subset_append_of_subset_left _ (body.parts_subset first)
    · exact List.subset_append_of_subset_right _ (others.parts_subset rest)
  | .otherwise body, _, inside => body.parts_subset inside
  | .done, _, inside => absurd inside List.not_mem_nil

end

/-- Whether a statement is a loop that goes round as long as its condition holds. -/
def Stmt.isWhile : Stmt → Bool
  | .whileLoop .. => true
  | _ => false

/-! ### The functions of a text -/

/-- The statement that defines a function. -/
def Function.definition (function : Function) : Stmt :=
  .define function.span function.name function.parameters function.body

mutual

/-- Every function that a statement defines, at any depth, has a property. -/
def Stmt.EachFunction (property : Function → Prop) : Stmt → Prop
  | .define span name parameters body =>
    property ⟨name, parameters, body, span⟩ ∧ body.EachFunction property
  | .forLoop _ _ _ body | .whileLoop _ _ body => body.EachFunction property
  | .branch _ _ body others => body.EachFunction property ∧ others.EachFunction property
  | .expr _ | .returns .. | .assign .. | .pass _ | .breaks _ | .continues _ | .imports .. => True

/-- Every function that the bodies of a chain define, at any depth, has a property. -/
def Branches.EachFunction (property : Function → Prop) : Branches → Prop
  | .arm _ body others => body.EachFunction property ∧ others.EachFunction property
  | .otherwise body => body.EachFunction property
  | .done => True

end

mutual

/-- A statement defines just those functions whose definitions are parts of it. -/
theorem Stmt.eachFunction_iff {property : Function → Prop} : ∀ statement : Stmt,
    statement.EachFunction property ↔
      ∀ function : Function, function.definition ∈ statement.parts → property function
  | .define span name parameters body => by
    rw [Stmt.EachFunction, Stmt.parts, body.eachFunction_iff]
    constructor
    · rintro ⟨own, inner⟩ function inside
      rcases List.mem_cons.mp inside with same | deeper
      · cases same
        exact own
      · exact inner function deeper
    · exact fun all => ⟨all ⟨name, parameters, body, span⟩ List.mem_cons_self,
        fun function deeper => all function (List.mem_cons_of_mem _ deeper)⟩
  | .forLoop _ _ _ body | .whileLoop _ _ body => by
    rw [Stmt.EachFunction, Stmt.parts, body.eachFunction_iff]
    refine forall_congr' fun function => imp_congr_left ?_
    rw [List.mem_cons, or_iff_right nofun]
  | .branch _ _ body others => by
    rw [Stmt.EachFunction, Stmt.parts, body.eachFunction_iff, others.eachFunction_iff,
      ← forall_and]
    refine forall_congr' fun function => ?_
    rw [List.mem_cons, or_iff_right nofun, List.mem_append, or_imp]
  | .expr _ | .returns .. | .assign .. | .pass _ | .breaks _ | .continues _ | .imports .. => by
    rw [Stmt.EachFunction, Stmt.parts, true_iff]
    intro function inside
    cases List.mem_singleton.mp inside

theorem Branches.eachFunction_iff {property : Function → Prop} : ∀ branches : Branches,
    branches.EachFunction property ↔
      ∀ function : Function, function.definition ∈ branches.parts → property function
  | .arm _ body others => by
    rw [Branches.EachFunction, Branches.parts, body.eachFunction_iff, others.eachFunction_iff,
      ← forall_and]
    refine forall_congr' fun function => ?_
    rw [List.mem_append, or_imp]
  | .otherwise body => body.eachFunction_iff
  | .done => by
    rw [Branches.EachFunction, Branches.parts, true_iff]
    exact fun function inside => absurd inside List.not_mem_nil

end

/-- A part of a statement defines no other functions. -/
theorem Stmt.EachFunction.of_part {property : Function → Prop} {statement part : Stmt}
    (each : statement.EachFunction property) (inside : part ∈ statement.parts) :
    part.EachFunction property :=
  part.eachFunction_iff.mpr fun function member =>
    statement.eachFunction_iff.mp each function (statement.parts_subset inside member)

/-- What all functions have, those of a statement have. -/
theorem Stmt.eachFunction_of_forall {property : Function → Prop}
    (all : ∀ function, property function) (statement : Stmt) : statement.EachFunction property :=
  statement.eachFunction_iff.mpr fun function _ => all function

/-! ### Readable parts -/

/-- A statement is part of a program that can be read. -/
def Stmt.Readable (part : Stmt) : Prop :=
  ∃ source program, Program.ofSource source = .ok program ∧
    ∃ item ∈ program.items, part ∈ item.parts

/-- A function is defined in a program that can be read. -/
def Function.Readable (function : Function) : Prop :=
  function.definition.Readable

theorem Stmt.Readable.of_part {statement part : Stmt} (readable : statement.Readable)
    (inside : part ∈ statement.parts) : part.Readable := by
  obtain ⟨source, program, read, item, member, outer⟩ := readable
  exact ⟨source, program, read, item, member, item.parts_subset outer inside⟩

theorem Stmt.readable_of_item {source : Bytes} {program : Program}
    (read : Program.ofSource source = .ok program) {item : Stmt} (member : item ∈ program.items) :
    item.Readable :=
  ⟨source, program, read, item, member, item.mem_parts_self⟩

/-- The functions that a readable statement defines are readable. -/
theorem Stmt.Readable.eachFunction {statement : Stmt} (readable : statement.Readable) :
    statement.EachFunction Function.Readable :=
  statement.eachFunction_iff.mpr fun _ inside => readable.of_part inside

theorem Function.Readable.body {function : Function} (readable : function.Readable) :
    function.body.Readable := by
  refine Stmt.Readable.of_part readable ?_
  unfold Function.definition
  rw [Stmt.parts]
  exact List.mem_cons_of_mem _ function.body.mem_parts_self

/-- What every function of a readable program has, every readable function has. -/
theorem Function.Readable.of_items {property : Function → Prop}
    (items : ∀ source program, Program.ofSource source = .ok program →
      ∀ item ∈ program.items, item.EachFunction property)
    {function : Function} (readable : function.Readable) : property function := by
  obtain ⟨source, program, read, item, member, inside⟩ := readable
  exact item.eachFunction_iff.mp (items source program read item member) function inside

/-- Statements that define functions with only so many parameters. -/
theorem hereditary_few :
    Hereditary (fun _ _ => True)
      (fun _ _ statement => statement.EachFunction fun function => function.arity ≤ itemLimit)
      (fun _ _ branches => branches.EachFunction fun function => function.arity ≤ itemLimit) where
  reads _ := gives_of_forall fun _ => trivial
  expr _ := trivial
  returns _ _ _ := trivial
  define _ _ few inner := ⟨few, inner⟩
  assign _ _ _ := trivial
  forLoop _ _ _ inner := inner
  branch _ _ first rest := ⟨first, rest⟩
  whileLoop _ _ inner := inner
  pass _ := trivial
  breaks _ _ := trivial
  continues _ _ := trivial
  imports _ _ := trivial
  arm _ first rest := ⟨first, rest⟩
  otherwise inner := inner
  done := trivial

/-- A readable function has only as many parameters as a list may have items. -/
theorem Function.Readable.arity_le {function : Function} (readable : function.Readable) :
    function.arity ≤ itemLimit :=
  readable.of_items fun _ _ read => hereditary_few.of_ofSource read

end Scriptling
