/-
This file says where the jumps of a program stand. A `return` belongs into a
function, a `break` or `continue` into a loop of the same function. The reader
is told what surrounds a statement and refuses a jump that does not fit there,
so in what it accepts every jump is in its place, however deeply it is nested.
-/

import Scriptling.Proofs.Tree.Hereditary
import Scriptling.Proofs.Tree.Parts

namespace Scriptling

/-! ### Jumps in their place -/

mutual

/-- Every jump of a statement fits what surrounds it. The body of a function begins outside
every loop, wherever the function is defined. -/
def Stmt.Scoped : Surroundings → Stmt → Prop
  | surroundings, .returns .. => surroundings.inFunction
  | surroundings, .breaks _ | surroundings, .continues _ => surroundings.inLoop
  | _, .define _ _ _ body => body.Scoped .functionBody
  | surroundings, .forLoop _ _ _ body | surroundings, .whileLoop _ _ body =>
    body.Scoped surroundings.loopBody
  | surroundings, .branch _ _ body others =>
    body.Scoped surroundings ∧ others.Scoped surroundings
  | _, .expr _ | _, .assign .. | _, .pass _ | _, .imports .. => True

/-- Every jump in the bodies of a chain fits what surrounds the chain. -/
def Branches.Scoped : Surroundings → Branches → Prop
  | surroundings, .arm _ body others => body.Scoped surroundings ∧ others.Scoped surroundings
  | surroundings, .otherwise body => body.Scoped surroundings
  | _, .done => True

end

/-! ### The reader keeps jumps in their place -/

theorem hereditary_scoped :
    Hereditary (fun _ _ => True) (fun _ around statement => statement.Scoped around)
      (fun _ around branches => branches.Scoped around) where
  reads _ := gives_of_forall fun _ => trivial
  expr _ := trivial
  returns _ inside _ := inside
  define _ _ _ placed := placed
  assign _ _ _ := trivial
  forLoop _ _ _ placed := placed
  branch _ _ first rest := ⟨first, rest⟩
  whileLoop _ _ placed := placed
  pass _ := trivial
  breaks _ inside := inside
  continues _ inside := inside
  imports _ _ := trivial
  arm _ first rest := ⟨first, rest⟩
  otherwise placed := placed
  done := trivial

/-- In a program that can be read, every jump is in its place. -/
theorem Program.scoped_of_ofSource {source : Bytes} {program : Program}
    (read : Program.ofSource source = .ok program) :
    ∀ item ∈ program.items, item.Scoped .topLevel :=
  hereditary_scoped.of_ofSource read

/-! ### Jumps in the functions of a program -/

/-- The jumps in the body of a function are in their place. -/
def Function.Scoped (function : Function) : Prop :=
  function.body.Scoped .functionBody

mutual

/-- If the jumps of a statement are in their place, so are those of the functions it defines. -/
theorem Stmt.eachFunction_scoped {surroundings : Surroundings} :
    ∀ statement : Stmt, statement.Scoped surroundings → statement.EachFunction Function.Scoped
  | .define _ _ _ body, placed => ⟨placed, body.eachFunction_scoped placed⟩
  | .forLoop _ _ _ body, placed | .whileLoop _ _ body, placed => body.eachFunction_scoped placed
  | .branch _ _ body others, placed =>
    ⟨body.eachFunction_scoped placed.1, others.eachFunction_scoped placed.2⟩
  | .expr _, _ | .returns .., _ | .assign .., _ | .pass _, _ | .breaks _, _ | .continues _, _
  | .imports .., _ => trivial

theorem Branches.eachFunction_scoped {surroundings : Surroundings} :
    ∀ branches : Branches, branches.Scoped surroundings →
      branches.EachFunction Function.Scoped
  | .arm _ body others, placed =>
    ⟨body.eachFunction_scoped placed.1, others.eachFunction_scoped placed.2⟩
  | .otherwise body, placed => body.eachFunction_scoped placed
  | .done, _ => trivial

end

theorem Function.Readable.scoped {function : Function} (readable : function.Readable) :
    function.Scoped :=
  readable.of_items fun _ _ read item member =>
    item.eachFunction_scoped (Program.scoped_of_ofSource read item member)

end Scriptling
