/-
This file evaluates expressions and executes statements. Every node of a tree is
visited with one unit of fuel less than the node it belongs to, and a called
function with one less than its call, so fuel bounds how deeply evaluation
nests; a `while` loop may go round as often as it has fuel. A program that needs
more than it is given ends out of fuel, and only then does fuel matter.

Names that are not bound have the value `None`. Arguments are evaluated in the
frame of the caller, and what a function does not bind itself it looks up there
when it runs.

All of this is written for any monad that can act on a session, come to a node
and work inside a call. A run is the plainest one. Another may keep a record of
where the evaluation has been, and it still evaluates by this very text.
-/

import Scriptling.Operators
import Scriptling.Session

namespace Scriptling

/-- How a statement ended. -/
inductive Flow where
  | done
  | returns (value : Value)
  | breaks
  | continues
  deriving DecidableEq

/-- What a call gives when the function's body has ended. -/
def Flow.result : Flow → Value
  | .returns value => value
  | _ => .none

/-- A node of a tree, at which an evaluation arrives. -/
inductive Node where
  | expr (expr : Expr)
  | statement (statement : Stmt)

/-- What evaluation needs of the monad in which it works: it acts on the session, comes to one
node after another, and gives every call a frame of its own. -/
class Machine (M : Type → Type) where
  act {Result : Type} : Run Result → M Result
  visit : Node → M Unit
  inCall {Result : Type} : List Name → List Value → M Result → M Result

/-- A run acts on its session and takes no note of the nodes it comes to. -/
@[always_inline, inline]
instance : Machine Run where
  act action := action
  visit _ := return
  inCall := Run.inCall

namespace Machine

variable {M : Type → Type} [Monad M] [Machine M]

/-- What can be read off the session. -/
@[inline]
def ask {Result : Type} (question : Session → Result) : M Result :=
  act do return question (← get)

/-- Ends for lack of fuel. -/
@[inline]
def giveUp {Result : Type} : M Result :=
  act (throw .outOfFuel)

/-- Executes the body for each of some values, until it leaves the loop. -/
@[specialize]
def forEach (body : Value → M Flow) : List Value → M Flow
  | [] => return .done
  | value :: rest => do
    match ← body value with
    | .done | .continues => forEach body rest
    | .breaks => return .done
    | .returns result => return .returns result

/-- Executes the body as long as the test holds, until it leaves the loop, for so many rounds at
most. -/
@[specialize]
def whileTrue (test : M Bool) (body : M Flow) : Nat → M Flow
  | 0 => giveUp
  | rounds + 1 => do
    if ← test then
      match ← body with
      | .done | .continues => whileTrue test body rounds
      | .breaks => return .done
      | .returns result => return .returns result
    else
      return .done

/-- Executes the first body of a chain whose condition holds. -/
@[specialize]
def follow (test : Expr → M Bool) (run : Stmt → M Flow) : Branches → M Flow
  | .arm condition body others => do
    if ← test condition then run body else follow test run others
  | .otherwise body => run body
  | .done => return .done

/-- Whether a value counts as true now. -/
@[inline]
def isTruthy (value : Value) : M Bool :=
  ask fun session => session.world.heap.isTruthy value

mutual

/-- The value of an expression. -/
@[specialize]
def evaluate (limits : Limits) : Nat → Expr → M Value
  | 0, _ => giveUp
  | fuel + 1, expr => do
    visit (.expr expr)
    match expr with
    | .number _ value => return .int value
    | .string _ text => return .str text
    | .name _ name => ask fun session => (session.lookup name).getD .none
    | .binary _ operator left right => do
      let left ← evaluate limits fuel left
      let right ← evaluate limits fuel right
      ask fun session => operator.apply session.world.heap left right
    | .unary _ operator operand => do
      return operator.apply (← evaluate limits fuel operand)
    | .call span name arguments =>
      match Builtin.ofName? name with
      | some builtin => do
        let values ← arguments.mapM (evaluate limits fuel)
        act (Run.onWorld (builtin.call values))
      | none => do
        match ← act (Run.callee limits span name arguments.length) with
        | none => return .none
        | some function =>
          let values ← arguments.mapM (evaluate limits fuel)
          let flow ← inCall function.parameters values (execute limits fuel function.body)
          return flow.result
    | .paren _ inner => evaluate limits fuel inner
    | .list _ items => do
      let values ← items.mapM (evaluate limits fuel)
      act (Run.onWorld (World.settle (.list values)))
    | .subscript _ target index => do
      let target ← evaluate limits fuel target
      let index ← evaluate limits fuel index
      ask fun session => session.world.heap.subscript target index

/-- Executes a statement. -/
@[specialize]
def execute (limits : Limits) : Nat → Stmt → M Flow
  | 0, _ => giveUp
  | fuel + 1, statement => do
    visit (.statement statement)
    act (Run.tick limits statement.span)
    match statement with
    | .expr value =>
      let _ ← evaluate limits fuel value
      return .done
    | .returns _ none => return .returns .none
    | .returns _ (some value) => return .returns (← evaluate limits fuel value)
    | .define span name parameters body =>
      act (Run.register ⟨name, parameters, body, span⟩)
      return .done
    | .assign _ name value =>
      let value ← evaluate limits fuel value
      act (Run.bind name value)
      return .done
    | .forLoop _ name iterable body =>
      match ← evaluate limits fuel iterable with
      | .list handle =>
        let round (value : Value) : M Flow := do
          act (Run.bind name value)
          execute limits fuel body
        forEach round (← ask fun session => session.world.heap.items handle)
      | _ => return .done
    | .branch _ condition body others =>
      let test (condition : Expr) : M Bool := do
        isTruthy (← evaluate limits fuel condition)
      follow test (execute limits fuel) (.arm condition body others)
    | .whileLoop _ condition body =>
      let test : M Bool := do
        isTruthy (← evaluate limits fuel condition)
      whileTrue test (execute limits fuel body) fuel
    | .pass _ => return .done
    | .breaks _ => return .breaks
    | .continues _ => return .continues
    | .imports _ name =>
      act (Run.note (.importIgnored name))
      return .done

end

/-- Executes the statements of a program in order, up to one that does not end normally. -/
@[specialize]
def executeAll (limits : Limits) (fuel : Nat) : List Stmt → M Unit
  | [] => return
  | statement :: rest => do
    match ← execute limits fuel statement with
    | .done => executeAll limits fuel rest
    | _ => return

end Machine

namespace Run

/-- The value of an expression, as a run. -/
def evaluate (limits : Limits) (fuel : Nat) (expr : Expr) : Run Value :=
  Machine.evaluate limits fuel expr

/-- The execution of a statement, as a run. -/
def execute (limits : Limits) (fuel : Nat) (statement : Stmt) : Run Flow :=
  Machine.execute limits fuel statement

/-- The execution of some statements in order, as a run. -/
def executeAll (limits : Limits) (fuel : Nat) (statements : List Stmt) : Run Unit :=
  Machine.executeAll limits fuel statements

end Run

end Scriptling
