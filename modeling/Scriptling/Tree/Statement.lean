/-
This file reads statements. Where a statement stands decides whether it may give
back a value or leave a loop, so the reader is told; a function body begins
outside every loop. The body of a compound statement is one statement, on the
line of the colon or on the next line that is not blank, and one level deeper.
-/

import Scriptling.Tree.Expression

namespace Scriptling

/-- What surrounds a statement. -/
structure Surroundings where
  inFunction : Bool
  inLoop : Bool

namespace Surroundings

def topLevel : Surroundings := ⟨false, false⟩

def functionBody : Surroundings := ⟨true, false⟩

def loopBody (surroundings : Surroundings) : Surroundings :=
  { surroundings with inLoop := true }

end Surroundings

namespace Reader

/-! ### Statements of one line -/

def returnStatement (expression : Reader Expr) (surroundings : Surroundings) : Reader Stmt := do
  if !surroundings.inFunction then
    refuseWithNote .statement (.onlyInFunction .returnWord)
  else
    let first ← take
    let next ← current
    if next.kind = .newline ∨ next.kind = .endOfInput then
      return .returns first.span none
    else
      let value ← expression
      return .returns (first.span.through value.span) (some value)

/-- A statement of one word that is only allowed in a loop. -/
def jumpStatement (word : Keyword) (surroundings : Surroundings) (statement : Span → Stmt) :
    Reader Stmt := do
  if surroundings.inLoop then
    return statement (← take).span
  else
    refuseWithNote .statement (.onlyInLoop word)

def importStatement : Reader Stmt := do
  let first ← take
  let name ← expect .identifier .moduleName
  return .imports (first.span.through name.span) name.text

def assignment (expression : Reader Expr) : Reader Stmt := do
  let target ← take
  discard take
  let value ← expression
  return .assign (target.span.through value.span) target.text value

/-- A name before an equals sign opens an assignment, any other opens an expression. -/
def assignmentOrExpression (expression : Reader Expr) : Reader Stmt := do
  let cursor ← get
  if cursor.current.kind = .identifier ∧ cursor.following.kind = .assign then
    assignment expression
  else
    return .expr (← expression)

def passStatement : Reader Stmt := do
  return .pass (← take).span

/-- A statement of one line, up to the newline after it. -/
def oneLine (expression : Reader Expr) (surroundings : Surroundings) : Reader Stmt := do
  match (← current).kind with
  | .keyword .returnWord => returnStatement expression surroundings
  | .keyword .passWord => passStatement
  | .keyword .breakWord => jumpStatement .breakWord surroundings .breaks
  | .keyword .continueWord => jumpStatement .continueWord surroundings .continues
  | .keyword .importWord => importStatement
  | _ => assignmentOrExpression expression

/-- A statement of one line, with the newline after it if there is one. -/
def simple (expression : Reader Expr) (surroundings : Surroundings) : Reader Stmt := do
  let statement ← oneLine expression surroundings
  discard (accept .newline)
  return statement

/-! ### Compound statements -/

/-- The body after a colon. -/
def body (statement : Reader Stmt) : Reader Stmt := do
  skipNewlines
  if ← sees .endOfInput then refuse .statement else statement

/-- Names between commas up to the closing parenthesis, of which there may be `room`. -/
def parameters : Nat → Reader (List Name)
  | 0 => do
    if ← sees .rightParen then return [] else refuse (.atMost itemLimit .parameters)
  | room + 1 => do
    if ← sees .rightParen then
      return []
    else
      let name ← expectName .parameterName
      if ← accept .comma then
        return name :: (← parameters room)
      else
        return [name]

def definition (inner : Surroundings → Reader Stmt) : Reader Stmt := do
  let first ← take
  let name ← expectName .functionName
  discard (expectToken .leftParen)
  let names ← parameters itemLimit
  discard (expectToken .rightParen)
  discard (expectToken .colon)
  let content ← inner .functionBody
  return .define (first.span.through content.span) name names content

/-- What follows an arm when `room` more of them are allowed. -/
def branches (expression : Reader Expr) (inner : Reader Stmt) : Nat → Reader Branches
  | 0 => do
    skipNewlines
    if ← sees (.keyword .elifWord) then
      refuse (.atMost itemLimit .arms)
    else
      otherwise
  | room + 1 => do
    skipNewlines
    if ← accept (.keyword .elifWord) then
      let condition ← expression
      discard (expectToken .colon)
      let content ← inner
      return .arm condition content (← branches expression inner room)
    else
      otherwise
where
  otherwise : Reader Branches := do
    if ← accept (.keyword .elseWord) then
      discard (expectToken .colon)
      return .otherwise (← inner)
    else
      return .done

def branch (expression : Reader Expr) (inner : Reader Stmt) : Reader Stmt := do
  let first ← take
  let condition ← expression
  discard (expectToken .colon)
  let content ← inner
  let others ← branches expression inner (itemLimit - 1)
  return .branch (first.span.through (others.lastSpan content.span)) condition content others

def forLoop (expression : Reader Expr) (inner : Reader Stmt) : Reader Stmt := do
  let first ← take
  let loopName ← expectName .loopVariable
  discard (expectToken (.keyword .inWord))
  let iterable ← expression
  discard (expectToken .colon)
  let content ← inner
  return .forLoop (first.span.through content.span) loopName iterable content

def whileLoop (expression : Reader Expr) (inner : Reader Stmt) : Reader Stmt := do
  let first ← take
  let condition ← expression
  discard (expectToken .colon)
  let content ← inner
  return .whileLoop (first.span.through content.span) condition content

/-- A statement, given how to read an expression and the body of a compound statement. -/
def statementWith (expression : Reader Expr) (inner : Surroundings → Reader Stmt)
    (surroundings : Surroundings) : Reader Stmt := do
  match (← current).kind with
  | .keyword .defWord => definition inner
  | .keyword .ifWord => branch expression (inner surroundings)
  | .keyword .forWord => forLoop expression (inner surroundings.loopBody)
  | .keyword .whileWord => whileLoop expression (inner surroundings.loopBody)
  | _ => simple expression surroundings

/-- A statement with `room` levels left. -/
def statement : Nat → Surroundings → Reader Stmt
  | 0, surroundings => statementWith (expression 0) (fun _ => body tooDeep) surroundings
  | room + 1, surroundings =>
    statementWith (expression (room + 1)) (fun inner => body (statement room inner)) surroundings

end Reader

end Scriptling
