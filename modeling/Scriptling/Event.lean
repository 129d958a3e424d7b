/-
This file lists what a session notes in its log while it works. The notes are
for whoever watches a session; they change nothing in what it computes.
-/

import Scriptling.Diagnostic.Cause
import Scriptling.Tree

namespace Scriptling

inductive EventLevel where
  | debug
  | warning
  deriving DecidableEq, Repr

inductive Event where
  | running (statements : Nat)
  | registering (name : Name) (arity : Nat)
  | shadowed (name : Name)
  | reported (diagnostic : Diagnostic)
  | importIgnored (name : Name)

namespace Event

def level : Event → EventLevel
  | .running _ | .registering .. | .reported _ => .debug
  | .shadowed _ | .importIgnored _ => .warning

def message : Event → String
  | .running _ => "running module"
  | .registering .. => "registering function"
  | .shadowed _ => "function is shadowed by the builtin of the same name"
  | .reported _ => "runtime diagnostic"
  | .importIgnored _ => "import ignored, no modules are available"

/-- What a note says in particular, each part under its name. -/
def fields : Event → List (String × String)
  | .running statements => [("statements", toString statements)]
  | .registering name arity => [("name", Utf8.decodeLossy name), ("arity", toString arity)]
  | .shadowed name => [("name", Utf8.decodeLossy name)]
  | .reported diagnostic => [("diagnostic", diagnostic.render)]
  | .importIgnored name => [("module", Utf8.decodeLossy name)]

end Event

end Scriptling
