/-
This file names the functions that every program can call. Their names are
looked up before those of the program's own functions and cannot be taken away.
-/

import Scriptling.Bytes

namespace Scriptling

inductive Builtin where
  | print
  | input
  | len
  | str
  | int
  | abs
  | max
  | min
  | range
  | type
  | pow
  | sum
  | join
  | split
  | substr
  | find
  | startswith
  | endswith
  | tolower
  | toupper
  | ord
  | chr
  | slice
  | push
  | concat
  deriving DecidableEq, Repr

namespace Builtin

def name : Builtin → String
  | .print => "print"
  | .input => "input"
  | .len => "len"
  | .str => "str"
  | .int => "int"
  | .abs => "abs"
  | .max => "max"
  | .min => "min"
  | .range => "range"
  | .type => "type"
  | .pow => "pow"
  | .sum => "sum"
  | .join => "join"
  | .split => "split"
  | .substr => "substr"
  | .find => "find"
  | .startswith => "startswith"
  | .endswith => "endswith"
  | .tolower => "tolower"
  | .toupper => "toupper"
  | .ord => "ord"
  | .chr => "chr"
  | .slice => "slice"
  | .push => "push"
  | .concat => "concat"

def all : List Builtin :=
  [.print, .input, .len, .str, .int, .abs, .max, .min, .range, .type, .pow, .sum, .join, .split,
    .substr, .find, .startswith, .endswith, .tolower, .toupper, .ord, .chr, .slice, .push,
    .concat]

/-- The builtin of a name, if there is one. -/
def ofName? (name : Name) : Option Builtin :=
  all.find? fun builtin => ascii builtin.name == name

end Builtin

end Scriptling
