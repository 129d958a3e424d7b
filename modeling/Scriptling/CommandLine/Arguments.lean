/-
This file reads the arguments of the command line. Options may stand before or
after the command, each once on either side, and the side after the command
counts if both give one. What follows a double dash is not an option. Arguments
that do not fit are refused as a whole.
-/

import Scriptling.Session

namespace Scriptling

/-- What the command line asks for. -/
inductive Command where
  | script (path : String)
  | snippet (source : String)
  | shell
  deriving DecidableEq, Repr

structure Invocation where
  limits : Limits
  command : Command

namespace CommandLine

inductive OptionName where
  | maxDepth
  | stepLimit
  deriving DecidableEq, Repr

def OptionName.spelling : OptionName → String
  | .maxDepth => "--max-depth"
  | .stepLimit => "--step-limit"

inductive CommandName where
  | run
  | eval
  | repl
  deriving DecidableEq, Repr

def CommandName.spelling : CommandName → String
  | .run => "run"
  | .eval => "eval"
  | .repl => "repl"

/-- The options of one side of the command. -/
structure Options where
  maxDepth : Option Nat
  stepLimit : Option Nat

namespace Options

def none : Options := ⟨.none, .none⟩

/-- Gives an option its number, unless it has one. -/
def give (options : Options) (name : OptionName) (number : Nat) : Option Options :=
  match name with
  | .maxDepth => if options.maxDepth.isSome then .none else some { options with maxDepth := number }
  | .stepLimit =>
    if options.stepLimit.isSome then .none else some { options with stepLimit := number }

/-- The limits that the options of both sides amount to. -/
def limits (before after : Options) : Limits :=
  ⟨(after.maxDepth.or before.maxDepth).getD Limits.standard.callDepth,
    after.stepLimit.or before.stepLimit⟩

end Options

/-- What has been read of the arguments. -/
structure Reading where
  before : Options
  command : Option CommandName
  after : Options
  /-- The arguments of the command. -/
  operands : List String
  /-- Whether the double dash has been read. -/
  ended : Bool

namespace Reading

def start : Reading := ⟨Options.none, none, Options.none, [], false⟩

/-- Takes an option on the side of the command that has been reached. -/
def option (reading : Reading) (name : OptionName) (number : Nat) : Option Reading :=
  match reading.command with
  | none => do return { reading with before := ← reading.before.give name number }
  | some _ => do return { reading with after := ← reading.after.give name number }

/-- Takes an argument that is no option: the command, or an argument of it. -/
def operand (reading : Reading) (argument : String) : Option Reading :=
  match reading.command with
  | some _ => some { reading with operands := reading.operands ++ [argument] }
  | none =>
    if reading.ended then none
    else do
      let command ← [CommandName.run, .eval, .repl].find? fun name => name.spelling == argument
      return { reading with command := some command }

/-- What the arguments ask for, once all are read. -/
def invocation (reading : Reading) : Option Invocation := do
  let command ← match reading.command, reading.operands with
    | none, [] => some Command.shell
    | some .repl, [] => some .shell
    | some .eval, [source] => some (.snippet source)
    | some .run, [path] => if path.isEmpty then none else some (.script path)
    | _, _ => none
  return ⟨Options.limits reading.before reading.after, command⟩

end Reading

/-- An unsigned number of 64 bits: digits, perhaps after a plus sign. -/
def number? (text : String) : Option Nat :=
  let letters := text.toList
  let digits := if letters.head? = some '+' then letters.tail else letters
  if digits.isEmpty ∨ !digits.all Char.isDigit then none
  else
    let value := digits.foldl (fun total digit => total * 10 + (digit.toNat - '0'.toNat)) 0
    if value < UInt64.size then some value else none

/-- The option that an argument spells, with the text after its equals sign if it has one. -/
def optionOf? (argument : String) : Option (OptionName × Option String) :=
  let letters := argument.toList
  let value := match letters.dropWhile (· != '=') with
    | [] => none
    | _ :: rest => some (String.ofList rest)
  let spelling := String.ofList (letters.takeWhile (· != '='))
  ([OptionName.maxDepth, .stepLimit].find? fun name => name.spelling == spelling).map (·, value)

/-- Reads arguments from left to right. -/
def readAll (reading : Reading) : List String → Option Reading
  | [] => some reading
  | argument :: rest =>
    if reading.ended ∨ argument.toList.head? ≠ some '-' ∨ argument = "-" then do
      readAll (← reading.operand argument) rest
    else if argument = "--" then
      readAll { reading with ended := true } rest
    else
      match optionOf? argument, rest with
      | none, _ => none
      | some (name, some text), rest => do
        readAll (← reading.option name (← number? text)) rest
      | some (_, none), [] => none
      | some (name, none), text :: rest => do
        readAll (← reading.option name (← number? text)) rest

/-- What the arguments ask for, if they fit together. -/
def invocation? (arguments : List String) : Option Invocation := do
  (← readAll Reading.start arguments).invocation

end CommandLine

end Scriptling
