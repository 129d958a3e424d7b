/-
This file gives the form of what is reported to the user: one message with its
kind, the place it is about when there is one, and notes that add to it. A
collection of messages is shown in source order.
-/

import Scriptling.Span

namespace Scriptling

/-- What part of the work a message comes from. -/
inductive DiagnosticKind where
  | lexical
  | grammar
  | type
  | name
  | recursion
  | runtime
  deriving DecidableEq, Repr

/-- The words that open a message of each kind. -/
def DiagnosticKind.label : DiagnosticKind → String
  | .lexical => "Lex error"
  | .grammar => "Parse error"
  | .type => "TypeError"
  | .name => "NameError"
  | .recursion => "RecursionError"
  | .runtime => "RuntimeError"

/-- One message for the user. -/
structure Diagnostic where
  kind : DiagnosticKind
  message : String
  span : Option Span
  notes : List String
  deriving DecidableEq, Repr

namespace Diagnostic

/-- The message after its label, and a line of its own for every note. -/
def render (diagnostic : Diagnostic) : String :=
  diagnostic.notes.foldl (fun text note => text ++ "\n  note: " ++ note)
    (diagnostic.kind.label ++ ": " ++ diagnostic.message)

/-- The pieces in which a message and the newline after it are written. -/
def pieces (diagnostic : Diagnostic) : List String :=
  diagnostic.kind.label :: ": " :: diagnostic.message ::
    (diagnostic.notes.flatMap fun note => ["\n  note: ", note]) ++ ["\n"]

/-- The pieces make up the message. -/
theorem flatMap_pieces (diagnostic : Diagnostic) :
    diagnostic.pieces.flatMap encode = encode diagnostic.render ++ [Byte.newline] := by
  have notes (notes : List String) (text : String) :
      encode (notes.foldl (fun text note => text ++ "\n  note: " ++ note) text) =
        encode text ++ (notes.flatMap fun note => ["\n  note: ", note]).flatMap encode := by
    induction notes generalizing text with
    | nil => exact (List.append_nil _).symm
    | cons note rest hypothesis =>
      rw [List.foldl_cons, hypothesis]
      simp only [encode_append, List.flatMap_cons, List.append_assoc, List.cons_append,
        List.nil_append]
  unfold render pieces
  simp only [notes, encode_append, List.flatMap_cons, List.flatMap_append, List.flatMap_nil,
    List.cons_append, List.append_assoc, List.append_nil]
  rfl

/-- The line that a message is about. -/
def line (diagnostic : Diagnostic) : Option Nat :=
  diagnostic.span.map Span.line

/-- Source order: by the start of the span, and a message without a place comes first. -/
def notAfter (first second : Diagnostic) : Bool :=
  match first.span, second.span with
  | none, _ => true
  | some _, none => false
  | some firstSpan, some secondSpan => firstSpan.start ≤ secondSpan.start

/-- Messages in source order. Those that start at one place keep the order they came in. -/
def inSourceOrder (diagnostics : List Diagnostic) : List Diagnostic :=
  diagnostics.mergeSort notAfter

/-- All messages, each on lines of its own. -/
def renderAll (diagnostics : List Diagnostic) : String :=
  "\n".intercalate (diagnostics.map render)

end Diagnostic

end Scriptling
