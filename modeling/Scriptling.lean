import Scriptling.Builtin
import Scriptling.Builtin.Answer
import Scriptling.Builtin.Call
import Scriptling.Builtin.Lists
import Scriptling.Builtin.Numbers
import Scriptling.Builtin.Strings
import Scriptling.Bytes
import Scriptling.Bytes.Search
import Scriptling.CommandLine
import Scriptling.CommandLine.Arguments
import Scriptling.CommandLine.Folder
import Scriptling.CommandLine.Typed
import Scriptling.Diagnostic
import Scriptling.Diagnostic.Cause
import Scriptling.Entries
import Scriptling.Event
import Scriptling.Frame
import Scriptling.Frame.Forest
import Scriptling.Heap
import Scriptling.Heap.Show
import Scriptling.Integer.Decimal
import Scriptling.Integer.Extent
import Scriptling.Integer.Power
import Scriptling.Integer.Progression
import Scriptling.Operators
import Scriptling.Proofs.Frame.Forest
import Scriptling.Proofs.Heap.Answers
import Scriptling.Proofs.Heap.Order
import Scriptling.Proofs.Integer.Decimal
import Scriptling.Proofs.Session.Actions
import Scriptling.Proofs.Session.Budget
import Scriptling.Proofs.Session.Coupling
import Scriptling.Proofs.Session.Frames
import Scriptling.Proofs.Session.Fuel
import Scriptling.Proofs.Session.Growth
import Scriptling.Proofs.Session.Histories
import Scriptling.Proofs.Session.Invariant
import Scriptling.Proofs.Session.Jumps
import Scriptling.Proofs.Session.Lists
import Scriptling.Proofs.Session.Reachable
import Scriptling.Proofs.Session.Termination
import Scriptling.Proofs.Session.Unfailing
import Scriptling.Proofs.Session.Watched
import Scriptling.Proofs.Steps
import Scriptling.Proofs.Token.Rereading
import Scriptling.Proofs.Token.Scanning
import Scriptling.Proofs.Tree.Completeness
import Scriptling.Proofs.Tree.Height
import Scriptling.Proofs.Tree.Hereditary
import Scriptling.Proofs.Tree.Parts
import Scriptling.Proofs.Tree.Precedence
import Scriptling.Proofs.Tree.Reading
import Scriptling.Proofs.Tree.Refusals
import Scriptling.Proofs.Tree.Rereading
import Scriptling.Proofs.Tree.RoundTrip
import Scriptling.Proofs.Tree.Scope
import Scriptling.Proofs.Tree.Soundness
import Scriptling.Proofs.Tree.Spelling
import Scriptling.Proofs.Tree.Words
import Scriptling.Proofs.Tree.Writing
import Scriptling.Registry
import Scriptling.Session
import Scriptling.Session.Evaluation
import Scriptling.Session.Operations
import Scriptling.Shell
import Scriptling.Span
import Scriptling.Stream
import Scriptling.Text
import Scriptling.Text.Cluster
import Scriptling.Text.Joining
import Scriptling.Text.Quoted
import Scriptling.Text.Ranges
import Scriptling.Text.Unmarked
import Scriptling.Text.Utf8
import Scriptling.Token
import Scriptling.Token.Lexer
import Scriptling.Tree
import Scriptling.Tree.Cursor
import Scriptling.Tree.Expression
import Scriptling.Tree.Source
import Scriptling.Tree.Statement
import Scriptling.Value
import Scriptling.Main
import Scriptling.Proofs.Session.Loopless
import Scriptling.Proofs.Session.Depth
import Scriptling.Proofs.Session.Diagnostics
import Scriptling.Proofs.Shell.Blocks
import Scriptling.Proofs.Token.Resumption
import Scriptling.Proofs.Tree.Tracking
import Scriptling.Proofs.Tree.Recovery
import Scriptling.Proofs.Twins
import Scriptling.Proofs.Heap.Likeness
import Scriptling.Proofs.Heap.Pairing
import Scriptling.Proofs.Tree.Variables
import Scriptling.Proofs.Token.Tiling
import Scriptling.Proofs.Session.Likeness
import Scriptling.Proofs.Session.Twins
import Scriptling.Proofs.Session.Renewal
import Scriptling.Proofs.Session.Mentions
import Scriptling.Proofs.Session.Hoisting
import Scriptling.Proofs.Token.Spacing
import Scriptling.Proofs.Tree.Consumption
import Scriptling.Proofs.Session.Fatal
import Scriptling.Proofs.Tree.Levels
import Scriptling.Proofs.Tree.Counter
import Scriptling.Proofs.Tree.Making
import Scriptling.Proofs.Tree.Layout
import Scriptling.Proofs.Tree.Arrangement
import Scriptling.Proofs.Token.Slicing
import Scriptling.Proofs.Tree.Spans
import Scriptling.Proofs.Token.Endings
import Scriptling.Proofs.Tree.Collected
import Scriptling.Proofs.Integer.Conversion
import Scriptling.Proofs.Session.Numerals
import Scriptling.Proofs.Token.Quoting
import Scriptling.Proofs.Session.Literals
import Scriptling.Proofs.Builtin.Ranges
import Scriptling.Proofs.Builtin.Slicing
import Scriptling.Proofs.Builtin.Finding
import Scriptling.Proofs.Session.Arithmetic
