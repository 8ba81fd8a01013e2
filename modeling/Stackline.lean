import Stackline.CommandLine
import Stackline.Fault
import Stackline.Literal
import Stackline.Log.Event
import Stackline.Log.Filter
import Stackline.Log.Pattern
import Stackline.Machine
import Stackline.Main
import Stackline.Mnemonic
import Stackline.Number.Decimal
import Stackline.Number.Double
import Stackline.Number.Integer
import Stackline.Number.Shortest
import Stackline.Operator
import Stackline.Program
import Stackline.Proofs.Agreement
import Stackline.Proofs.Arithmetic
import Stackline.Proofs.Assignment
import Stackline.Proofs.Balance
import Stackline.Proofs.Block
import Stackline.Proofs.Bounded
import Stackline.Proofs.Composition
import Stackline.Proofs.Continuation
import Stackline.Proofs.Diagnostics
import Stackline.Proofs.Displacement
import Stackline.Proofs.Dump
import Stackline.Proofs.Ending
import Stackline.Proofs.FailedStep
import Stackline.Proofs.Faults
import Stackline.Proofs.FloatFormat
import Stackline.Proofs.FloatText
import Stackline.Proofs.Fragment
import Stackline.Proofs.Frame
import Stackline.Proofs.Group
import Stackline.Proofs.Interpolation
import Stackline.Proofs.Layout
import Stackline.Proofs.Lexing
import Stackline.Proofs.Listing
import Stackline.Proofs.Literal
import Stackline.Proofs.Machine.Steps
import Stackline.Proofs.Machine.Transition
import Stackline.Proofs.Mnemonic
import Stackline.Proofs.Naming
import Stackline.Proofs.Number.Conversion
import Stackline.Proofs.Number.Decimal
import Stackline.Proofs.Number.Double
import Stackline.Proofs.Number.Shortest
import Stackline.Proofs.OneLine
import Stackline.Proofs.Output
import Stackline.Proofs.Positions
import Stackline.Proofs.Rejection
import Stackline.Proofs.Relocation
import Stackline.Proofs.Result
import Stackline.Proofs.RoundTrip
import Stackline.Proofs.Slicing
import Stackline.Proofs.Source.Append
import Stackline.Proofs.Source.Lex
import Stackline.Proofs.Source.Lines
import Stackline.Proofs.Source.Malformed
import Stackline.Proofs.Source.Queue
import Stackline.Proofs.Source.Reader
import Stackline.Proofs.Statement.Decode
import Stackline.Proofs.Statement.Effect
import Stackline.Proofs.Statement.Parse
import Stackline.Proofs.Statement.Place
import Stackline.Proofs.Statement.Print
import Stackline.Proofs.Stepping
import Stackline.Proofs.Text.Quoted
import Stackline.Proofs.Text.Slice
import Stackline.Proofs.Text.Trim
import Stackline.Proofs.Typing
import Stackline.Proofs.WordArithmetic
import Stackline.Reader
import Stackline.Report
import Stackline.Scope
import Stackline.Sink
import Stackline.Source
import Stackline.State
import Stackline.Statement.Basic
import Stackline.Statement.Decode
import Stackline.Statement.Exec
import Stackline.Statement.Parse
import Stackline.Template
import Stackline.Text.Alphanumeric
import Stackline.Text.Basic
import Stackline.Text.Blank
import Stackline.Text.Hidden
import Stackline.Text.Quoted
import Stackline.Token
import Stackline.Ty
import Stackline.Value
