import DeskCalculator.Address
import DeskCalculator.Address.Escape
import DeskCalculator.Address.Host
import DeskCalculator.Address.Label
import DeskCalculator.Address.Permitted
import DeskCalculator.Address.Punycode
import DeskCalculator.Breakdown
import DeskCalculator.Decimal.Basic
import DeskCalculator.Decimal.Layout
import DeskCalculator.Decimal.Reader
import DeskCalculator.Decimal.Shortest
import DeskCalculator.Entry.Canonical
import DeskCalculator.Entry.Check
import DeskCalculator.Evaluation
import DeskCalculator.Expr.Basic
import DeskCalculator.Expr.Function
import DeskCalculator.Expr.Machine
import DeskCalculator.Expr.Parser
import DeskCalculator.Fault
import DeskCalculator.Graph
import DeskCalculator.Json.Basic
import DeskCalculator.Json.Encoding
import DeskCalculator.Json.Reader
import DeskCalculator.Json.Writer
import DeskCalculator.Keypad.Press
import DeskCalculator.Keypad.Session
import DeskCalculator.Keypad.Solve
import DeskCalculator.Launch
import DeskCalculator.Main
import DeskCalculator.Platform
import DeskCalculator.Proofs.Decimal.Numeral
import DeskCalculator.Proofs.Decimal.Rounding
import DeskCalculator.Proofs.Decimal.Shortest
import DeskCalculator.Proofs.Decimal.Value
import DeskCalculator.Proofs.Entry.Agreement
import DeskCalculator.Proofs.Entry.Arguments
import DeskCalculator.Proofs.Entry.Boundary
import DeskCalculator.Proofs.Entry.Normal
import DeskCalculator.Proofs.Entry.OpenOperator
import DeskCalculator.Proofs.Entry.Outline
import DeskCalculator.Proofs.Entry.Passes
import DeskCalculator.Proofs.Entry.PercentageTree
import DeskCalculator.Proofs.Entry.Percentages
import DeskCalculator.Proofs.Entry.Preserved
import DeskCalculator.Proofs.Entry.UnaryMinus
import DeskCalculator.Proofs.Expr.Choices
import DeskCalculator.Proofs.Expr.Faults
import DeskCalculator.Proofs.Expr.Machine
import DeskCalculator.Proofs.Expr.PostOrder
import DeskCalculator.Proofs.Expr.Totality
import DeskCalculator.Proofs.Float.Closest
import DeskCalculator.Proofs.Float.Error
import DeskCalculator.Proofs.Float.Magnitude
import DeskCalculator.Proofs.Float.Nearest
import DeskCalculator.Proofs.Float.Operations
import DeskCalculator.Proofs.Float.Range
import DeskCalculator.Proofs.Float.Rounding
import DeskCalculator.Proofs.Float.Scientific
import DeskCalculator.Proofs.Float.Sign
import DeskCalculator.Proofs.Float.Storage
import DeskCalculator.Proofs.Float.Value
import DeskCalculator.Proofs.Grammar.Closing
import DeskCalculator.Proofs.Grammar.Derivation
import DeskCalculator.Proofs.Grammar.Outline
import DeskCalculator.Proofs.Grammar.Parser
import DeskCalculator.Proofs.Grammar.Phrases
import DeskCalculator.Proofs.Grammar.Reading
import DeskCalculator.Proofs.Grammar.TwoStacks
import DeskCalculator.Proofs.Graph.Pixels
import DeskCalculator.Proofs.Graph.Polylines
import DeskCalculator.Proofs.Json.Fits
import DeskCalculator.Proofs.Json.Lexeme
import DeskCalculator.Proofs.Json.RoundTrip
import DeskCalculator.Proofs.Json.Writable
import DeskCalculator.Proofs.Keypad.Coherence
import DeskCalculator.Proofs.Keypad.Filled
import DeskCalculator.Proofs.Keypad.History
import DeskCalculator.Proofs.Keypad.InPlace
import DeskCalculator.Proofs.Keypad.Keys
import DeskCalculator.Proofs.Keypad.Opening
import DeskCalculator.Proofs.Keypad.Orderly
import DeskCalculator.Proofs.Keypad.Run
import DeskCalculator.Proofs.Remote.Answers
import DeskCalculator.Proofs.Remote.Asking
import DeskCalculator.Proofs.Remote.Divisible
import DeskCalculator.Proofs.Remote.Reported
import DeskCalculator.Proofs.Remote.Streaming
import DeskCalculator.Proofs.Remote.Turns
import DeskCalculator.Proofs.Result.Breakdown
import DeskCalculator.Proofs.Result.Closeness
import DeskCalculator.Proofs.Result.Convergents
import DeskCalculator.Proofs.Result.Display
import DeskCalculator.Proofs.Result.Euclid
import DeskCalculator.Proofs.Result.Fraction
import DeskCalculator.Proofs.Result.Places
import DeskCalculator.Proofs.Result.ReadBack
import DeskCalculator.Proofs.Result.Recovered
import DeskCalculator.Proofs.Result.Rounding
import DeskCalculator.Proofs.Result.Shown
import DeskCalculator.Proofs.Result.Terms
import DeskCalculator.Proofs.Service.Changes
import DeskCalculator.Proofs.Service.Conversation
import DeskCalculator.Proofs.Service.InStep
import DeskCalculator.Proofs.Service.Results
import DeskCalculator.Proofs.Service.Sendable
import DeskCalculator.Proofs.Service.Session
import DeskCalculator.Proofs.Service.Solving
import DeskCalculator.Proofs.Settings.Accepted
import DeskCalculator.Proofs.Settings.Form
import DeskCalculator.Proofs.Settings.Store
import DeskCalculator.Proofs.Settings.Updated
import DeskCalculator.Proofs.Settings.WellFormed
import DeskCalculator.Proofs.Surface.Boundary
import DeskCalculator.Proofs.Surface.Canonical
import DeskCalculator.Proofs.Surface.Context
import DeskCalculator.Proofs.Surface.Meaning
import DeskCalculator.Proofs.Surface.Neighbours
import DeskCalculator.Proofs.Surface.Rewriting
import DeskCalculator.Proofs.Surface.Rows
import DeskCalculator.Proofs.Surface.Scanning
import DeskCalculator.Proofs.Surface.Tree
import DeskCalculator.Proofs.Surface.Word
import DeskCalculator.Proofs.Text.Lines
import DeskCalculator.Proofs.Token.Chunks
import DeskCalculator.Proofs.Token.Lexeme
import DeskCalculator.Proofs.Token.Lossless
import DeskCalculator.Proofs.Token.Number
import DeskCalculator.Proofs.Token.Sketch
import DeskCalculator.Remote.Client
import DeskCalculator.Remote.Division
import DeskCalculator.Remote.Payload
import DeskCalculator.Remote.Prompt
import DeskCalculator.Result.Display
import DeskCalculator.Result.Fraction
import DeskCalculator.Result.Rounding
import DeskCalculator.Service.App
import DeskCalculator.Service.Number
import DeskCalculator.Service.Reading
import DeskCalculator.Service.Request
import DeskCalculator.Service.Response
import DeskCalculator.Settings.Basic
import DeskCalculator.Settings.Store
import DeskCalculator.Text.Blank
import DeskCalculator.Text.Capital
import DeskCalculator.Text.Composition
import DeskCalculator.Text.Digit
import DeskCalculator.Text.Direction
import DeskCalculator.Text.Hexadecimal
import DeskCalculator.Text.Joining
import DeskCalculator.Text.Lines
import DeskCalculator.Text.Mark
import DeskCalculator.Text.Numeral
import DeskCalculator.Text.Printable
import DeskCalculator.Text.Quoted
import DeskCalculator.Text.Ranges
import DeskCalculator.Text.Script
import DeskCalculator.Text.Small
import DeskCalculator.Text.Surrogate
import DeskCalculator.Text.Utf8
import DeskCalculator.Text.Word
import DeskCalculator.Theme
import DeskCalculator.Token
