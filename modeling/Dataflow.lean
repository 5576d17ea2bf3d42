import Dataflow.Advice
import Dataflow.Calendar
import Dataflow.CommandLine.Arguments
import Dataflow.CommandLine.Options
import Dataflow.CommandLine.Run
import Dataflow.Compilation
import Dataflow.Decimal.Binary64
import Dataflow.Decimal.Shortest
import Dataflow.Diagnosis
import Dataflow.Document.Codec
import Dataflow.Document.Error
import Dataflow.Document.Fold
import Dataflow.Document.Shape
import Dataflow.FeedRules
import Dataflow.Files.Document
import Dataflow.Files.Path
import Dataflow.Files.Tree
import Dataflow.Json.Basic
import Dataflow.Json.Parser
import Dataflow.Json.Printer
import Dataflow.Json.Token
import Dataflow.Log
import Dataflow.Main
import Dataflow.Naming.Binding
import Dataflow.Naming.Identifier
import Dataflow.Naming.Reserved
import Dataflow.Naming.SymbolTable
import Dataflow.Palette
import Dataflow.Pipeline.Basic
import Dataflow.Pipeline.Summary
import Dataflow.Problem
import Dataflow.Proofs.Binding
import Dataflow.Proofs.Bodies
import Dataflow.Proofs.Branches
import Dataflow.Proofs.CallSites
import Dataflow.Proofs.Characters
import Dataflow.Proofs.Compilation
import Dataflow.Proofs.Diagnosis
import Dataflow.Proofs.Docstring
import Dataflow.Proofs.Editor
import Dataflow.Proofs.Emission
import Dataflow.Proofs.Execution
import Dataflow.Proofs.Exits
import Dataflow.Proofs.Failure
import Dataflow.Proofs.FanIn
import Dataflow.Proofs.Fields
import Dataflow.Proofs.FileNames
import Dataflow.Proofs.Flow
import Dataflow.Proofs.Footprint
import Dataflow.Proofs.FreeText
import Dataflow.Proofs.FrontEnds
import Dataflow.Proofs.Grammar
import Dataflow.Proofs.Growth
import Dataflow.Proofs.Histories
import Dataflow.Proofs.Indentation
import Dataflow.Proofs.Layout
import Dataflow.Proofs.Ledger
import Dataflow.Proofs.Legible
import Dataflow.Proofs.LineEnds
import Dataflow.Proofs.Lines
import Dataflow.Proofs.Literals
import Dataflow.Proofs.Loading
import Dataflow.Proofs.Lookalikes
import Dataflow.Proofs.Meaning
import Dataflow.Proofs.Naming
import Dataflow.Proofs.Parameters
import Dataflow.Proofs.Pieces
import Dataflow.Proofs.Printable
import Dataflow.Proofs.Recursion
import Dataflow.Proofs.Redeclaration
import Dataflow.Proofs.Refolding
import Dataflow.Proofs.Reports
import Dataflow.Proofs.Rewiring
import Dataflow.Proofs.RoundTrip
import Dataflow.Proofs.Schedule
import Dataflow.Proofs.Search
import Dataflow.Proofs.Spelling
import Dataflow.Proofs.Splitting
import Dataflow.Proofs.Steps
import Dataflow.Proofs.TextFiles
import Dataflow.Proofs.Timestamp
import Dataflow.Proofs.Tokens
import Dataflow.Proofs.Usage
import Dataflow.Proofs.Vocabulary
import Dataflow.Proofs.Walks
import Dataflow.Proofs.Widening
import Dataflow.Proofs.Wiring
import Dataflow.Schedule
import Dataflow.Script.Emission
import Dataflow.Script.Registry
import Dataflow.Script.Template
import Dataflow.Script.Writer
import Dataflow.Service
import Dataflow.Service.Route
import Dataflow.Service.Target
import Dataflow.Settings
import Dataflow.Stock
import Dataflow.Text.Alphanumeric
import Dataflow.Text.Blank
import Dataflow.Text.CharSet
import Dataflow.Text.Count
import Dataflow.Text.Digit
import Dataflow.Text.Identifier
import Dataflow.Text.Integer
import Dataflow.Text.LineBreak
import Dataflow.Text.Lowercase
import Dataflow.Text.Percent
import Dataflow.Text.Quoted
import Dataflow.Text.Split
import Dataflow.Text.Unprintable
import Dataflow.Text.Uppercase
import Dataflow.Text.Utf8
import Dataflow.Vocabulary
