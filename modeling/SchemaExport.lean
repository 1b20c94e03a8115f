import SchemaExport.Command.Arguments
import SchemaExport.Command.Check
import SchemaExport.Command.Export
import SchemaExport.Command.Failure
import SchemaExport.Command.Inputs
import SchemaExport.Command.Outline
import SchemaExport.Decimal.Double
import SchemaExport.Decimal.Layout
import SchemaExport.Decimal.Shortest
import SchemaExport.Document
import SchemaExport.Document.Lowering
import SchemaExport.Document.Node
import SchemaExport.Document.Path
import SchemaExport.Document.Reader
import SchemaExport.Error
import SchemaExport.Event
import SchemaExport.Expression.Dump
import SchemaExport.Expression.Fault
import SchemaExport.Expression.Printer
import SchemaExport.Expression.Reader
import SchemaExport.Expression.Repair
import SchemaExport.Files.Fault
import SchemaExport.Files.Glob
import SchemaExport.Files.Path
import SchemaExport.Files.Tree
import SchemaExport.Json.Data
import SchemaExport.Json.Fault
import SchemaExport.Json.Numeral
import SchemaExport.Json.Quoted
import SchemaExport.Main
import SchemaExport.Module
import SchemaExport.Number
import SchemaExport.Program
import SchemaExport.Proofs.Command.Check
import SchemaExport.Proofs.Command.Drift
import SchemaExport.Proofs.Command.Export
import SchemaExport.Proofs.Command.Merging
import SchemaExport.Proofs.Decimal.Rounding
import SchemaExport.Proofs.Decimal.Shortest
import SchemaExport.Proofs.Document.Candidates
import SchemaExport.Proofs.Document.Lowering
import SchemaExport.Proofs.Document.Mirroring
import SchemaExport.Proofs.Document.Reading
import SchemaExport.Proofs.Document.Recognition
import SchemaExport.Proofs.Document.RoundTrip
import SchemaExport.Proofs.Expression.Containment
import SchemaExport.Proofs.Expression.Cutting
import SchemaExport.Proofs.Expression.Demotion
import SchemaExport.Proofs.Expression.Fraction
import SchemaExport.Proofs.Expression.Grammar
import SchemaExport.Proofs.Expression.Positions
import SchemaExport.Proofs.Expression.Reading
import SchemaExport.Proofs.Expression.Replacement
import SchemaExport.Proofs.Expression.RoundTrip
import SchemaExport.Proofs.Expression.Scanning
import SchemaExport.Proofs.Expression.Structural
import SchemaExport.Proofs.Expression.Taken
import SchemaExport.Proofs.Expression.TypeName
import SchemaExport.Proofs.Files.Path
import SchemaExport.Proofs.Files.Tree
import SchemaExport.Proofs.Json.Layout
import SchemaExport.Proofs.Json.Numeral
import SchemaExport.Proofs.Json.Range
import SchemaExport.Proofs.Json.Scaling
import SchemaExport.Proofs.Json.Spelling
import SchemaExport.Proofs.Leaf
import SchemaExport.Proofs.Module
import SchemaExport.Proofs.Module.Body
import SchemaExport.Proofs.Module.Positions
import SchemaExport.Proofs.Record
import SchemaExport.Proofs.Regex.Agreement
import SchemaExport.Proofs.Regex.Items
import SchemaExport.Proofs.Regex.Lexical
import SchemaExport.Proofs.Regex.Literal
import SchemaExport.Proofs.Regex.Spelling
import SchemaExport.Proofs.Registry
import SchemaExport.Proofs.Renumbering
import SchemaExport.Proofs.Rewriting
import SchemaExport.Proofs.Schema
import SchemaExport.Proofs.Text
import SchemaExport.Record
import SchemaExport.Regex.CharClass
import SchemaExport.Regex.CharSet
import SchemaExport.Regex.Literal
import SchemaExport.Regex.Pattern
import SchemaExport.Regex.PatternReader
import SchemaExport.Regex.Places
import SchemaExport.Regex.Search
import SchemaExport.Registry
import SchemaExport.Schema
import SchemaExport.Text.Blank
import SchemaExport.Text.Identifier
import SchemaExport.Text.Offset
import SchemaExport.Text.Split
import SchemaExport.Text.Visible
import SchemaExport.Unicode.CaseFold
import SchemaExport.Unicode.Category
import SchemaExport.Unicode.Property
import SchemaExport.Unicode.Script
import SchemaExport.Value
