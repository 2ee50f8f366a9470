import CallForm.Tree.Build
import CallForm.Decimal.Style
import CallForm.Decimal.Numeral
import CallForm.Ir.Basic
import CallForm.Ir.Primitive
import CallForm.Ir.Layout
import CallForm.Text.Identifier
import CallForm.Lowering.Node
import CallForm.Json.Reader
import CallForm.Json.Printer
import CallForm.Tree.Encode
import CallForm.Tree.Decode
import CallForm.Source.Literal
import CallForm.Source.Lines
import CallForm.Source.Reading
import CallForm.Session.Basic
import CallForm.Session.ConfigReader
import CallForm.Source.FileName
import CallForm.Arithmetic.Reader
import CallForm.Arithmetic.Generator
import CallForm.CommandLine.Run
import CallForm.Main
import CallForm.Proofs.Bindings
import CallForm.Proofs.Returns
import CallForm.Proofs.ArithmeticGrouping
import CallForm.Proofs.Grouping
import CallForm.Proofs.Unsupported
import CallForm.Proofs.Receivers
import CallForm.Proofs.Sessions
import CallForm.Proofs.Selection
import CallForm.Proofs.Writes
import CallForm.Proofs.Untagged
import CallForm.Proofs.TokenText
import CallForm.Proofs.Unplaced
import CallForm.Proofs.Provenance
import CallForm.Proofs.RoundTrip
import CallForm.Proofs.SetArguments
import CallForm.Proofs.TargetShapes
import CallForm.Proofs.SourceTerms
import CallForm.Proofs.Modules
import CallForm.Proofs.Grouped
import CallForm.Proofs.Slots
import CallForm.Proofs.OperatorTables
import CallForm.Proofs.PowerBase
import CallForm.Proofs.StrippedText
import CallForm.Proofs.Avoided
import CallForm.Proofs.SecondLayout
import CallForm.Proofs.OpaqueLiterals
import CallForm.Proofs.Literals
import CallForm.Proofs.Nesting
import CallForm.Proofs.Indentation
import CallForm.Proofs.StringLiterals
import CallForm.Proofs.ArithmeticTokens
import CallForm.Proofs.ArithmeticReading
import CallForm.Proofs.Tags
import CallForm.Proofs.IntegerLiterals
import CallForm.Proofs.Steps
import CallForm.Proofs.Moves
import CallForm.Proofs.Contexts
