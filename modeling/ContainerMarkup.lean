import ContainerMarkup.Text.Blank
import ContainerMarkup.Text.Escape
import ContainerMarkup.Text.Pattern
import ContainerMarkup.Number.Decimal
import ContainerMarkup.Failure
import ContainerMarkup.Limits
import ContainerMarkup.Diagnostic
import ContainerMarkup.Source.Condensed
import ContainerMarkup.Source.Line
import ContainerMarkup.Source.Group
import ContainerMarkup.Tree.Parameter
import ContainerMarkup.Tree.Statistics
import ContainerMarkup.Tree.Outline
import ContainerMarkup.Assembly
import ContainerMarkup.Compile
import ContainerMarkup.Json.Export
import ContainerMarkup.Json.Fault
import ContainerMarkup.Import
import ContainerMarkup.Command.Run
import ContainerMarkup.Command.Program
import ContainerMarkup.Command.LogFilter
import ContainerMarkup.Main
import ContainerMarkup.Proofs.Acceptance
import ContainerMarkup.Proofs.Limits
import ContainerMarkup.Proofs.Visits
import ContainerMarkup.Proofs.RoundTrip
import ContainerMarkup.Proofs.Document
import ContainerMarkup.Proofs.Formatting
import ContainerMarkup.Proofs.Division
import ContainerMarkup.Proofs.Concatenation
import ContainerMarkup.Proofs.Trailing
import ContainerMarkup.Proofs.Statistics
import ContainerMarkup.Proofs.Accounting
import ContainerMarkup.Proofs.Provenance
import ContainerMarkup.Proofs.Grammar
import ContainerMarkup.Proofs.Bracket
import ContainerMarkup.Proofs.Spelling
import ContainerMarkup.Proofs.Transcript
import ContainerMarkup.Proofs.Blame
import ContainerMarkup.Proofs.Symmetry
import ContainerMarkup.Proofs.Leaf
import ContainerMarkup.Proofs.Respelling
import ContainerMarkup.Proofs.Batch
import ContainerMarkup.Proofs.FiniteMap
import ContainerMarkup.Proofs.Export
import ContainerMarkup.Proofs.ExportOptions
import ContainerMarkup.Proofs.Import
import ContainerMarkup.Proofs.Agreement
import ContainerMarkup.Proofs.Outline
import ContainerMarkup.Proofs.Progress
import ContainerMarkup.Proofs.Traversal
import ContainerMarkup.Proofs.Writing
import ContainerMarkup.Proofs.Remarks
import ContainerMarkup.Proofs.Census
