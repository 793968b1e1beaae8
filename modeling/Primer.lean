import Primer.Arithmetic
import Primer.CommandLine.Arguments
import Primer.CommandLine.Outcome
import Primer.CommandLine.Report
import Primer.Compilation
import Primer.DataType
import Primer.Diagnostic
import Primer.Expr
import Primer.Folding
import Primer.Lexeme
import Primer.Line
import Primer.Log
import Primer.Lowering
import Primer.Main
import Primer.Numeral
import Primer.Outline
import Primer.Reading.Cursor
import Primer.Reading.Expression
import Primer.Reading.Program
import Primer.Reading.Progress
import Primer.Reading.Statement
import Primer.Scan
import Primer.Statement
import Primer.SymbolTable
import Primer.SyntaxTree
import Primer.Text.Blank
import Primer.Text.Plain
import Primer.Text.Printable
import Primer.Text.Quoted
import Primer.Token
import Primer.Proofs.Grammar.Basic
import Primer.Proofs.Grammar.Composition
import Primer.Proofs.Concatenation
import Primer.Proofs.Evaluation
import Primer.Proofs.Grammar.Acceptance
import Primer.Proofs.NameResolution
import Primer.Proofs.Comparisons
import Primer.Proofs.Refolding
import Primer.Proofs.LineLocality
import Primer.Proofs.Segmentation
import Primer.Proofs.Writing.Basic
import Primer.Proofs.Writing.Scanning
import Primer.Proofs.Writing.RoundTrip
import Primer.Proofs.Residues
import Primer.Proofs.Lowering
import Primer.Proofs.Usage.Basic
import Primer.Proofs.Usage.Yield
import Primer.Proofs.Usage.Following
import Primer.Proofs.Holes
import Primer.Proofs.Accounting
import Primer.Proofs.Size
import Primer.Proofs.LogLines
import Primer.Proofs.DiagnosticLines
import Primer.Proofs.Simulation
import Primer.Proofs.LetterCase.Scanning
import Primer.Proofs.LetterCase.Reading
import Primer.Proofs.LetterCase.Compilation
import Primer.Proofs.Limit.Nesting
import Primer.Proofs.Limit.Cutting
import Primer.Proofs.Limit.Assignments
import Primer.Proofs.Pruning
import Primer.Proofs.Dump.Lines
import Primer.Proofs.Dump.Compiled
import Primer.Proofs.Respelling
import Primer.Proofs.LineBreaks
import Primer.Proofs.Shapes
import Primer.Proofs.Shrinking
import Primer.Proofs.TrailingBlanks
import Primer.Proofs.InputEnd
import Primer.Proofs.Chains
import Primer.Proofs.Tags
import Primer.Proofs.Assignability
import Primer.Proofs.LastLine
import Primer.Proofs.IntegerRange
import Primer.Proofs.Walking.Basic
import Primer.Proofs.Walking.Steps
import Primer.Proofs.Walking.Expression
import Primer.Proofs.Walking.Statement
import Primer.Proofs.Walking.Program
