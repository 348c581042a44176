import Conform.Json.Text
import Conform.Json.Reader
import Conform.Unicode.Blank
import Conform.Unicode.Decimal
import Conform.Unicode.Word
import Conform.Unicode.Printable
import Conform.Unicode.Identifier
import Conform.Unicode.Case
import Conform.Pattern.Syntax
import Conform.Pattern.Defect
import Conform.Pattern.Escape
import Conform.Pattern.Reader
import Conform.Pattern.Search
import Conform.Address
import Conform.Reference
import Conform.Schema
import Conform.Files.Batch
import Conform.CommandLine.Program
import Conform.Catalogue
import Conform.Main
import Conform.Proofs.Check
import Conform.Proofs.Nesting
import Conform.Proofs.Links
import Conform.Proofs.Compilation
import Conform.Proofs.Coverage
import Conform.Proofs.Expansion
import Conform.Proofs.Termination
import Conform.Proofs.Visits
import Conform.Proofs.Interpretation
import Conform.Proofs.Circularity
import Conform.Proofs.Rules
import Conform.Proofs.Verdicts
import Conform.Proofs.Keywords
import Conform.Proofs.Division
import Conform.Proofs.Acceptance
import Conform.Proofs.Patterns
import Conform.Proofs.Faults
import Conform.Proofs.Mentions
import Conform.Proofs.Reordering
import Conform.Proofs.Likeness
import Conform.Proofs.Indifference
import Conform.Proofs.Rereading
import Conform.Proofs.Rearrangement
import Conform.Proofs.Representation
import Conform.Proofs.Percent
import Conform.Proofs.Resolution
import Conform.Proofs.Pointers
import Conform.Proofs.Conjunction
import Conform.Proofs.Rounding
import Conform.Proofs.Multiples
import Conform.Proofs.Partition
import Conform.Proofs.Spellings
import Conform.Proofs.Lines
import Conform.Proofs.Instances
import Conform.Proofs.Reports
import Conform.Proofs.Arguments
import Conform.Proofs.Equality
import Conform.Proofs.Status
import Conform.Proofs.Uniqueness
import Conform.Proofs.Omission
import Conform.Proofs.Calls
import Conform.Proofs.Scopes
import Conform.Proofs.Writing
import Conform.Proofs.Endings
import Conform.Proofs.Interpreter
