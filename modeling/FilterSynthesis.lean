import FilterSynthesis.Double.Numeral
import FilterSynthesis.Json.Order
import FilterSynthesis.Json.Printer
import FilterSynthesis.Reading.Message
import FilterSynthesis.Reading.Skip
import FilterSynthesis.Reading.Value
import FilterSynthesis.Schema.Rules
import FilterSynthesis.Schema.Text
import FilterSynthesis.Program.Rendering
import FilterSynthesis.Filter.Evaluation
import FilterSynthesis.Verification.Basic
import FilterSynthesis.Search.Basic
import FilterSynthesis.Synthesis.Basic
import FilterSynthesis.Files.Tree
import FilterSynthesis.CommandLine.Fixtures
import FilterSynthesis.Main
import FilterSynthesis.Proofs.Entries
import FilterSynthesis.Proofs.Search.Path
import FilterSynthesis.Proofs.Search.Exactness
import FilterSynthesis.Proofs.Filter.Streams
import FilterSynthesis.Proofs.Program.Meaning
import FilterSynthesis.Proofs.Program.Compilation
import FilterSynthesis.Proofs.Program.Parsing
import FilterSynthesis.Proofs.Program.Faithfulness
import FilterSynthesis.Proofs.Schema.Order
import FilterSynthesis.Proofs.Double.Rounding
import FilterSynthesis.Proofs.Double.Shortest
import FilterSynthesis.Proofs.Schema.Soundness
import FilterSynthesis.Proofs.Reading.Layout
import FilterSynthesis.Proofs.Json.Handover
import FilterSynthesis.Proofs.Schema.Safety
import FilterSynthesis.Proofs.Json.Equality
import FilterSynthesis.Proofs.Program.Assembly
import FilterSynthesis.Proofs.Synthesis.Solvability
import FilterSynthesis.Proofs.Synthesis.Success
import FilterSynthesis.Proofs.CommandLine.Fixtures
import FilterSynthesis.Proofs.Schema.Correspondence
import FilterSynthesis.Proofs.Synthesis.Answers
import FilterSynthesis.Proofs.Synthesis.Assemblable
import FilterSynthesis.Proofs.Synthesis.Robustness
import FilterSynthesis.Proofs.Synthesis.Congruence
import FilterSynthesis.Proofs.Synthesis.Filtering
import FilterSynthesis.Proofs.Search.Truncation
import FilterSynthesis.Proofs.Synthesis.Truncation
import FilterSynthesis.Proofs.Text.ByteOrder
import FilterSynthesis.Proofs.Program.Injectivity
import FilterSynthesis.Proofs.Search.Heap
import FilterSynthesis.Proofs.Search.Frontier
import FilterSynthesis.Proofs.Search.Plain
import FilterSynthesis.Proofs.Synthesis.Pruning
import FilterSynthesis.Proofs.Schema.Reachability
import FilterSynthesis.Proofs.Search.Repetition
import FilterSynthesis.Proofs.Synthesis.Exhaustion
import FilterSynthesis.Proofs.Synthesis.Records
import FilterSynthesis.Proofs.Synthesis.Failures
import FilterSynthesis.Proofs.Search.Termination
import FilterSynthesis.Proofs.Verification.Leaves
import FilterSynthesis.Proofs.Verification.Verdicts
import FilterSynthesis.Proofs.Synthesis.Recursion
import FilterSynthesis.Proofs.Verification.Shortfall
import FilterSynthesis.Proofs.Program.Selection
import FilterSynthesis.Proofs.Reading.Fields
import FilterSynthesis.Proofs.Reading.Parts
import FilterSynthesis.Proofs.Reading.SkipScalar
import FilterSynthesis.Proofs.Reading.Skip
import FilterSynthesis.Proofs.Document.Format
import FilterSynthesis.Proofs.Document.Agreement
import FilterSynthesis.Proofs.Reading.Agreement
import FilterSynthesis.Proofs.Reading.Written
import FilterSynthesis.Proofs.Files.Expansion
import FilterSynthesis.Proofs.CommandLine.Loading
import FilterSynthesis.Proofs.CommandLine.Batch
import FilterSynthesis.Proofs.CommandLine.Reports
