import Sentential.Main
import Sentential.Proofs.Cli.BuiltIn
import Sentential.Proofs.File.Load
import Sentential.Proofs.Forest
import Sentential.Proofs.Grammar.Closed
import Sentential.Proofs.Grammar.ContextFree
import Sentential.Proofs.Grammar.Influence
import Sentential.Proofs.Grammar.Layout
import Sentential.Proofs.Grammar.Reports
import Sentential.Proofs.Grammar.RoundTrip
import Sentential.Proofs.Hierarchy.Flags
import Sentential.Proofs.Hierarchy.Growth
import Sentential.Proofs.Hierarchy.History
import Sentential.Proofs.Hierarchy.Linear
import Sentential.Proofs.Hierarchy.Scan
import Sentential.Proofs.Hierarchy.Spelling
import Sentential.Proofs.Hierarchy.Subset
import Sentential.Proofs.Sample.Course
import Sentential.Proofs.Sample.Depth
import Sentential.Proofs.Sample.Language
import Sentential.Proofs.Sample.Range
import Sentential.Proofs.Sample.Rewriting
import Sentential.Proofs.Search.Answer
import Sentential.Proofs.Search.Arrival
import Sentential.Proofs.Search.Bounds
import Sentential.Proofs.Search.Certificate
import Sentential.Proofs.Search.Course
import Sentential.Proofs.Search.Extent
import Sentential.Proofs.Search.Lockstep
import Sentential.Proofs.Search.Tree
import Sentential.Proofs.Search.Verdict
import Sentential.Proofs.Search.Widening
import Sentential.Proofs.Text.Bytes
