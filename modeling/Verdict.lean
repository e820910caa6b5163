import Verdict.Condition.Leaves
import Verdict.Gate
import Verdict.Matcher.Leaf
import Verdict.Storage
import Verdict.Proofs.Blob.Corruption
import Verdict.Proofs.Document.Ambiguity
import Verdict.Proofs.Document.Printing
import Verdict.Proofs.Evaluation.Report
import Verdict.Proofs.Evaluation.ShortCircuit
import Verdict.Proofs.Reading.Extension
import Verdict.Proofs.Reading.Forms
import Verdict.Proofs.Reading.RoundTrip
import Verdict.Proofs.Registry.Contents
import Verdict.Proofs.Blob.Checks
import Verdict.Proofs.Reading.Depth
import Verdict.Proofs.Reading.Body
import Verdict.Proofs.Reading.Gate
import Verdict.Proofs.Reading.Fault
import Verdict.Proofs.Leaf.Draft
import Verdict.Proofs.Condition.Nodes
import Verdict.Proofs.Reading.Breakdown
import Verdict.Proofs.Condition.Interruption
import Verdict.Proofs.Evaluation.Flattening
import Verdict.Proofs.Evaluation.Duality
import Verdict.Proofs.Evaluation.Lockstep
import Verdict.Proofs.Evaluation.Monotone
import Verdict.Proofs.Matcher.Literal
import Verdict.Proofs.Matcher.Anchoring
import Verdict.Proofs.Blob.Surplus
import Verdict.Proofs.Document.Names
import Verdict.Proofs.Condition.Leaves
import Verdict.Proofs.Matcher.Attributes
import Verdict.Proofs.Matcher.Diacritic
import Verdict.Proofs.Blob.Length
