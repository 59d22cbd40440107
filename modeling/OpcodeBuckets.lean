import OpcodeBuckets.Main
import OpcodeBuckets.Proofs.Assignment.Uniqueness
import OpcodeBuckets.Proofs.Assignment.Walk
import OpcodeBuckets.Proofs.Assignment.Agreement
import OpcodeBuckets.Proofs.Source.Tokens
import OpcodeBuckets.Proofs.Source.Pieces
import OpcodeBuckets.Proofs.Assignment.Classes
import OpcodeBuckets.Proofs.Assignment.Invariance
import OpcodeBuckets.Proofs.Assignment.Growth
import OpcodeBuckets.Proofs.Source.Joining
import OpcodeBuckets.Proofs.Source.Accounting
import OpcodeBuckets.Proofs.Assignment.Buckets
import OpcodeBuckets.Proofs.Assignment.Record
import OpcodeBuckets.Proofs.Report.Lossless
import OpcodeBuckets.Proofs.Source.Pointing
import OpcodeBuckets.Proofs.Assignment.Verdict
import OpcodeBuckets.Proofs.Diagnostic.Paragraphs
import OpcodeBuckets.Proofs.BitViews
import OpcodeBuckets.Proofs.CommandLine.Lookup
import OpcodeBuckets.Proofs.Diagnostic.Refusals
