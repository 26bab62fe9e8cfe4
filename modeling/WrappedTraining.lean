import WrappedTraining.Cluster.Server
import WrappedTraining.Cluster.Snapshot
import WrappedTraining.Main
import WrappedTraining.Proofs.Dict
import WrappedTraining.Proofs.Json.RoundTrip
import WrappedTraining.Proofs.Submission.Consistency
import WrappedTraining.Proofs.Submission.RoundTrip
import WrappedTraining.Proofs.Cluster.Listing
import WrappedTraining.Proofs.Submission.Deadlines
import WrappedTraining.Proofs.Submission.Limits
import WrappedTraining.Proofs.Submission.Choices
import WrappedTraining.Proofs.Cluster.Agreement
import WrappedTraining.Proofs.Text.Numeral
import WrappedTraining.Proofs.Text.Trimmed
import WrappedTraining.Proofs.Toleration.Reading
import WrappedTraining.Proofs.Toleration.Invariant
import WrappedTraining.Proofs.Span.Bounded
import WrappedTraining.Proofs.Span.Notation
import WrappedTraining.Proofs.Span.Reading
import WrappedTraining.Proofs.Quantity.Total
import WrappedTraining.Proofs.Quantity.Notation
import WrappedTraining.Proofs.Quantity.Sliced
import WrappedTraining.Proofs.Quantity.Reading
import WrappedTraining.Proofs.Submission.Rules
import WrappedTraining.Proofs.Submission.Acceptance
import WrappedTraining.Proofs.Submission.Entries
import WrappedTraining.Proofs.Submission.Frame
import WrappedTraining.Proofs.Submission.Rebuild
import WrappedTraining.Proofs.CommandLine.Tolerations
import WrappedTraining.Proofs.CommandLine.Settings
import WrappedTraining.Proofs.CommandLine.Words
import WrappedTraining.Proofs.CommandLine.Fields
import WrappedTraining.Proofs.CommandLine.SubmitFields
import WrappedTraining.Proofs.CommandLine.Written
import WrappedTraining.Proofs.CommandLine.Lossless
import WrappedTraining.Proofs.Cluster.GpuRequest
import WrappedTraining.Proofs.Submission.Decisive
import WrappedTraining.Proofs.Cluster.Lookups
import WrappedTraining.Proofs.Cluster.Replies
import WrappedTraining.Proofs.Cluster.Contents
import WrappedTraining.Proofs.Cluster.Reports
import WrappedTraining.Proofs.Cluster.Namespaces
import WrappedTraining.Proofs.Span.Worth
import WrappedTraining.Proofs.Cluster.Chief
import WrappedTraining.Proofs.CommandLine.Judged
import WrappedTraining.Proofs.CommandLine.Spellings
import WrappedTraining.Proofs.Path
import WrappedTraining.Proofs.Submission.Logs
import WrappedTraining.Proofs.Path.Places
import WrappedTraining.Proofs.Submission.Mounts
import WrappedTraining.Proofs.Submission.Counts
import WrappedTraining.Proofs.Text.Pattern
import WrappedTraining.Proofs.Quantity.Pattern
import WrappedTraining.Proofs.Submission.Amounts
import WrappedTraining.Proofs.Submission.Volumes
import WrappedTraining.Proofs.Cluster.GpuAccounts
import WrappedTraining.Proofs.Cluster.Conditions
import WrappedTraining.Proofs.Cluster.Duration
import WrappedTraining.Proofs.Submission.Pairs
import WrappedTraining.Proofs.Report.Columns
import WrappedTraining.Proofs.Report.Age
import WrappedTraining.Proofs.Submission.Repository
