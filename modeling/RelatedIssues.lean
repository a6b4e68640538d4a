import RelatedIssues.Clause.Reader
import RelatedIssues.Main
import RelatedIssues.Proofs.Clause.Meaning
import RelatedIssues.Proofs.Clause.Quoting
import RelatedIssues.Proofs.Clause.RoundTrip
import RelatedIssues.Proofs.CommandLine.ExitCode
import RelatedIssues.Proofs.Extraction.Entries
import RelatedIssues.Proofs.Extraction.Hierarchy
import RelatedIssues.Proofs.Extraction.Links
import RelatedIssues.Proofs.Extraction.Selection
import RelatedIssues.Proofs.Extraction.Union
import RelatedIssues.Proofs.Issue.Pieces
import RelatedIssues.Proofs.Request.Parsing
import RelatedIssues.Proofs.Request.Passage
import RelatedIssues.Proofs.Request.Printing
import RelatedIssues.Proofs.Resolution.Account
import RelatedIssues.Proofs.Resolution.Agreement
import RelatedIssues.Proofs.Resolution.Correctness
import RelatedIssues.Proofs.Resolution.Extension
import RelatedIssues.Proofs.Resolution.FailClosed
import RelatedIssues.Proofs.Resolution.Negation
import RelatedIssues.Proofs.Resolution.OverHttp
import RelatedIssues.Proofs.Resolution.Payload
import RelatedIssues.Proofs.Resolution.Preview
import RelatedIssues.Proofs.Search.Amount
import RelatedIssues.Proofs.Search.Isolation
import RelatedIssues.Proofs.Search.Offsets
import RelatedIssues.Proofs.Settings.Canonical
import RelatedIssues.Proofs.Settings.Concatenation
import RelatedIssues.Proofs.Settings.EnvFile
import RelatedIssues.Proofs.Table
import RelatedIssues.Proofs.Text.Lines
import RelatedIssues.Resolution.OfJson
import RelatedIssues.Resolution.OverHttp
