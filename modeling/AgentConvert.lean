import AgentConvert.Main
import AgentConvert.Proofs.Collector.Document
import AgentConvert.Proofs.Collector.Fates
import AgentConvert.Proofs.Collector.Cycles
import AgentConvert.Proofs.Document.Recognition
import AgentConvert.Proofs.Document.Formatting
import AgentConvert.Proofs.Formatted.Result
import AgentConvert.Proofs.Identity.Unique
import AgentConvert.Proofs.References.Resolved
import AgentConvert.Proofs.Routing.Routed
import AgentConvert.Proofs.LogShipper.Findings
import AgentConvert.Proofs.Embedding.Logs
import AgentConvert.Proofs.Embedding.FailedJobs
import AgentConvert.Proofs.Embedding.Renaming
import AgentConvert.Proofs.Embedding.Agreement
import AgentConvert.Proofs.LogShipper.Labels
import AgentConvert.Proofs.Scraping.Jobs
import AgentConvert.Proofs.Scraping.Integrations
import AgentConvert.Proofs.Secrecy.Alike
import AgentConvert.Proofs.Secrecy.Settings
import AgentConvert.Proofs.Secrecy.LogShipper
import AgentConvert.Proofs.Secrecy.Metrics
import AgentConvert.Proofs.Secrecy.Integrations
import AgentConvert.Proofs.Secrecy.Result
import AgentConvert.Proofs.Label.Search
import AgentConvert.Proofs.Duration.Spelling
import AgentConvert.Proofs.Duration.Reading
import AgentConvert.Proofs.Duration.RoundTrip
import AgentConvert.Proofs.Collector.Reordered
import AgentConvert.Proofs.References.Exact
import AgentConvert.Proofs.ByteSize.Settings
import AgentConvert.Proofs.Override.Recorded
import AgentConvert.Proofs.Document.Separators
import AgentConvert.Proofs.Environment
import AgentConvert.Proofs.Document.Viability
import AgentConvert.Proofs.Collector.OpaqueValues
import AgentConvert.Proofs.Document.Alignment
import AgentConvert.Proofs.Document.CanonicalLines
import AgentConvert.Proofs.Findings.Report
import AgentConvert.Proofs.Settings.Server
import AgentConvert.Proofs.CommandLine.Findings
import AgentConvert.Proofs.CommandLine.Delivery
import AgentConvert.Proofs.Settings.Targets
