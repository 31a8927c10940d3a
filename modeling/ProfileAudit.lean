import ProfileAudit.Cardinality
import ProfileAudit.Client.Answer
import ProfileAudit.Client.Basic
import ProfileAudit.Client.Envelope
import ProfileAudit.Cluster.Kubeconfig
import ProfileAudit.Cluster.Source
import ProfileAudit.Command.Arguments
import ProfileAudit.Command.Check
import ProfileAudit.Command.Program
import ProfileAudit.Config
import ProfileAudit.Context
import ProfileAudit.Decimal
import ProfileAudit.Failure
import ProfileAudit.Files
import ProfileAudit.Http.Message
import ProfileAudit.Http.Request
import ProfileAudit.Http.Status
import ProfileAudit.HumanDuration
import ProfileAudit.Instant
import ProfileAudit.Json.Basic
import ProfileAudit.Json.Reader
import ProfileAudit.Json.Record
import ProfileAudit.Json.Writer
import ProfileAudit.Main
import ProfileAudit.Monitor.Basic
import ProfileAudit.Monitor.Index
import ProfileAudit.Monitor.Selector
import ProfileAudit.Names
import ProfileAudit.Path
import ProfileAudit.Pattern.Basic
import ProfileAudit.Pattern.CharSet
import ProfileAudit.Pattern.Class
import ProfileAudit.Pattern.Element
import ProfileAudit.Pattern.Flags
import ProfileAudit.Pattern.Reader
import ProfileAudit.Profile.Basic
import ProfileAudit.Profile.Extract
import ProfileAudit.Profile.Listing
import ProfileAudit.Profile.Reconcile
import ProfileAudit.Profile.Status
import ProfileAudit.Profile.Validate
import ProfileAudit.Proofs.Cardinality.Ending
import ProfileAudit.Proofs.Cardinality.OwnSeries
import ProfileAudit.Proofs.Cardinality.Permits
import ProfileAudit.Proofs.Cardinality.Ranking
import ProfileAudit.Proofs.Cardinality.Step
import ProfileAudit.Proofs.Cardinality.Truthful
import ProfileAudit.Proofs.Client.Address
import ProfileAudit.Proofs.Client.Envelope
import ProfileAudit.Proofs.Command.Arguments
import ProfileAudit.Proofs.Command.Check
import ProfileAudit.Proofs.Command.Delivery
import ProfileAudit.Proofs.Command.Independence
import ProfileAudit.Proofs.Command.Operations
import ProfileAudit.Proofs.Command.Separate
import ProfileAudit.Proofs.Command.SideBySide
import ProfileAudit.Proofs.Command.Strategies
import ProfileAudit.Proofs.Command.Usage
import ProfileAudit.Proofs.Command.Words
import ProfileAudit.Proofs.Config.Defaults
import ProfileAudit.Proofs.Config.Fields
import ProfileAudit.Proofs.Config.Loading
import ProfileAudit.Proofs.Context
import ProfileAudit.Proofs.Context.Clones
import ProfileAudit.Proofs.Course
import ProfileAudit.Proofs.Deadline
import ProfileAudit.Proofs.Directory
import ProfileAudit.Proofs.Files
import ProfileAudit.Proofs.Files.Artifacts
import ProfileAudit.Proofs.Files.Way
import ProfileAudit.Proofs.HumanDuration
import ProfileAudit.Proofs.Monitor.Index
import ProfileAudit.Proofs.Monitor.LastKept
import ProfileAudit.Proofs.Monitor.Selector
import ProfileAudit.Proofs.Names
import ProfileAudit.Proofs.Path
import ProfileAudit.Proofs.Pattern.Anchored
import ProfileAudit.Proofs.Pattern.ClassClosing
import ProfileAudit.Proofs.Pattern.Closing
import ProfileAudit.Proofs.Pattern.ElementClosing
import ProfileAudit.Proofs.Pattern.Escaped
import ProfileAudit.Proofs.Pattern.PartClosing
import ProfileAudit.Proofs.Pattern.Spans
import ProfileAudit.Proofs.Pattern.TextClosing
import ProfileAudit.Proofs.Points
import ProfileAudit.Proofs.Profile.Cancellation
import ProfileAudit.Proofs.Profile.Composition
import ProfileAudit.Proofs.Profile.Extracted
import ProfileAudit.Proofs.Profile.Extraction
import ProfileAudit.Proofs.Profile.Facts
import ProfileAudit.Proofs.Profile.Isolation
import ProfileAudit.Proofs.Profile.Listing
import ProfileAudit.Proofs.Profile.Reconcile
import ProfileAudit.Proofs.Profile.ReportLines
import ProfileAudit.Proofs.Profile.Reporting
import ProfileAudit.Proofs.Profile.Sources
import ProfileAudit.Proofs.Profile.Status
import ProfileAudit.Proofs.Profile.Stripping
import ProfileAudit.Proofs.Profile.TargetSelector
import ProfileAudit.Proofs.Query.Grammar
import ProfileAudit.Proofs.Query.Metrics
import ProfileAudit.Proofs.Query.Occurrence
import ProfileAudit.Proofs.Query.Readings
import ProfileAudit.Proofs.Query.Spelling
import ProfileAudit.Proofs.Query.Walk
import ProfileAudit.Proofs.Query.Wording
import ProfileAudit.Proofs.Report.Relabel
import ProfileAudit.Proofs.Report.RelabelFile
import ProfileAudit.Proofs.Report.Sharing
import ProfileAudit.Proofs.Report.Sink
import ProfileAudit.Proofs.Report.Table
import ProfileAudit.Proofs.Report.Widths
import ProfileAudit.Proofs.Result
import ProfileAudit.Proofs.RuleFile
import ProfileAudit.Proofs.RuleFile.FirstViolation
import ProfileAudit.Proofs.RuleFile.Judged
import ProfileAudit.Proofs.Run
import ProfileAudit.Proofs.Steady
import ProfileAudit.Proofs.Text.Hex
import ProfileAudit.Proofs.Text.Lines
import ProfileAudit.Proofs.Text.Quoted
import ProfileAudit.Proofs.Toml
import ProfileAudit.Proofs.Url.Path
import ProfileAudit.Proofs.Url.Web
import ProfileAudit.Proofs.Yaml.Gap
import ProfileAudit.Proofs.Yaml.Literal
import ProfileAudit.Proofs.Yaml.Plain
import ProfileAudit.Proofs.Yaml.Quoted
import ProfileAudit.Proofs.Yaml.Style
import ProfileAudit.Proofs.Yaml.Value
import ProfileAudit.Query.Check
import ProfileAudit.Query.Expr
import ProfileAudit.Query.Fault
import ProfileAudit.Query.Literal
import ProfileAudit.Query.Matcher
import ProfileAudit.Query.Metrics
import ProfileAudit.Query.Parser
import ProfileAudit.Query.Token
import ProfileAudit.Report.Relabel
import ProfileAudit.Report.Sink
import ProfileAudit.Report.Table
import ProfileAudit.Report.Timestamp
import ProfileAudit.Rule
import ProfileAudit.RuleFile
import ProfileAudit.Run
import ProfileAudit.Text.Base64
import ProfileAudit.Text.Blank
import ProfileAudit.Text.Category
import ProfileAudit.Text.Hex
import ProfileAudit.Text.LetterCase
import ProfileAudit.Text.Property
import ProfileAudit.Text.Quoted
import ProfileAudit.Text.Ranges
import ProfileAudit.Text.Script
import ProfileAudit.Text.Split
import ProfileAudit.Toml
import ProfileAudit.Url.Basic
import ProfileAudit.Url.Form
import ProfileAudit.Url.Host
import ProfileAudit.Url.Percent
import ProfileAudit.Url.Punycode
import ProfileAudit.Url.Reader
import ProfileAudit.Yaml.Cursor
import ProfileAudit.Yaml.Decode
import ProfileAudit.Yaml.Layout
import ProfileAudit.Yaml.Node
import ProfileAudit.Yaml.Token
import ProfileAudit.Yaml.Writer
