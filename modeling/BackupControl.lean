import BackupControl.Calendar.Date
import BackupControl.Calendar.TimeLiteral
import BackupControl.Calendar.Zone
import BackupControl.CommandLine.Flags
import BackupControl.CommandLine.Invocation
import BackupControl.CommandLine.Level
import BackupControl.CommandLine.Rule
import BackupControl.Document.Basic
import BackupControl.Document.Mismatch
import BackupControl.Document.OfYaml
import BackupControl.Document.Typing
import BackupControl.Failure
import BackupControl.Job.Basic
import BackupControl.Job.Payload
import BackupControl.Job.Policies
import BackupControl.Json.Basic
import BackupControl.Json.Read
import BackupControl.Json.Render
import BackupControl.Launch.Engine
import BackupControl.Launch.Files
import BackupControl.Launch.Log
import BackupControl.Launch.Report
import BackupControl.Launch.Run
import BackupControl.Main
import BackupControl.Numeric.Binary64
import BackupControl.Numeric.Literal
import BackupControl.Numeric.Power
import BackupControl.Numeric.ShortestDecimal
import BackupControl.Operation
import BackupControl.Options.App
import BackupControl.Options.ChangeFeed
import BackupControl.Options.Cluster
import BackupControl.Options.Defaults
import BackupControl.Options.Group
import BackupControl.Options.Kind
import BackupControl.Options.Layer
import BackupControl.Options.OfDocument
import BackupControl.Options.OfText
import BackupControl.Options.Protection
import BackupControl.Options.Restore
import BackupControl.Options.Scan
import BackupControl.Options.SecretAgent
import BackupControl.Options.Storage
import BackupControl.Options.Transfer
import BackupControl.Partition.Filter
import BackupControl.Partition.Overlap
import BackupControl.Rules.ChangeFeed
import BackupControl.Rules.Connection
import BackupControl.Rules.FilePrefix
import BackupControl.Rules.Protection
import BackupControl.Rules.Racks
import BackupControl.Rules.Restore
import BackupControl.Rules.Scan
import BackupControl.Rules.Storage
import BackupControl.Rules.Transfer
import BackupControl.Rules.Violation
import BackupControl.Service.Backup
import BackupControl.Service.Infrastructure
import BackupControl.Service.Load
import BackupControl.Service.Restore
import BackupControl.Service.Secrets
import BackupControl.Text.Base64
import BackupControl.Text.Blank
import BackupControl.Text.CaseMapping
import BackupControl.Text.CaseTable
import BackupControl.Text.CharRanges
import BackupControl.Text.Commas
import BackupControl.Text.DecimalDigit
import BackupControl.Text.Path
import BackupControl.Text.Quoted
import BackupControl.Text.Unprintable
import BackupControl.Yaml.Cursor
import BackupControl.Yaml.Node
import BackupControl.Yaml.Property
import BackupControl.Yaml.Scalar
import BackupControl.Yaml.Token
import BackupControl.Proofs.Options.Groups
import BackupControl.Proofs.Options.Section
import BackupControl.Proofs.Options.Layering
import BackupControl.Proofs.Service.Layering
import BackupControl.Proofs.CommandLine.FlagTexts
import BackupControl.Proofs.CommandLine.OptionFlags
import BackupControl.Proofs.CommandLine.StorageFlags
import BackupControl.Proofs.Service.Sections
import BackupControl.Proofs.CommandLine.Overlay
import BackupControl.Proofs.Service.Precedence
import BackupControl.Proofs.Rules.Backup
import BackupControl.Proofs.Service.Destruction
import BackupControl.Proofs.Partition.Overlap
import BackupControl.Proofs.Partition.Selection
import BackupControl.Proofs.Service.Job
import BackupControl.Proofs.Service.SecretPass
import BackupControl.Proofs.Service.Resolution
import BackupControl.Proofs.Service.Coherence
import BackupControl.Proofs.Rules.Restore
import BackupControl.Proofs.Service.RestoreJob
import BackupControl.Proofs.Numeric.IntegerLiteral
import BackupControl.Proofs.Rules.Racks
import BackupControl.Proofs.Text.Base64
import BackupControl.Proofs.Partition.Selectors
import BackupControl.Proofs.Calendar.TimeLiteral
import BackupControl.Proofs.Service.Assembly
import BackupControl.Proofs.Options.Change
import BackupControl.Proofs.Options.Secrets
import BackupControl.Proofs.Service.Substitution
import BackupControl.Proofs.Rules.Storage
import BackupControl.Proofs.Text.Commas
import BackupControl.Proofs.Service.Namespace
import BackupControl.Proofs.Rules.ScanOnly
import BackupControl.Proofs.Service.Irrelevance
import BackupControl.Proofs.Launch.Output
import BackupControl.Proofs.Service.Switching
import BackupControl.Proofs.Text.CaseMapping
import BackupControl.Proofs.Rules.Words
import BackupControl.Proofs.Service.Spelling
import BackupControl.Proofs.Service.CanonicalWords
import BackupControl.Proofs.Launch.Lines
import BackupControl.Proofs.Launch.Protocol
import BackupControl.Proofs.Document.Record
import BackupControl.Proofs.Document.Nesting
import BackupControl.Proofs.Document.Scalar
import BackupControl.Proofs.Document.Spelled
import BackupControl.Proofs.Document.RoundTrip
import BackupControl.Proofs.Document.Format
import BackupControl.Proofs.Partition.Offence
import BackupControl.Proofs.Partition.SelectorList
import BackupControl.Proofs.Service.Unheard
import BackupControl.Proofs.Numeric.Rounding
import BackupControl.Proofs.Numeric.ShortestDecimal
import BackupControl.Proofs.Numeric.DecimalText
import BackupControl.Proofs.Json.Grammar
import BackupControl.Proofs.Json.Written
import BackupControl.Proofs.Calendar.Days
import BackupControl.Proofs.Calendar.InstantText
import BackupControl.Proofs.Job.Payload
import BackupControl.Proofs.Calendar.LeapSecond
import BackupControl.Proofs.Job.Reals
import BackupControl.Proofs.Service.PayloadText
import BackupControl.Proofs.Rules.FilePrefix
import BackupControl.Proofs.Rules.FirstBroken
import BackupControl.Proofs.Service.JoinedPaths
import BackupControl.Proofs.Calendar.LiteralText
import BackupControl.Proofs.Calendar.FixedOffset
import BackupControl.Proofs.Calendar.ClockChange
import BackupControl.Proofs.Text.Base64Bits
import BackupControl.Proofs.Partition.AfterDigest
import BackupControl.Proofs.Document.Values
import BackupControl.Proofs.Document.CommaList
import BackupControl.Proofs.Service.CloudRetries
import BackupControl.Proofs.Service.Units
import BackupControl.Proofs.Text.Path
import BackupControl.Proofs.Launch.Folders
import BackupControl.Proofs.Json.Members
import BackupControl.Proofs.Job.Names
