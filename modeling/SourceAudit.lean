import SourceAudit.Aggregate
import SourceAudit.Breakdown
import SourceAudit.Calendar
import SourceAudit.Catalog.Basic
import SourceAudit.Catalog.FromDocument
import SourceAudit.Catalog.FromFile
import SourceAudit.Catalog.Packaged
import SourceAudit.Catalog.PackagedFixes
import SourceAudit.Command.Arguments
import SourceAudit.Command.Run
import SourceAudit.Config
import SourceAudit.Digest.Sha256
import SourceAudit.Document.FromFile
import SourceAudit.Document.Value
import SourceAudit.Document.Yaml.Build
import SourceAudit.Document.Yaml.Cursor
import SourceAudit.Document.Yaml.FirstFault
import SourceAudit.Document.Yaml.Graph
import SourceAudit.Document.Yaml.Lexer
import SourceAudit.Document.Yaml.MomentText
import SourceAudit.Document.Yaml.Node
import SourceAudit.Document.Yaml.PlainScalar
import SourceAudit.Document.Yaml.Read
import SourceAudit.Document.Yaml.ScalarText
import SourceAudit.Document.Yaml.ScalarValue
import SourceAudit.Document.Yaml.Token
import SourceAudit.Edit
import SourceAudit.FileScan
import SourceAudit.Files.Path
import SourceAudit.Files.Tree
import SourceAudit.Files.Walk
import SourceAudit.Files.Workspace
import SourceAudit.Finding
import SourceAudit.Identity
import SourceAudit.Language
import SourceAudit.Main
import SourceAudit.Match
import SourceAudit.Number.Binary64
import SourceAudit.Number.Integer
import SourceAudit.Number.Real
import SourceAudit.Pattern.CharTest
import SourceAudit.Pattern.Fault
import SourceAudit.Pattern.Hits
import SourceAudit.Pattern.Matcher
import SourceAudit.Pattern.Node
import SourceAudit.Pattern.Opening
import SourceAudit.Pattern.Reader
import SourceAudit.Pattern.Resolution
import SourceAudit.Pattern.Term
import SourceAudit.Pattern.Trail
import SourceAudit.Proofs.AcceptedDocuments
import SourceAudit.Proofs.AggregatedMatches
import SourceAudit.Proofs.ArrivalOrder
import SourceAudit.Proofs.AskedConfigs
import SourceAudit.Proofs.BuiltCatalog
import SourceAudit.Proofs.CanonicalLines
import SourceAudit.Proofs.CatalogIndexes
import SourceAudit.Proofs.CatalogReadings
import SourceAudit.Proofs.Collapse
import SourceAudit.Proofs.CompleteSearch
import SourceAudit.Proofs.CompletedRuns
import SourceAudit.Proofs.Concatenation
import SourceAudit.Proofs.CountedIssues
import SourceAudit.Proofs.DecodedSources
import SourceAudit.Proofs.EditedLines
import SourceAudit.Proofs.ExactScan
import SourceAudit.Proofs.FailedAggregation
import SourceAudit.Proofs.FaultyFiles
import SourceAudit.Proofs.FilledLines
import SourceAudit.Proofs.FirstHits
import SourceAudit.Proofs.HitOrder
import SourceAudit.Proofs.KeyHeaders
import SourceAudit.Proofs.LeavingOut
import SourceAudit.Proofs.LowercaseTexts
import SourceAudit.Proofs.Merging
import SourceAudit.Proofs.OrderedMatches
import SourceAudit.Proofs.Payloads
import SourceAudit.Proofs.QuotedCode
import SourceAudit.Proofs.ReportRuns
import SourceAudit.Proofs.Reported
import SourceAudit.Proofs.RereadEdits
import SourceAudit.Proofs.Rescan
import SourceAudit.Proofs.ResolvedFixes
import SourceAudit.Proofs.SearchedTrees
import SourceAudit.Proofs.SeenTrees
import SourceAudit.Proofs.SilentTables
import SourceAudit.Proofs.SimultaneousEdits
import SourceAudit.Proofs.SiteFindings
import SourceAudit.Proofs.SkippedFiles
import SourceAudit.Proofs.SortedByKey
import SourceAudit.Proofs.SoundConfigs
import SourceAudit.Proofs.Splicing
import SourceAudit.Proofs.TakenFiles
import SourceAudit.Proofs.Utf8ReadBack
import SourceAudit.Proofs.Verdicts
import SourceAudit.Proofs.WellFormedBytes
import SourceAudit.Proofs.WellFormedDocuments
import SourceAudit.Proofs.WideTexts
import SourceAudit.Proofs.WorstFindings
import SourceAudit.Proofs.WrittenReports
import SourceAudit.Proofs.WrittenValues
import SourceAudit.Remedy
import SourceAudit.Report.Basic
import SourceAudit.Report.Json
import SourceAudit.Report.Table
import SourceAudit.Rule
import SourceAudit.Scan
import SourceAudit.Severity
import SourceAudit.Source
import SourceAudit.Summary
import SourceAudit.Survey
import SourceAudit.Text.Base64
import SourceAudit.Text.Blank
import SourceAudit.Text.Category
import SourceAudit.Text.CharacterNames
import SourceAudit.Text.CodeSet
import SourceAudit.Text.Digits
import SourceAudit.Text.Identifier
import SourceAudit.Text.Indent
import SourceAudit.Text.LetterCase
import SourceAudit.Text.Lines
import SourceAudit.Text.NamedCharacter
import SourceAudit.Text.Quoted
import SourceAudit.Text.Unified
import SourceAudit.Text.UpperCase
import SourceAudit.Text.Utf8
import SourceAudit.Text.WideText
