import Mediation.Breakdown
import Mediation.Checker
import Mediation.CommandLine.Flag
import Mediation.CommandLine.Session
import Mediation.CommandLine.Settings
import Mediation.CommandLine.Word
import Mediation.Configuration.Basic
import Mediation.Configuration.Level
import Mediation.Configuration.Load
import Mediation.Convention.Dispatch
import Mediation.Convention.Handlers
import Mediation.Convention.Naming
import Mediation.Convention.Registration
import Mediation.Diagnostic
import Mediation.File.Path
import Mediation.File.Tree
import Mediation.Json.Integer
import Mediation.Json.Reader
import Mediation.Json.Token
import Mediation.Json.Value
import Mediation.Json.Writer
import Mediation.Log
import Mediation.Main
import Mediation.Message.Catalog
import Mediation.Message.Classification
import Mediation.Message.Library
import Mediation.Message.Role
import Mediation.Number.Amount
import Mediation.Number.Binary64
import Mediation.Number.Decimal
import Mediation.Number.Numeral
import Mediation.Number.Rounding
import Mediation.Proofs.Ancestors
import Mediation.Proofs.DiagnosticOrder
import Mediation.Proofs.Lookup
import Mediation.Proofs.OnePass
import Mediation.Proofs.OrderIndependence
import Mediation.Proofs.Reordering
import Mediation.Proofs.Roles
import Mediation.Proofs.SnapshotRoundTrip
import Mediation.Proofs.Suite
import Mediation.Proofs.SuppressionEntries
import Mediation.Registry
import Mediation.Report
import Mediation.Rule.Basic
import Mediation.Rule.Catalog
import Mediation.Rule.Template
import Mediation.Runner
import Mediation.Setting.Document
import Mediation.Setting.Line
import Mediation.Snapshot.Decode
import Mediation.Snapshot.Encode
import Mediation.Snapshot.Fault
import Mediation.Snapshot.Load
import Mediation.Suppressions
import Mediation.Symbol.Interfaces
import Mediation.Symbol.Invocation
import Mediation.Symbol.Lookup
import Mediation.Symbol.Name
import Mediation.Symbol.Program
import Mediation.Symbol.Span
import Mediation.Symbol.TypeDecl
import Mediation.Symbol.TypeRef
import Mediation.Table
import Mediation.Text.Affix
import Mediation.Text.Blank
import Mediation.Text.Case
import Mediation.Text.CaseTable
import Mediation.Text.Digit
import Mediation.Text.Encoding
import Mediation.Text.Glob
import Mediation.Text.Hex
import Mediation.Text.Lines
import Mediation.Text.Printable
import Mediation.Text.Quoted
import Mediation.Text.Ranges
import Mediation.Text.Utf8
import Mediation.Proofs.JsonLexing
import Mediation.Proofs.JsonRoundTrip
import Mediation.Proofs.JsonLines
import Mediation.Proofs.MergedRuns
import Mediation.Proofs.ReferenceIdentity
import Mediation.Proofs.SnapshotFaults
import Mediation.Proofs.SuiteRules
import Mediation.Proofs.RegistryHistory
import Mediation.Proofs.MergeLaws
import Mediation.Proofs.AsciiReports
import Mediation.Proofs.Loads
import Mediation.Proofs.ExitCode
import Mediation.Proofs.Grouping
import Mediation.Proofs.NamesJudgedOnce
import Mediation.Proofs.FailureIsolation
import Mediation.Proofs.InterfaceWalk
import Mediation.Proofs.WholeFileMarks
import Mediation.Proofs.Traceability
import Mediation.Proofs.OptionOrder
import Mediation.Proofs.SuppressionHistory
import Mediation.Proofs.OwnCalls
import Mediation.Proofs.LevelSettings
import Mediation.Proofs.LevelPrecedence
import Mediation.Proofs.RuleKeys
import Mediation.Proofs.SettingOrder
import Mediation.Proofs.RegistryTimeline
import Mediation.Proofs.DispatchCalls
import Mediation.Proofs.IdleCheckers
import Mediation.Proofs.Utf8
import Mediation.Proofs.SettingsFaults
import Mediation.Proofs.MetadataNames
import Mediation.Proofs.DeclarationSearch
import Mediation.Proofs.OwnReferences
