import Triage.AntiDebug
import Triage.Buffer
import Triage.Bytes
import Triage.Bytes.Histogram
import Triage.Bytes.Scan
import Triage.Config
import Triage.Decimal
import Triage.Decompiler
import Triage.Digest
import Triage.Duration
import Triage.Error
import Triage.Hook
import Triage.Hook.Table
import Triage.Host
import Triage.Host.Memory
import Triage.Image
import Triage.Image.Memo
import Triage.Json.Printer
import Triage.Json.Reader
import Triage.Json.Record
import Triage.Json.Value
import Triage.Keyed
import Triage.Obfuscation
import Triage.Packer
import Triage.Path
import Triage.Regex.ByteSet
import Triage.Regex.Expr
import Triage.Regex.Footprint
import Triage.Regex.Node
import Triage.Regex.Parser
import Triage.Regex.Pattern
import Triage.Regex.PropertyName
import Triage.Regex.ScalarSet
import Triage.Regex.Search
import Triage.Report
import Triage.Session
import Triage.Signature
import Triage.Signature.Registry
import Triage.Text.Case
import Triage.Text.Category
import Triage.Text.Property
import Triage.Text.Quoted
import Triage.Text.Script
import Triage.Text.Utf8
import Triage.Text.Version
import Triage.Unpack
import Triage.Proofs.BufferContents
import Triage.Proofs.Detection
import Triage.Proofs.ReportCoherence
import Triage.Proofs.HookBackend
import Triage.Proofs.HookHistory
import Triage.Proofs.HookTargets
import Triage.Proofs.AnalysisOutcome
import Triage.Proofs.DecompilerVerdict
import Triage.Proofs.JsonNumber
import Triage.Proofs.JsonString
import Triage.Proofs.JsonText
import Triage.Proofs.JsonRecord
import Triage.Proofs.ReportText
import Triage.Proofs.DocumentText
import Triage.Proofs.RegistryEntries
import Triage.Proofs.PackedVerdict
import Triage.Proofs.Embedding
import Triage.Proofs.RegistrationOrder
import Triage.Proofs.UnpackRun
import Triage.Proofs.MatchOrder
import Triage.Proofs.LiteralSearch
import Triage.Proofs.ConfigOverlay
import Triage.Proofs.BranchPositions
import Triage.Proofs.EntropyOfCounts
import Triage.Proofs.OutputText
import Triage.Proofs.ScanRounds
import Triage.Proofs.CommandWords
import Triage.Proofs.DurationText
import Triage.Proofs.OutputPath
