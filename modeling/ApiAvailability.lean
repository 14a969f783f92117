import ApiAvailability.Access
import ApiAvailability.Advisory
import ApiAvailability.Analysis
import ApiAvailability.Architecture
import ApiAvailability.Attribute.Argument
import ApiAvailability.Attribute.Basic
import ApiAvailability.Attribute.Binding
import ApiAvailability.Attribute.Facts
import ApiAvailability.Attribute.Merge
import ApiAvailability.Attribute.Shape
import ApiAvailability.Collection
import ApiAvailability.Compilation
import ApiAvailability.Config.Basic
import ApiAvailability.Config.Document
import ApiAvailability.Config.Load
import ApiAvailability.Config.Validation
import ApiAvailability.Deployment
import ApiAvailability.Diagnostic.Basic
import ApiAvailability.Diagnostic.Code
import ApiAvailability.Diagnostic.JsonLines
import ApiAvailability.Diagnostic.Rule
import ApiAvailability.Diagnostic.Severity
import ApiAvailability.Diagnostic.Sink
import ApiAvailability.Diagnostic.Terminal
import ApiAvailability.Json.Basic
import ApiAvailability.Json.Decoder
import ApiAvailability.Json.Printer
import ApiAvailability.Json.Reader
import ApiAvailability.Platform
import ApiAvailability.Proofs.Acceptance
import ApiAvailability.Proofs.AdviceFirst
import ApiAvailability.Proofs.AggregateFacts
import ApiAvailability.Proofs.CodeGrammar
import ApiAvailability.Proofs.CompoundAccess
import ApiAvailability.Proofs.Decision
import ApiAvailability.Proofs.DiagnosticLines
import ApiAvailability.Proofs.Encodings
import ApiAvailability.Proofs.EveryVersion
import ApiAvailability.Proofs.FlatGathering
import ApiAvailability.Proofs.Gathering
import ApiAvailability.Proofs.GatheringFailure
import ApiAvailability.Proofs.HostRepresentation
import ApiAvailability.Proofs.JoinedMessages
import ApiAvailability.Proofs.JsonRoundTrip
import ApiAvailability.Proofs.LiteralReadBack
import ApiAvailability.Proofs.NewestVersion
import ApiAvailability.Proofs.Numeral
import ApiAvailability.Proofs.OnePlatform
import ApiAvailability.Proofs.OrderIndependence
import ApiAvailability.Proofs.PackedWords
import ApiAvailability.Proofs.PlatformView
import ApiAvailability.Proofs.PolicyComparison
import ApiAvailability.Proofs.ReadBack
import ApiAvailability.Proofs.RecordSummary
import ApiAvailability.Proofs.Reordering
import ApiAvailability.Proofs.Requirement64
import ApiAvailability.Proofs.Retention
import ApiAvailability.Proofs.RuleOverrides
import ApiAvailability.Proofs.SinkHistory
import ApiAvailability.Proofs.SiteGathering
import ApiAvailability.Proofs.SlotLattice
import ApiAvailability.Proofs.SlotOrder
import ApiAvailability.Proofs.StandingMessage
import ApiAvailability.Proofs.StatedSlots
import ApiAvailability.Proofs.StoredNames
import ApiAvailability.Proofs.TargetComparison
import ApiAvailability.Proofs.UseReport
import ApiAvailability.Proofs.VersionGrammar
import ApiAvailability.Proofs.WrittenAttributes
import ApiAvailability.Record
import ApiAvailability.Settings
import ApiAvailability.Slot
import ApiAvailability.SlotSet
import ApiAvailability.Symbol
import ApiAvailability.Text.Blank
import ApiAvailability.Text.Decimal
import ApiAvailability.Text.Scan
import ApiAvailability.Toml.Document
import ApiAvailability.Toml.Number
import ApiAvailability.Toml.Table
import ApiAvailability.Toml.Text
import ApiAvailability.Toml.Value
import ApiAvailability.UseSite
