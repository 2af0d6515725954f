import Interning.Main
import Interning.Session
import Interning.Proofs.IdentifierLayout
import Interning.Proofs.ScopeRule
import Interning.Proofs.TableInvariant
import Interning.Proofs.InterningOutcome
import Interning.Proofs.RegistrySteps
import Interning.Proofs.ResolutionOutcome
import Interning.Proofs.SymbolHandles
import Interning.Proofs.AppendOnly
import Interning.Proofs.FailedResolution
import Interning.Proofs.BareNames
import Interning.Proofs.LiteralReader
import Interning.Proofs.SetterPairs
import Interning.Proofs.ScopeCounts
import Interning.Proofs.SequenceNumbers
import Interning.Proofs.DerivableSetters
import Interning.Proofs.AgreeingTables
import Interning.Proofs.Exhaustion
import Interning.Proofs.ReadIndependence
import Interning.Proofs.RecordedTexts
import Interning.Proofs.CounterLaws
import Interning.Proofs.InternedLists
import Interning.Proofs.Schedules
import Interning.Proofs.SharedNumbers
import Interning.Proofs.BatchRuns
import Interning.Proofs.BatchCounts
import Interning.Proofs.NameReports
import Interning.Proofs.LineFraming
import Interning.Proofs.Conservation
import Interning.Proofs.SilentCounting
import Interning.Proofs.Creations
import Interning.Proofs.SettingsDocument
import Interning.Proofs.TomlStatements
import Interning.Proofs.BareScopes
import Interning.Proofs.OverwrittenRecords
import Interning.Proofs.SetterResolution
import Interning.Proofs.FileTreeWrites
import Interning.Proofs.ConfigLayers
import Interning.Proofs.PinnedSettings
import Interning.Proofs.ByteOrder
import Interning.Proofs.CaseMappings
import Interning.Proofs.CaseRules
import Interning.Proofs.CaseOperations
import Interning.Proofs.SymbolOrder
import Interning.Proofs.ScopeLines
import Interning.Proofs.TagExchange
import Interning.Proofs.InterningDepth
