import SymbolResolver.Text.Quoted
import SymbolResolver.Text.Digest
import SymbolResolver.Name.Basic
import SymbolResolver.Name.Generated
import SymbolResolver.Table
import SymbolResolver.Json.Scan
import SymbolResolver.Json.Print
import SymbolResolver.Json.Reader
import SymbolResolver.Lazy.Store
import SymbolResolver.Lazy.Tasks
import SymbolResolver.Lazy.Node
import SymbolResolver.Lazy.Shelf
import SymbolResolver.Lazy.Deferred
import SymbolResolver.Lazy.Collection
import SymbolResolver.Lazy.CollectionScript
import SymbolResolver.Resolution.Stages
import SymbolResolver.Resolution.Resolver
import SymbolResolver.Resolution.Probe
import SymbolResolver.Resolution.CacheScript
import SymbolResolver.Codec.Resolution
import SymbolResolver.Files.Disk
import SymbolResolver.Resolution.Script
import SymbolResolver.Main
import SymbolResolver.Proofs.Courses
import SymbolResolver.Proofs.Flights
import SymbolResolver.Proofs.Tracking
import SymbolResolver.Proofs.SharedValues
import SymbolResolver.Proofs.SharedCaches
import SymbolResolver.Proofs.Replays
import SymbolResolver.Proofs.Meanings
import SymbolResolver.Proofs.Collections
import SymbolResolver.Proofs.BuiltInChains
import SymbolResolver.Proofs.CachedAnswers
import SymbolResolver.Proofs.Foretold
import SymbolResolver.Proofs.Forecasts
import SymbolResolver.Proofs.CachedSnapshots
import SymbolResolver.Proofs.Graphs
import SymbolResolver.Proofs.Ledgers
import SymbolResolver.Proofs.SharedSources
import SymbolResolver.Proofs.NestedChains
import SymbolResolver.Proofs.Segments
import SymbolResolver.Proofs.Precedence
import SymbolResolver.Proofs.Documents
import SymbolResolver.Proofs.Codecs
import SymbolResolver.Proofs.RetainedEntries
import SymbolResolver.Proofs.ReportedFailures
import SymbolResolver.Proofs.DeclarationSets
import SymbolResolver.Proofs.TrimmedNames
import SymbolResolver.Proofs.DottedNames
import SymbolResolver.Proofs.TrimmedAnswers
import SymbolResolver.Proofs.NameEquality
import SymbolResolver.Proofs.ResourceNames
import SymbolResolver.Proofs.DeclaredNames
import SymbolResolver.Proofs.FoundDeclarations
import SymbolResolver.Proofs.Decisions
import SymbolResolver.Proofs.Materialization
import SymbolResolver.Proofs.Reachability
import SymbolResolver.Proofs.Ownership
import SymbolResolver.Proofs.Standstills
import SymbolResolver.Proofs.Cancellation
import SymbolResolver.Proofs.Membership
import SymbolResolver.Proofs.FirstMatches
import SymbolResolver.Proofs.DeclarationLookups
import SymbolResolver.Proofs.PackageHints
import SymbolResolver.Proofs.BlankReferences
import SymbolResolver.Proofs.CapturedAliases
import SymbolResolver.Proofs.Evolutions
import SymbolResolver.Proofs.Prospects
import SymbolResolver.Proofs.Views
import SymbolResolver.Proofs.UnionLaws
import SymbolResolver.Proofs.Footprints
import SymbolResolver.Proofs.PulledSources
import SymbolResolver.Proofs.PassedRequests
import SymbolResolver.Proofs.OrderedReads
import SymbolResolver.Proofs.RepeatedStages
import SymbolResolver.Proofs.SharedLookups
import SymbolResolver.Proofs.Batches
import SymbolResolver.Proofs.EmptyAnswers
import SymbolResolver.Proofs.GeneratedNames
import SymbolResolver.Proofs.Accessors
import SymbolResolver.Proofs.FilePaths
import SymbolResolver.Proofs.SavedConfigs
import SymbolResolver.Proofs.EnclosingNames
import SymbolResolver.Proofs.SegmentContainment
import SymbolResolver.Proofs.FirstSegments
import SymbolResolver.Proofs.SnapshotListings
import SymbolResolver.Proofs.PackageNames
import SymbolResolver.Proofs.Identifiers
