import EndpointMonitor.Agent.Run
import EndpointMonitor.Agent.Wiring
import EndpointMonitor.Character.Age
import EndpointMonitor.Character.Case
import EndpointMonitor.Character.CaseFold
import EndpointMonitor.Character.Category
import EndpointMonitor.Character.CodeSet
import EndpointMonitor.Character.Composition
import EndpointMonitor.Character.Control
import EndpointMonitor.Character.Emoji
import EndpointMonitor.Character.Grapheme
import EndpointMonitor.Character.GraphemeBreak
import EndpointMonitor.Character.Identifier
import EndpointMonitor.Character.Letter
import EndpointMonitor.Character.Punctuation
import EndpointMonitor.Character.Runs
import EndpointMonitor.Character.Script
import EndpointMonitor.Character.ScriptExtension
import EndpointMonitor.Character.SentenceBreak
import EndpointMonitor.Character.WordBreak
import EndpointMonitor.CommandLine.Arguments
import EndpointMonitor.CommandLine.Startup
import EndpointMonitor.Delivery.Buffering
import EndpointMonitor.Delivery.DataPoint
import EndpointMonitor.Delivery.Document
import EndpointMonitor.Delivery.Payload
import EndpointMonitor.Delivery.Worker
import EndpointMonitor.Diagnostics
import EndpointMonitor.Endpoint.Basic
import EndpointMonitor.Endpoint.Conversation
import EndpointMonitor.Endpoint.InMemory
import EndpointMonitor.Endpoint.Snapshot
import EndpointMonitor.Http.Basic
import EndpointMonitor.Http.Jolokia
import EndpointMonitor.Http.ManagementApi
import EndpointMonitor.Http.Status
import EndpointMonitor.Json.Basic
import EndpointMonitor.Json.Parser
import EndpointMonitor.Json.Printer
import EndpointMonitor.Json.Record
import EndpointMonitor.Location.Basic
import EndpointMonitor.Location.Fault
import EndpointMonitor.Location.Listing
import EndpointMonitor.Location.ManagementAddress
import EndpointMonitor.Location.ObjectName
import EndpointMonitor.Location.PlatformPath
import EndpointMonitor.Location.Segment
import EndpointMonitor.Log
import EndpointMonitor.Main
import EndpointMonitor.Monitor.Measurement
import EndpointMonitor.Monitor.Operations
import EndpointMonitor.Monitor.Patch
import EndpointMonitor.Monitor.Profile
import EndpointMonitor.Monitor.Scan
import EndpointMonitor.Number.Radix
import EndpointMonitor.Number.Reading
import EndpointMonitor.Number.Saturating
import EndpointMonitor.Number.Shortest
import EndpointMonitor.Pattern.ByteSequence
import EndpointMonitor.Pattern.Expr
import EndpointMonitor.Pattern.Form
import EndpointMonitor.Pattern.Glob
import EndpointMonitor.Pattern.Meaning
import EndpointMonitor.Pattern.Property
import EndpointMonitor.Pattern.Regex
import EndpointMonitor.Pattern.Size
import EndpointMonitor.Pattern.Syntax
import EndpointMonitor.Pattern.SyntaxReader
import EndpointMonitor.Platform.HostTypes
import EndpointMonitor.Proofs.Agent.EndpointNames
import EndpointMonitor.Proofs.Delivery.Accounts
import EndpointMonitor.Proofs.Delivery.Batches
import EndpointMonitor.Proofs.Delivery.History
import EndpointMonitor.Proofs.Delivery.OrderedDelivery
import EndpointMonitor.Proofs.Delivery.Shutdown
import EndpointMonitor.Proofs.Delivery.Traffic
import EndpointMonitor.Proofs.Endpoint.SnapshotReads
import EndpointMonitor.Proofs.Endpoint.Steadiness
import EndpointMonitor.Proofs.Location.AddressReading
import EndpointMonitor.Proofs.Location.CanonicalTexts
import EndpointMonitor.Proofs.Location.Identities
import EndpointMonitor.Proofs.Location.KeyLists
import EndpointMonitor.Proofs.Location.ManagementAddresses
import EndpointMonitor.Proofs.Location.NameQueries
import EndpointMonitor.Proofs.Location.NameTemplates
import EndpointMonitor.Proofs.Location.Nesting
import EndpointMonitor.Proofs.Location.ObjectNames
import EndpointMonitor.Proofs.Location.PlatformPaths
import EndpointMonitor.Proofs.Location.PositionTokens
import EndpointMonitor.Proofs.Location.ValuePatterns
import EndpointMonitor.Proofs.Location.Wildcards
import EndpointMonitor.Proofs.Monitor.AvailBatches
import EndpointMonitor.Proofs.Monitor.BatchReads
import EndpointMonitor.Proofs.Monitor.CollectionRate
import EndpointMonitor.Proofs.Monitor.Conversations
import EndpointMonitor.Proofs.Monitor.Derivation
import EndpointMonitor.Proofs.Monitor.Discoveries
import EndpointMonitor.Proofs.Monitor.ExactDiff
import EndpointMonitor.Proofs.Monitor.FailedQueries
import EndpointMonitor.Proofs.Monitor.Findings
import EndpointMonitor.Proofs.Monitor.Histories
import EndpointMonitor.Proofs.Monitor.InstanceNames
import EndpointMonitor.Proofs.Monitor.MetricBatches
import EndpointMonitor.Proofs.Monitor.NestedScans
import EndpointMonitor.Proofs.Monitor.Openings
import EndpointMonitor.Proofs.Monitor.PatchEvents
import EndpointMonitor.Proofs.Monitor.Patches
import EndpointMonitor.Proofs.Monitor.Postponement
import EndpointMonitor.Proofs.Monitor.Rediscovery
import EndpointMonitor.Proofs.Monitor.ScanDepth
import EndpointMonitor.Proofs.Monitor.Scans
import EndpointMonitor.Proofs.Monitor.SharedMonitor
import EndpointMonitor.Proofs.Monitor.SharedService
import EndpointMonitor.Proofs.Monitor.Snapshots
import EndpointMonitor.Proofs.Monitor.Traces
import EndpointMonitor.Proofs.Pattern.ByteSpelling
import EndpointMonitor.Proofs.Pattern.ClassReading
import EndpointMonitor.Proofs.Pattern.EnclosedReading
import EndpointMonitor.Proofs.Pattern.EscapeReading
import EndpointMonitor.Proofs.Pattern.GlobReading
import EndpointMonitor.Proofs.Pattern.GlobSize
import EndpointMonitor.Proofs.Pattern.GroupReading
import EndpointMonitor.Proofs.Pattern.Matching
import EndpointMonitor.Proofs.Pattern.Pieces
import EndpointMonitor.Proofs.Pattern.PlainGlobs
import EndpointMonitor.Proofs.Pattern.ShortTexts
import EndpointMonitor.Proofs.Pattern.Spelling
import EndpointMonitor.Proofs.Readings
import EndpointMonitor.Proofs.Resource.Additions
import EndpointMonitor.Proofs.Resource.Calls
import EndpointMonitor.Proofs.Resource.ExactRemovals
import EndpointMonitor.Proofs.Resource.Forests
import EndpointMonitor.Proofs.Resource.Links
import EndpointMonitor.Proofs.Resource.Loops
import EndpointMonitor.Proofs.Resource.Observers
import EndpointMonitor.Proofs.Resource.Removals
import EndpointMonitor.Proofs.Resource.Replay
import EndpointMonitor.Proofs.Resource.Subtree
import EndpointMonitor.Proofs.Resource.Walks
import EndpointMonitor.Proofs.ResourceType.KeptTypes
import EndpointMonitor.Proofs.ResourceType.Levels
import EndpointMonitor.Proofs.ResourceType.Support
import EndpointMonitor.Proofs.Runs
import EndpointMonitor.Proofs.Schedule.Agenda
import EndpointMonitor.Proofs.Schedule.DueTimes
import EndpointMonitor.Proofs.Schedule.FirstScan
import EndpointMonitor.Proofs.Schedule.Growth
import EndpointMonitor.Proofs.Schedule.Iterations
import EndpointMonitor.Proofs.Schedule.Mirroring
import EndpointMonitor.Proofs.Schedule.Pacing
import EndpointMonitor.Proofs.Schedule.QueueIndexes
import EndpointMonitor.Proofs.Schedule.Refilling
import EndpointMonitor.Proofs.Schedule.Remnants
import EndpointMonitor.Proofs.Schedule.SharedEndpoint
import EndpointMonitor.Proofs.Schedule.StoppedEndpoint
import EndpointMonitor.Proofs.Settings.AcceptedSettings
import EndpointMonitor.Proofs.Settings.MeasurementNames
import EndpointMonitor.Proofs.Settings.ResourceIds
import EndpointMonitor.Proofs.Settings.UpPatterns
import EndpointMonitor.Proofs.Text.Encoding
import EndpointMonitor.Proofs.Text.Replacing
import EndpointMonitor.Proofs.Text.Trimming
import EndpointMonitor.Resource.Basic
import EndpointMonitor.Resource.Graph
import EndpointMonitor.Resource.Identity
import EndpointMonitor.Resource.Listing
import EndpointMonitor.ResourceType.Basic
import EndpointMonitor.ResourceType.Graph
import EndpointMonitor.ResourceType.Interval
import EndpointMonitor.Schedule.CollectionLoop
import EndpointMonitor.Schedule.CollectionQueue
import EndpointMonitor.Schedule.EndpointTask
import EndpointMonitor.Schedule.QueueKey
import EndpointMonitor.Schedule.Timeline
import EndpointMonitor.Settings.Decoding
import EndpointMonitor.Settings.Document
import EndpointMonitor.Settings.Fault
import EndpointMonitor.Settings.Schema
import EndpointMonitor.Settings.TypeSets
import EndpointMonitor.Settings.UpPattern
import EndpointMonitor.Settings.Validation
import EndpointMonitor.Text.Base64
import EndpointMonitor.Text.Blank
import EndpointMonitor.Text.Duration
import EndpointMonitor.Text.Letter
import EndpointMonitor.Text.Quoted
import EndpointMonitor.Text.Shown
import EndpointMonitor.Text.Split
import EndpointMonitor.Toml.Reader
import EndpointMonitor.Toml.Scalar
import EndpointMonitor.Toml.Table
import EndpointMonitor.Url.Basic
import EndpointMonitor.Url.Direction
import EndpointMonitor.Url.Domain
import EndpointMonitor.Url.Fault
import EndpointMonitor.Url.Joining
import EndpointMonitor.Url.NameMapping
import EndpointMonitor.Url.NumericHost
import EndpointMonitor.Url.Punycode
