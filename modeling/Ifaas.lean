import Ifaas.Library.Json
import Ifaas.Library.MergePatch
import Ifaas.Library.GoNumber
import Ifaas.Library.Program
import Ifaas.Library.Store
import Ifaas.Library.Unicode
import Ifaas.Api
import Ifaas.Conditions
import Ifaas.Translator
import Ifaas.ScaleDown
import Ifaas.Cluster
import Ifaas.ScaleDownGuard
import Ifaas.ServiceSwapper
import Ifaas.TrafficAdapter
import Ifaas.Restore
import Ifaas.Controller
import Ifaas.DeploymentWatcher
import Ifaas.Webhook
import Ifaas.Library.Ledger
import Ifaas.Frame
import Ifaas.Snapshot
import Ifaas.AdoptionLedger
import Ifaas.WriteAhead
import Ifaas.Takeover
import Ifaas.Replay
import Ifaas.Release
import Ifaas.ReleasePass
import Ifaas.Teardown
import Ifaas.RoundTrip
import Ifaas.TeardownOrder
import Ifaas.GuardVerdict
import Ifaas.Pipeline
import Ifaas.Users
import Ifaas.Tether
import Ifaas.Naming
import Ifaas.Library.Threads
import Ifaas.Library.History
import Ifaas.Library.Gauges
import Ifaas.Flusher
import Ifaas.Flusher.Inflight
import Ifaas.Flusher.Coalescing
import Ifaas.Flusher.LatestWins
import Ifaas.Flusher.Shutdown
import Ifaas.Readiness
import Ifaas.Course
import Ifaas.StaleReads
import Ifaas.Library.Interleave
import Ifaas.FlusherAdapter
import Ifaas.MinScaleFloor
import Ifaas.Library.Muting
import Ifaas.FlusherPath
import Ifaas.WatcherOwnership
import Ifaas.ReleaseRace
import Ifaas.Library.Traversal
import Ifaas.TrafficRewrite
import Ifaas.TrafficStored
import Ifaas.TrafficIsolation
import Ifaas.TrafficSubsets
import Ifaas.TrafficPorts
import Ifaas.SnapshotCodec
import Ifaas.ServiceRoundTrip
import Ifaas.TranslatedPods
import Ifaas.Admission
import Ifaas.TeardownOwnership
import Ifaas.TrafficMatching
import Ifaas.AnnotationContract
import Ifaas.Renewal
import Ifaas.StatusPatch
import Ifaas.GuardDegradation
import Ifaas.DegradedCauses
import Ifaas.RefusedSpecs
import Ifaas.Flusher.Failures
import Ifaas.Flusher.SinkOrder
import Ifaas.Flusher.Gauges
import Ifaas.Flusher.Progress
import Ifaas.Flusher.Delivery
import Ifaas.Library.Clock
import Ifaas.Flusher.Debounce
import Ifaas.Library.Calls
import Ifaas.Library.Settling
import Ifaas.Library.Watching
import Ifaas.Library.Isolation
import Ifaas.ConditionEdits
import Ifaas.SteadyPass
import Ifaas.Landing
import Ifaas.SteadyState
import Ifaas.Convergence
import Ifaas.Wakeups
import Ifaas.Truthful
import Ifaas.Footprint
import Ifaas.Isolation
import Ifaas.Bystanders
