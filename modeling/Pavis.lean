import Pavis.Agent.VersionBlindness
import Pavis.Agent.DisposedFetch
import Pavis.Relay.PublishSystem
import Pavis.Relay.HistoryNames
import Pavis.Relay.LongPollRuns
import Pavis.Relay.ArtifactLookup
import Pavis.Protocol.Delivery
import Pavis.Routing.IrredundantTree
import Pavis.Routing.PredicateCost
import Pavis.Config.DuplicateRoutes
import Pavis.Upstream.StatusTransfer
import Pavis.Upstream.RoundRobin
import Pavis.Upstream.StartupResolution
import Pavis.Upstream.PoolLimiter
import Pavis.Upstream.CircuitBreaker
import Pavis.Upstream.EjectionLaw
import Pavis.Relay.Pipeline
import Pavis.Ingest.FileWatch
import Pavis.Codec.RetryConversion
import Pavis.Codec.PredicateTrees
import Pavis.Codec.CrossField
import Pavis.Codec.PatternLimit
import Pavis.State.HeaderPatterns
import Pavis.Proxy.ProbeUrl
import Pavis.Proxy.HeaderOps
import Pavis.Proxy.PathRewrite
import Pavis.Proxy.RetryBudget
import Pavis.Proxy.SnapshotRuns
import Pavis.Proxy.BodyBuffering
import Pavis.Proxy.TrafficSplit
import Pavis.Proxy.RequestId
import Pavis.Proxy.Backoff
import Pavis.Proxy.MethodTokens
import Pavis.Telemetry.RecentKeys
