/-
The runtime configuration.

The control plane hands over listeners, telemetry, upstreams and routes with
every option decided. Of a route the router reads the matcher; the rest is its
policy.
-/

import Pavis.Config.Upstream
import Pavis.Routing.Predicates

namespace Pavis.Config

open ByteText

inductive WorkerCount where
  | auto
  | count (workers : NonZeroU16)
  deriving DecidableEq

inductive ClientAuth where
  | disabled
  | optional (caPath : Text)
  | required (caPath : Text)
  deriving DecidableEq

inductive TlsConfig where
  | disabled
  | enabled (certPath keyPath : Text) (clientAuth : ClientAuth)
  deriving DecidableEq

structure Listener where
  name : Text
  address : SocketAddr
  workers : WorkerCount
  tls : TlsConfig
  deriving DecidableEq

inductive LogLevel where
  | error
  | warn
  | info
  | debug
  | trace
  deriving DecidableEq

inductive AccessLogPolicy where
  | disabled
  | stdout
  | file (path : Text)
  deriving DecidableEq

inductive TracingProvider where
  | otlp
  | jaeger
  | zipkin
  deriving DecidableEq

inductive TracingPolicy where
  | disabled
  | enabled (provider : TracingProvider) (sampling : Nat) (endpoint : Text)
  deriving DecidableEq

inductive Metrics where
  | disabled
  | enabled (addr : SocketAddr)
  deriving DecidableEq

structure Telemetry where
  level : LogLevel
  pingora : LogLevel
  serviceName : Text
  metrics : Metrics
  accessLog : AccessLogPolicy
  tracing : TracingPolicy
  deriving DecidableEq

inductive TryTimeout where
  | inherit
  | disabled
  | enabled (duration : Duration)
  deriving DecidableEq

inductive BackoffStrategy where
  | fixed (baseMs : Nat)
  | linear (baseMs : Nat)
  | exponential (baseMs maxMs : Nat)
  deriving DecidableEq

inductive RetryReason where
  | statusCode
  | connectTimeout
  | readTimeout
  | perTryTimeout
  | poolFull
  | connectError
  deriving DecidableEq

structure RetryableStatusCodes where
  codes : List Nat
  deriving DecidableEq

structure RetrySettings where
  maxAttempts : NonZeroU16
  perTry : TryTimeout
  retryableReasons : List RetryReason
  retryableStatusCodes : Option RetryableStatusCodes
  backoff : BackoffStrategy
  retryNonIdempotent : Bool
  failOnNonReplayableRetry : Bool
  maxRequestBodyBufferBytes : Nat
  deriving DecidableEq

inductive RetryPolicy where
  | disabled
  | enabled (settings : RetrySettings)
  deriving DecidableEq

structure Headers where
  setHeaders : List (Text × Text)
  appendHeaders : List (Text × Text)
  addHeaders : List (Text × Text)
  removeHeaders : List Text
  deriving DecidableEq

inductive HeadersPolicy where
  | disabled
  | enabled (rules : Headers)
  deriving DecidableEq

/-- A prefix that was matched is replaced. -/
inductive RewritePath where
  | disabled
  | prefixed (source target : Text)
  deriving DecidableEq

inductive RewriteHost where
  | disabled
  | literal (host : Text)
  deriving DecidableEq

structure Rewrite where
  path : RewritePath
  host : RewriteHost
  deriving DecidableEq

structure Destination where
  upstream : Text
  weight : Weight
  deriving DecidableEq

inductive RouteAction where
  | forward (destinations : List Destination)
  | redirect (status : Nat) (location : Text)
  | direct (status : Nat) (body : Text)
  deriving DecidableEq

inductive Principal where
  | any
  | authenticated (spiffe : Text)
  | prefixed (start : Text)
  deriving DecidableEq

structure RoutePolicy where
  timeout : Timeout
  retry : RetryPolicy
  requestHeaders : HeadersPolicy
  responseHeaders : HeadersPolicy
  rewrite : Rewrite
  action : RouteAction
  principal : Principal
  deriving DecidableEq

abbrev Route := Routing.Route RoutePolicy

abbrev VirtualHost := Routing.VirtualHost RoutePolicy

inductive ShutdownPolicy where
  | disabled
  | enabled (drainTimeout : Duration)
  deriving DecidableEq

inductive AdminConfig where
  | disabled
  | enabled (addr : SocketAddr)
  deriving DecidableEq

structure RegexLimits extends Routing.RegexLimits where
  patternMaxBytes : Nat
  sizeLimitBytes : Nat
  maxRegexPerRoute : Nat
  maxRegexPerConfig : Nat
  deriving DecidableEq

def RegexLimits.default : RegexLimits :=
  { patternMaxBytes := 256
    sizeLimitBytes := 10 * 1024 * 1024
    inputMaxBytes := 4096
    maxRegexPerRoute := 10
    maxRegexPerConfig := 100 }

structure RoutingFeatures where
  advancedMatchers : Bool
  regexLimits : RegexLimits
  deriving DecidableEq

def RoutingFeatures.default : RoutingFeatures :=
  { advancedMatchers := false, regexLimits := .default }

structure RuntimeConfig where
  listeners : List Listener
  telemetry : Telemetry
  upstreams : List Upstream
  routes : List VirtualHost
  shutdown : ShutdownPolicy
  admin : AdminConfig
  features : RoutingFeatures
  requiredCapabilities : List Text
  deriving DecidableEq

def RuntimeConfig.HasRoute (config : RuntimeConfig) (route : Route) : Prop :=
  ∃ vhost ∈ config.routes, route ∈ vhost.paths

def RouteAction.destinations : RouteAction → List Destination
  | .forward destinations => destinations
  | .redirect _ _ => []
  | .direct _ _ => []

end Pavis.Config
