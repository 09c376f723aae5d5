/-
The document a user writes.

Every option may be missing. Durations are those of the standard library, in
nanoseconds; the runtime keeps whole milliseconds. Of a failed conversion the
text, the field path and the constraint are kept.
-/

import Pavis.Config.Address
import Pavis.Config.Runtime

namespace Pavis.Codec

open ByteText
open Config (AccessLogPolicy Discovery HttpVersion LoadBalancer)

structure StdDuration where
  nanos : Nat
  deriving DecidableEq

def StdDuration.asMillis (duration : StdDuration) : Nat := duration.nanos / 1000000

def StdDuration.fromMillis (millis : Nat) : StdDuration := { nanos := millis * 1000000 }

def StdDuration.fromSecs (secs : Nat) : StdDuration := { nanos := secs * 1000000000 }

theorem StdDuration.asMillis_fromMillis (millis : Nat) : (fromMillis millis).asMillis = millis :=
  Nat.mul_div_cancel millis (by decide)

inductive ClientAuthConfig where
  | disabled
  | optional (caPath : Text)
  | required (caPath : Text)
  deriving DecidableEq

structure TlsConfig where
  certPath : Option Text
  keyPath : Option Text
  clientAuth : Option ClientAuthConfig
  deriving DecidableEq

structure Listener where
  name : Text
  address : Text
  workers : Option Nat
  tls : Option TlsConfig
  deriving DecidableEq

structure TracingConfig where
  provider : Option Text
  sampling : Option Nat
  endpoint : Option Text
  deriving DecidableEq

structure TelemetryConfig where
  level : Option Text := none
  pingora : Option Text := none
  serviceName : Option Text := none
  metrics : Option Text := none
  accessLog : Option AccessLogPolicy := none
  tracing : Option TracingConfig := none
  deriving DecidableEq

structure ShutdownConfig where
  enabled : Option Bool := none
  drainTimeoutMs : Option Nat := none
  deriving DecidableEq

structure AdminConfig where
  enabled : Option Bool := none
  address : Option Text := none
  deriving DecidableEq

structure RegexLimits where
  patternMaxBytes : Option Nat := none
  sizeLimitBytes : Option Nat := none
  inputMaxBytes : Option Nat := none
  maxRegexPerRoute : Option Nat := none
  maxRegexPerConfig : Option Nat := none
  deriving DecidableEq

structure RoutingFeatureConfig where
  advancedMatchers : Bool := false
  regexLimits : RegexLimits := {}
  deriving DecidableEq

structure RoutingFeatures where
  routing : RoutingFeatureConfig := {}
  deriving DecidableEq

structure Endpoint where
  address : Text
  port : Nat
  weight : Option Nat
  deriving DecidableEq

structure ConnectionPoolConfig where
  idle : Option StdDuration
  connect : Option StdDuration
  max : Option Int
  queueCapacity : Option Int
  queueTimeoutMs : Option Int
  tcpKeepalive : Option StdDuration
  tcpNodelay : Option Bool
  recvBufferSize : Option Nat
  deriving DecidableEq

inductive SniMode where
  | auto
  | name
  | disabled
  deriving DecidableEq

inductive ClientCertChainMode where
  | none
  | embedded
  | file
  deriving DecidableEq

structure ClientCertConfig where
  certPath : Text
  keyPath : Text
  chainPath : Option Text
  chainMode : Option ClientCertChainMode
  deriving DecidableEq

structure UpstreamTlsConfig where
  enabled : Option Bool
  verifyHostname : Option Bool
  verifyCert : Option Bool
  sni : Option Text
  sniMode : Option SniMode
  canonicalSni : Option Text
  reuseAcrossSni : Option Bool
  caBundlePath : Option Text
  cert : Option ClientCertConfig
  deriving DecidableEq

structure CircuitBreaker where
  maxConnections : Nat
  maxPendingRequests : Nat
  maxRetries : Option Nat
  deriving DecidableEq

structure OutlierDetection where
  consecutiveErrors : Nat
  ejectDuration : StdDuration
  deriving DecidableEq

structure HealthCheck where
  path : Text
  interval : StdDuration
  timeout : Option StdDuration
  healthyThreshold : Nat
  unhealthyThreshold : Nat
  deriving DecidableEq

structure Upstream where
  id : Option Nat
  name : Text
  discovery : Option Discovery
  balancer : Option LoadBalancer
  protocol : Option HttpVersion
  pool : Option ConnectionPoolConfig
  tls : Option UpstreamTlsConfig
  circuitBreaker : Option CircuitBreaker
  outlierDetection : Option OutlierDetection
  healthCheck : Option HealthCheck
  endpoints : List Endpoint
  deriving DecidableEq

/-! ### Routes -/

inductive PathMatcher where
  | prefixed (path : Text)
  | exact (path : Text)
  | regex (path : Text)
  deriving DecidableEq

/-- A header predicate with one constructor for each way to match. -/
inductive HeaderMatcherDTO where
  | exact (name expected : Text)
  | prefixed (name expected : Text)
  | regex (name pattern : Text)
  | present (name : Text)
  | absent (name : Text)
  deriving DecidableEq

structure HeaderPredicateLegacy where
  name : Text
  value : Option Text
  regex : Bool
  prefixed : Bool
  absent : Bool
  deriving DecidableEq

inductive HeaderPredicate where
  | v2 (matcher : HeaderMatcherDTO)
  | v1 (legacy : HeaderPredicateLegacy)
  deriving DecidableEq

structure Matcher where
  path : PathMatcher
  method : Option Text
  methods : Option (List Text)
  headers : Option (List HeaderPredicate)
  deriving DecidableEq

inductive BackoffStrategyDTO where
  | fixed (baseMs : Nat)
  | linear (baseMs : Nat)
  | exponential (baseMs maxMs : Nat)
  deriving DecidableEq

structure RetryPolicy where
  maxAttempts : Nat
  retryableReasons : List Text
  retryableStatusCodes : Option (List Nat)
  backoff : BackoffStrategyDTO
  retryNonIdempotent : Bool
  failOnNonReplayableRetry : Bool
  maxRequestBodyBufferBytes : Nat
  perTry : Option StdDuration
  deriving DecidableEq

structure HeaderOperations where
  setHeaders : List (Text × Text)
  appendHeaders : List (Text × Text)
  addHeaders : List (Text × Text)
  removeHeaders : List Text
  deriving DecidableEq

structure RewritePolicy where
  path : Option Text
  host : Option Text
  deriving DecidableEq

structure WeightedDestination where
  upstream : Text
  weight : Nat
  deriving DecidableEq

inductive RouteAction where
  | forward (destinations : List WeightedDestination)
  | redirect (status : Nat) (location : Text)
  | direct (status : Nat) (body : Text)
  deriving DecidableEq

inductive PrincipalConfig where
  | any
  | authenticated (spiffe : Text)
  | prefixed (start : Text)
  deriving DecidableEq

structure Route where
  matcher : Option Matcher
  timeout : Option StdDuration
  retry : Option RetryPolicy
  requestHeaders : Option HeaderOperations
  responseHeaders : Option HeaderOperations
  rewrite : Option RewritePolicy
  action : RouteAction
  principal : Option PrincipalConfig
  deriving DecidableEq

structure VirtualHost where
  host : Text
  paths : List Route
  deriving DecidableEq

structure SerdeConfig where
  listeners : Option (List Listener)
  telemetry : Option TelemetryConfig
  upstreams : Option (List Upstream)
  routes : Option (List VirtualHost)
  shutdown : Option ShutdownConfig
  admin : Option AdminConfig
  features : Option RoutingFeatures
  deriving DecidableEq

structure StructurallyConfig where
  listeners : List Listener
  telemetry : TelemetryConfig
  upstreams : List Upstream
  routes : List VirtualHost
  shutdown : ShutdownConfig
  admin : AdminConfig
  features : RoutingFeatures
  deriving DecidableEq

def structural (src : SerdeConfig) : StructurallyConfig :=
  { listeners := src.listeners.getD []
    telemetry := src.telemetry.getD {}
    upstreams := src.upstreams.getD []
    routes := src.routes.getD []
    shutdown := src.shutdown.getD {}
    admin := src.admin.getD {}
    features := src.features.getD {} }

inductive BuilderError where
  | missingListeners
  deriving DecidableEq

/-- An error of the conversion: a message, a message about a failed step, a
configuration error with its field, or what the builder reports. -/
inductive ConvertError where
  | message (text : Text)
  | context (text cause : Text)
  | invalidConfig (text fieldPath constraint : Text)
  | builder (failure : BuilderError)
  deriving DecidableEq

abbrev Result (α : Type) := Except ConvertError α

/-- How a failed conversion to a smaller integer is displayed. -/
def tryFromIntError : Text := literal "out of range integral type conversion attempted"

def invalidIpSyntax : Text := literal "invalid IP address syntax"

def invalidSocketSyntax : Text := literal "invalid socket address syntax"

def FieldPath.field (path : Text) (name : String) : Text := path ++ literal "." ++ literal name

def FieldPath.index (path : Text) (index : Nat) : Text :=
  path ++ literal "[" ++ Config.decimal index ++ literal "]"

def quote : UInt8 := 34

def backslash : UInt8 := 92

/-- Quotes and backslashes of a key are escaped. -/
def FieldPath.mapKey (path key : Text) : Text :=
  path ++ literal "[" ++ [quote] ++
    key.flatMap (fun byte =>
      if byte = quote ∨ byte = backslash then [backslash, byte] else [byte]) ++
    [quote] ++ literal "]"

/-- Lowercase as far as the result can be ASCII: beside the capital letters that is the
Kelvin sign. Other characters outside ASCII stay outside it and are left alone. -/
def toLowercase : Text → Text
  | 0xE2 :: 0x84 :: 0xAA :: rest => ascii 'k' :: toLowercase rest
  | byte :: rest => toAsciiLowercase byte :: toLowercase rest
  | [] => []

def toAsciiUppercase (byte : UInt8) : UInt8 :=
  if 97 ≤ byte ∧ byte ≤ 122 then byte - 32 else byte

/-- Uppercase as far as the result can be ASCII: beside the small letters those are the
dotless i, the long s, the sharp s and the ligatures. -/
def toUppercase : Text → Text
  | 0xC4 :: 0xB1 :: rest => ascii 'I' :: toUppercase rest
  | 0xC5 :: 0xBF :: rest => ascii 'S' :: toUppercase rest
  | 0xC3 :: 0x9F :: rest => literal "SS" ++ toUppercase rest
  | 0xEF :: 0xAC :: 0x80 :: rest => literal "FF" ++ toUppercase rest
  | 0xEF :: 0xAC :: 0x81 :: rest => literal "FI" ++ toUppercase rest
  | 0xEF :: 0xAC :: 0x82 :: rest => literal "FL" ++ toUppercase rest
  | 0xEF :: 0xAC :: 0x83 :: rest => literal "FFI" ++ toUppercase rest
  | 0xEF :: 0xAC :: 0x84 :: rest => literal "FFL" ++ toUppercase rest
  | 0xEF :: 0xAC :: 0x85 :: rest => literal "ST" ++ toUppercase rest
  | 0xEF :: 0xAC :: 0x86 :: rest => literal "ST" ++ toUppercase rest
  | byte :: rest => toAsciiUppercase byte :: toUppercase rest
  | [] => []

example : toUppercase (literal "po" ++ [0xC5, 0xBF] ++ literal "t") = literal "POST" := by decide

end Pavis.Codec
