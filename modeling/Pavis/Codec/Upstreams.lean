/-
Upstreams of a document and of the runtime.

The conversion fills in every default, checks each number against its width and
refuses settings of a TLS connection that contradict each other. The export
writes all options out.
-/

import Pavis.Codec.Types
import Pavis.Library.Fallible

namespace Pavis.Codec

open ByteText Fallible
open Config (ActiveHealthCheck CanonicalSni CircuitBreakerPolicy ClientCert ClientCertChain
  ConnectTimeout Discovery Duration EndpointAddr IdleTimeout IpAddr NonZero NonZeroU16 NonZeroU32
  OutlierDetectionPolicy Pool ReuseAcrossSni SniName Timeout TlsPolicy TlsSettings TlsVerify
  UpstreamCa)

def tryFrom (bits value : Nat) (failure : ConvertError) : Result Nat :=
  if value < 2 ^ bits then .ok value else .error failure

def nonZero (bits value : Nat) (failure : ConvertError) : Result (NonZero bits) :=
  match NonZero.new bits value with
  | some number => .ok number
  | none => .error failure

/-- A number that has to fit the width and must not be zero. -/
def required (bits value : Nat) (tooLarge zero : ConvertError) : Result (NonZero bits) := do
  let value ← tryFrom bits value tooLarge
  nonZero bits value zero

def defaultPoolMax : NonZeroU32 := .constant 128

def defaultPoolQueueCapacity : Nat := 0

def defaultPoolQueueTimeoutMs : Nat := 0

def defaultIdleTimeout : StdDuration := .fromSecs 60

def defaultConnectionTimeout : StdDuration := .fromSecs 5

def defaultPoolConfig : ConnectionPoolConfig :=
  { idle := some defaultIdleTimeout
    connect := some defaultConnectionTimeout
    max := none
    queueCapacity := none
    queueTimeoutMs := none
    tcpKeepalive := none
    tcpNodelay := none
    recvBufferSize := none }

/-- A duration of zero milliseconds turns a timeout off. -/
def durationToTimeout (tooLong : String) (duration : StdDuration) : Result Timeout := do
  let ms ← tryFrom 32 duration.asMillis (.message (literal tooLong))
  match NonZero.new 32 ms with
  | some ms => return .enabled ms
  | none => return .disabled

def durationToPolicy : StdDuration → Result IdleTimeout :=
  durationToTimeout "idle timeout exceeds u32::MAX ms"

def durationToConnect : StdDuration → Result ConnectTimeout :=
  durationToTimeout "connect timeout exceeds u32::MAX ms"

def durationToRequired (duration : StdDuration) (context : String) : Result Duration :=
  required 32 duration.asMillis
    (.message (literal context ++ literal " exceeds u32::MAX ms"))
    (.message (literal context ++ literal " must be > 0"))

def upstreamPoolFieldPath (index : Nat) (field : String) : Text :=
  FieldPath.field (FieldPath.field (FieldPath.index (literal "upstreams") index) "pool") field

def poolError (upstreamName : Text) (index : Nat) (field problem constraint : String) :
    ConvertError :=
  .invalidConfig
    (literal "upstream '" ++ upstreamName ++ literal "' pool." ++ literal field ++ literal problem)
    (upstreamPoolFieldPath index field) (literal constraint)

def materializePoolMax (value : Option Int) (upstreamName : Text) (index : Nat) :
    Result NonZeroU32 :=
  match value with
  | none => .ok defaultPoolMax
  | some width => do
    reject (width < 1) (poolError upstreamName index "max" " must be >= 1" "min_value=1")
    required 32 width.toNat
      (poolError upstreamName index "max" " exceeds u32::MAX" "max_value=u32::MAX")
      (poolError upstreamName index "max" " must be >= 1" "min_value=1")

def materializeQueueValue (value : Option Int) (default : Nat) (field : String)
    (upstreamName : Text) (index : Nat) : Result Nat :=
  match value with
  | none => .ok default
  | some raw => do
    reject (raw < 0) (poolError upstreamName index field " must be >= 0" "min_value=0")
    tryFrom 32 raw.toNat
      (poolError upstreamName index field " exceeds u32::MAX" "max_value=u32::MAX")

def durationToTcpKeepalive (duration : StdDuration) (upstreamName : Text) (index : Nat) :
    Result Duration :=
  required 32 duration.asMillis
    (poolError upstreamName index "tcp_keepalive" " exceeds u32::MAX ms"
      "max_value=u32::MAX milliseconds")
    (poolError upstreamName index "tcp_keepalive" " must be > 0" "min_value=1ms")

/-- Any size is accepted. -/
def validateRecvBufferSize (size : Nat) (_upstreamName : Text) (_index : Nat) : Result Nat :=
  .ok size

def convertSome {α β : Type} (convert : α → Result β) : Option α → Result (Option β)
  | none => .ok none
  | some value => do
    let value ← convert value
    return some value

def endpointAddrToRuntime (discovery : Discovery) (upstreamName : Text) (address : Text)
    (port : NonZeroU16) : Result EndpointAddr :=
  match discovery with
  | .static =>
    match IpAddr.parse address with
    | some ip => .ok (.ip ip port)
    | none =>
      .error (.context
        (literal "Invalid endpoint IP '" ++ address ++ literal "' for upstream '" ++
          upstreamName ++ literal "'")
        invalidIpSyntax)
  | .logical => .ok (.dns address port)
  | .strict _ => .ok (.dns address port)

def endpointToRuntime (discovery : Discovery) (upstreamName : Text) (endpoint : Endpoint) :
    Result Config.Endpoint := do
  let port ← nonZero 16 endpoint.port (.message (literal "endpoint port must be > 0"))
  let address ← endpointAddrToRuntime discovery upstreamName endpoint.address port
  let weight ← required 16 (endpoint.weight.getD 1)
    (.context (literal "endpoint weight exceeds u16::MAX") tryFromIntError)
    (.message (literal "endpoint weight must be > 0"))
  return { address := address, weight := weight }

def poolToRuntime (pool : ConnectionPoolConfig) (upstreamName : Text) (index : Nat) :
    Result Pool := do
  let idle ← durationToPolicy (pool.idle.getD defaultIdleTimeout)
  let connect ← durationToConnect (pool.connect.getD defaultConnectionTimeout)
  let max ← materializePoolMax pool.max upstreamName index
  let queueCapacity ← materializeQueueValue pool.queueCapacity defaultPoolQueueCapacity
    "queue_capacity" upstreamName index
  let queueTimeoutMs ← materializeQueueValue pool.queueTimeoutMs defaultPoolQueueTimeoutMs
    "queue_timeout_ms" upstreamName index
  let tcpKeepalive ← convertSome
    (fun duration => durationToTcpKeepalive duration upstreamName index) pool.tcpKeepalive
  let recvBufferSize ← convertSome
    (fun size => validateRecvBufferSize size upstreamName index) pool.recvBufferSize
  return {
    idle := idle
    connect := connect
    max := max
    queue := { capacity := queueCapacity, timeoutMs := queueTimeoutMs }
    tcpKeepalive := tcpKeepalive
    tcpNodelay := pool.tcpNodelay
    recvBufferSize := recvBufferSize }

def upstreamError (upstreamName : Text) (problem : String) : ConvertError :=
  .message (literal "upstream '" ++ upstreamName ++ literal "' " ++ literal problem)

def verifyToRuntime (verifyCert verifyHostname : Bool) : TlsVerify :=
  match verifyCert, verifyHostname with
  | false, _ => .disabled
  | true, false => .caOnly
  | true, true => .full

def sniToRuntime (upstreamName : Text) (mode : Option SniMode) (sni : Option Text) :
    Result SniName :=
  match mode, sni with
  | some .auto, some _ =>
    .error (upstreamError upstreamName "sets sni_mode=auto but also provides sni")
  | some .auto, none => .ok .auto
  | some .name, some name => .ok (.name name)
  | some .name, none => .error (upstreamError upstreamName "sets sni_mode=name without sni")
  | some .disabled, some _ =>
    .error (upstreamError upstreamName "sets sni_mode=disabled but also provides sni")
  | some .disabled, none => .ok .disabled
  | none, some name => .ok (.name name)
  | none, none => .ok .auto

/-- An optional text that must not be blank when it is there. -/
def writtenText {α : Type} (absent : α) (present : Text → α) (blank : ConvertError) :
    Option Text → Result α
  | none => .ok absent
  | some text => do
    reject (isBlank text) blank
    return present text

def canonicalSniToRuntime (upstreamName : Text) : Option Text → Result CanonicalSni :=
  writtenText .disabled .enabled (upstreamError upstreamName "canonical_sni cannot be empty")

def reuseToRuntime (reuseAcrossSni : Bool) : ReuseAcrossSni :=
  match reuseAcrossSni with
  | true => .enabled
  | false => .disabled

def caToRuntime (upstreamName : Text) : Option Text → Result UpstreamCa :=
  writtenText .system .file (upstreamError upstreamName "ca_bundle_path cannot be empty")

def chainToRuntime (upstreamName : Text) (mode : Option ClientCertChainMode)
    (path : Option Text) : Result ClientCertChain :=
  let written :=
    writtenText .none .file (upstreamError upstreamName "chain_path cannot be empty") path
  match mode, path with
  | none, _ => written
  | some .file, some _ => written
  | some .file, none =>
    .error (upstreamError upstreamName "chain_mode=file requires chain_path")
  | some .embedded, none => .ok .embedded
  | some .none, none => .ok .none
  | some .embedded, some _ =>
    .error (upstreamError upstreamName "chain_path is only valid with chain_mode=file")
  | some .none, some _ =>
    .error (upstreamError upstreamName "chain_path is only valid with chain_mode=file")

def certToRuntime (upstreamName : Text) : Option ClientCertConfig → Result ClientCert
  | none => .ok .disabled
  | some cert => do
    reject (isBlank cert.certPath || isBlank cert.keyPath)
      (upstreamError upstreamName "cert_path and key_path must be non-empty")
    let chain ← chainToRuntime upstreamName cert.chainMode cert.chainPath
    return .enabled cert.certPath cert.keyPath chain

def tlsSettingsToRuntime (upstreamName : Text) (tls : UpstreamTlsConfig) : Result TlsSettings := do
  let verify := verifyToRuntime (tls.verifyCert.getD true) (tls.verifyHostname.getD true)
  let sni ← sniToRuntime upstreamName tls.sniMode tls.sni
  reject (verify = .full ∧ sni = .disabled)
    (upstreamError upstreamName "verify=full requires sni=auto or sni=name")
  let canonicalSni ← canonicalSniToRuntime upstreamName tls.canonicalSni
  let reuseAcrossSni := reuseToRuntime (tls.reuseAcrossSni.getD false)
  reject (reuseAcrossSni = .enabled ∧ verify = .disabled)
    (upstreamError upstreamName "reuse_across_sni requires verify != disabled")
  let ca ← caToRuntime upstreamName tls.caBundlePath
  let cert ← certToRuntime upstreamName tls.cert
  return {
    verify := verify
    sni := sni
    canonicalSni := canonicalSni
    reuseAcrossSni := reuseAcrossSni
    cert := cert
    ca := ca }

def tlsToRuntime (upstreamName : Text) : Option UpstreamTlsConfig → Result TlsPolicy
  | none => .ok .disabled
  | some tls =>
    if tls.enabled.getD true then do
      let settings ← tlsSettingsToRuntime upstreamName tls
      return .enabled settings
    else .ok .disabled

def idToRuntime (id : Option Nat) (index : Nat) : Result NonZeroU16 :=
  match id with
  | some id => nonZero 16 id (.message (literal "upstream id must be > 0"))
  | none => nonZero 16 ((index + 1) % 2 ^ 16) (.message (literal "upstream id must be > 0"))

def countToRuntime (option : String) (value : Nat) : Result NonZeroU32 :=
  required 32 value
    (.context (literal option ++ literal " exceeds u32::MAX") tryFromIntError)
    (.message (literal option ++ literal " must be > 0"))

def outlierDetectionToRuntime : Option OutlierDetection → Result OutlierDetectionPolicy
  | none => .ok .disabled
  | some outlier => do
    let errors ← countToRuntime "outlier_detection.consecutive_errors" outlier.consecutiveErrors
    let ejectDuration ← durationToRequired outlier.ejectDuration
      "outlier_detection.eject_duration"
    return .enabled errors ejectDuration

def circuitBreakerToRuntime : Option CircuitBreaker → Result CircuitBreakerPolicy
  | none => .ok .disabled
  | some breaker => do
    reject (breaker.maxRetries.isSome)
      (.message (literal "circuit_breaker.max_retries is not supported"))
    let maxConnections ← countToRuntime "circuit_breaker.max_connections" breaker.maxConnections
    let maxPendingRequests ← countToRuntime "circuit_breaker.max_pending_requests"
      breaker.maxPendingRequests
    return .enabled maxConnections maxPendingRequests

/-- A check may take as long as the interval when nothing else is said. -/
def checkTimeoutToRuntime (interval : Duration) : Option StdDuration → Result Duration
  | some timeout => durationToRequired timeout "health_check.timeout"
  | none => .ok interval

def healthCheckToRuntime : Option HealthCheck → Result ActiveHealthCheck
  | none => .ok .disabled
  | some check => do
    reject (check.healthyThreshold ≠ 1 ∨ check.unhealthyThreshold ≠ 1)
      (.message (literal "health_check thresholds are not supported (must be 1)"))
    reject (isBlank check.path) (.message (literal "health_check.path cannot be empty"))
    let interval ← durationToRequired check.interval "health_check.interval"
    let timeout ← checkTimeoutToRuntime interval check.timeout
    reject (timeout.value > interval.value)
      (.message (literal "health_check.timeout must be <= health_check.interval"))
    return .enabled check.path interval timeout

def upstreamToRuntime (upstream : Upstream) (index : Nat) : Result Config.Upstream := do
  let discovery := upstream.discovery.getD .static
  let endpoints ← upstream.endpoints.mapM (endpointToRuntime discovery upstream.name)
  let pool ← poolToRuntime (upstream.pool.getD defaultPoolConfig) upstream.name index
  let tls ← tlsToRuntime upstream.name upstream.tls
  let id ← idToRuntime upstream.id index
  let outlierDetection ← outlierDetectionToRuntime upstream.outlierDetection
  let circuitBreaker ← circuitBreakerToRuntime upstream.circuitBreaker
  let healthCheck ← healthCheckToRuntime upstream.healthCheck
  return {
    id := id
    name := upstream.name
    discovery := discovery
    balancer := upstream.balancer.getD .random
    protocol := upstream.protocol.getD .h1
    pool := pool
    outlierDetection := outlierDetection
    circuitBreaker := circuitBreaker
    healthCheck := healthCheck
    tls := tls
    endpoints := endpoints }

def upstreamsToRuntime (upstreams : List Upstream) : Result (List Config.Upstream) :=
  upstreams.zipIdx.mapM fun entry => upstreamToRuntime entry.1 entry.2

/-! ### Export -/

def endpointFromRuntime (endpoint : Config.Endpoint) : Endpoint :=
  match endpoint.address with
  | .ip address port =>
    { address := address.display, port := port.value, weight := some endpoint.weight.value }
  | .dns host port =>
    { address := host, port := port.value, weight := some endpoint.weight.value }

def timeoutMs : Timeout → Nat
  | .disabled => 0
  | .enabled duration => duration.value

def poolFromRuntime (pool : Pool) : ConnectionPoolConfig :=
  { idle := some (.fromMillis (timeoutMs pool.idle))
    connect := some (.fromMillis (timeoutMs pool.connect))
    max := some pool.max.value
    queueCapacity := some pool.queue.capacity
    queueTimeoutMs := some pool.queue.timeoutMs
    tcpKeepalive := pool.tcpKeepalive.map fun duration => .fromMillis duration.value
    tcpNodelay := pool.tcpNodelay
    recvBufferSize := pool.recvBufferSize }

def verifyFromRuntime : TlsVerify → Bool × Bool
  | .disabled => (false, false)
  | .caOnly => (true, false)
  | .full => (true, true)

def sniFromRuntime : SniName → Option Text × Option SniMode
  | .auto => (none, some .auto)
  | .name name => (some name, some .name)
  | .disabled => (none, some .disabled)

def caFromRuntime : UpstreamCa → Option Text
  | .system => none
  | .file path => some path

def chainFromRuntime : ClientCertChain → Option ClientCertChainMode × Option Text
  | .none => (some .none, none)
  | .embedded => (some .embedded, none)
  | .file path => (some .file, some path)

def certFromRuntime : ClientCert → Option ClientCertConfig
  | .disabled => none
  | .enabled certPath keyPath chain =>
    some
      { certPath := certPath
        keyPath := keyPath
        chainPath := (chainFromRuntime chain).2
        chainMode := (chainFromRuntime chain).1 }

def canonicalSniFromRuntime : CanonicalSni → Option Text
  | .disabled => none
  | .enabled name => some name

def reuseFromRuntime : ReuseAcrossSni → Option Bool
  | .enabled => some true
  | .disabled => none

def tlsFromRuntime : TlsPolicy → Option UpstreamTlsConfig
  | .disabled => none
  | .enabled settings =>
    some
      { enabled := some true
        verifyHostname := some (verifyFromRuntime settings.verify).2
        verifyCert := some (verifyFromRuntime settings.verify).1
        sni := (sniFromRuntime settings.sni).1
        sniMode := (sniFromRuntime settings.sni).2
        canonicalSni := canonicalSniFromRuntime settings.canonicalSni
        reuseAcrossSni := reuseFromRuntime settings.reuseAcrossSni
        caBundlePath := caFromRuntime settings.ca
        cert := certFromRuntime settings.cert }

def circuitBreakerFromRuntime : CircuitBreakerPolicy → Option CircuitBreaker
  | .disabled => none
  | .enabled maxConnections maxPendingRequests =>
    some
      { maxConnections := maxConnections.value
        maxPendingRequests := maxPendingRequests.value
        maxRetries := none }

def outlierDetectionFromRuntime : OutlierDetectionPolicy → Option OutlierDetection
  | .disabled => none
  | .enabled consecutiveErrors ejectDuration =>
    some
      { consecutiveErrors := consecutiveErrors.value
        ejectDuration := .fromMillis ejectDuration.value }

def healthCheckFromRuntime : ActiveHealthCheck → Option HealthCheck
  | .disabled => none
  | .enabled path interval timeout =>
    some
      { path := path
        interval := .fromMillis interval.value
        timeout := some (.fromMillis timeout.value)
        healthyThreshold := 1
        unhealthyThreshold := 1 }

def upstreamFromRuntime (upstream : Config.Upstream) : Upstream :=
  { id := some upstream.id.value
    name := upstream.name
    discovery := some upstream.discovery
    balancer := some upstream.balancer
    protocol := some upstream.protocol
    pool := some (poolFromRuntime upstream.pool)
    tls := tlsFromRuntime upstream.tls
    circuitBreaker := circuitBreakerFromRuntime upstream.circuitBreaker
    outlierDetection := outlierDetectionFromRuntime upstream.outlierDetection
    healthCheck := healthCheckFromRuntime upstream.healthCheck
    endpoints := upstream.endpoints.map endpointFromRuntime }

def upstreamsFromRuntime (upstreams : List Config.Upstream) : Result (List Upstream) :=
  .ok (upstreams.map upstreamFromRuntime)

end Pavis.Codec
