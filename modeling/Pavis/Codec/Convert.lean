/-
Documents and runtime configurations.

A document is completed in shape and then converted part by part; the first
failure is the result. The capabilities a configuration requires follow from its
routes.
-/

import Pavis.Codec.RoutesExport

namespace Pavis.Codec

open ByteText Fallible
open Config (ClientAuth LogLevel Metrics RuntimeConfig ShutdownPolicy SocketAddr Telemetry
  TracingPolicy TracingProvider WorkerCount)
open Routing (HeaderMatch RegexEngine wordEngine)

def workersToRuntime : Option Nat → Result WorkerCount
  | none => .ok .auto
  | some count => do
    let count ← nonZero 16 count (.message (literal "workers must be > 0"))
    return .count count

def clientAuthToRuntime : Option ClientAuthConfig → ClientAuth
  | none => .disabled
  | some .disabled => .disabled
  | some (.optional caPath) => .optional caPath
  | some (.required caPath) => .required caPath

def listenerTlsToRuntime : Option TlsConfig → Result Config.TlsConfig
  | none => .ok .disabled
  | some tls =>
    match tls.certPath, tls.keyPath with
    | none, _ => .error (.message (literal "tls.cert_path is required when tls is set"))
    | some _, none => .error (.message (literal "tls.key_path is required when tls is set"))
    | some cert, some key => .ok (.enabled cert key (clientAuthToRuntime tls.clientAuth))

def parseSocketAddr (text : Text) (failure : ConvertError) : Result SocketAddr :=
  match SocketAddr.parse text with
  | some address => .ok address
  | none => .error failure

def listenerToRuntime (listener : Listener) : Result Config.Listener := do
  let address ← parseSocketAddr listener.address
    (.context (literal "Invalid address") invalidSocketSyntax)
  let workers ← workersToRuntime listener.workers
  let tls ← listenerTlsToRuntime listener.tls
  return { name := listener.name, address := address, workers := workers, tls := tls }

def workersFromRuntime : WorkerCount → Option Nat
  | .auto => none
  | .count count => some count.value

def clientAuthFromRuntime : ClientAuth → Option ClientAuthConfig
  | .disabled => none
  | .optional caPath => some (.optional caPath)
  | .required caPath => some (.required caPath)

def listenerTlsFromRuntime : Config.TlsConfig → Option TlsConfig
  | .disabled => none
  | .enabled certPath keyPath clientAuth =>
    some
      { certPath := some certPath
        keyPath := some keyPath
        clientAuth := clientAuthFromRuntime clientAuth }

def listenerFromRuntime (listener : Config.Listener) : Listener :=
  { name := listener.name
    address := listener.address.display
    workers := workersFromRuntime listener.workers
    tls := listenerTlsFromRuntime listener.tls }

def levelTable : List (Text × LogLevel) :=
  [(literal "error", .error), (literal "warn", .warn), (literal "info", .info),
    (literal "debug", .debug), (literal "trace", .trace)]

def parseLogLevel (level : Option Text) : Option LogLevel :=
  level.bind fun level => levelTable.lookup (toLowercase level)

/-- An unknown provider is the default one. -/
def providerToRuntime (provider : Option Text) : TracingProvider :=
  let provider := toLowercase (provider.getD (literal "otlp"))
  if provider = literal "otlp" then .otlp
  else if provider = literal "jaeger" then .jaeger
  else if provider = literal "zipkin" then .zipkin
  else .otlp

def metricsToRuntime : Option Text → Result Metrics
  | none => .ok .disabled
  | some addr => do
    let addr ← parseSocketAddr addr
      (.message (literal "metrics must be a socket address (host:port): " ++
        invalidSocketSyntax))
    return .enabled addr

def tracingToRuntime : Option TracingConfig → TracingPolicy
  | none => .disabled
  | some tracing =>
    .enabled (providerToRuntime tracing.provider) (tracing.sampling.getD 100)
      (tracing.endpoint.getD (literal "http://localhost:4317"))

def telemetryToRuntime (telemetry : TelemetryConfig) : Result Telemetry := do
  let metrics ← metricsToRuntime telemetry.metrics
  return {
    level := (parseLogLevel telemetry.level).getD .info
    pingora := (parseLogLevel telemetry.pingora).getD .info
    serviceName := telemetry.serviceName.getD (literal "pavis")
    metrics := metrics
    accessLog := telemetry.accessLog.getD .stdout
    tracing := tracingToRuntime telemetry.tracing }

def logLevelToString : LogLevel → Text
  | .error => literal "error"
  | .warn => literal "warn"
  | .info => literal "info"
  | .debug => literal "debug"
  | .trace => literal "trace"

def providerFromRuntime : TracingProvider → Text
  | .otlp => literal "otlp"
  | .jaeger => literal "jaeger"
  | .zipkin => literal "zipkin"

def metricsFromRuntime : Metrics → Option Text
  | .disabled => none
  | .enabled addr => some addr.display

def tracingFromRuntime : TracingPolicy → Option TracingConfig
  | .disabled => none
  | .enabled provider sampling endpoint =>
    some
      { provider := some (providerFromRuntime provider)
        sampling := some sampling
        endpoint := some endpoint }

def telemetryFromRuntime (telemetry : Telemetry) : TelemetryConfig :=
  { level := some (logLevelToString telemetry.level)
    pingora := some (logLevelToString telemetry.pingora)
    serviceName := some telemetry.serviceName
    metrics := metricsFromRuntime telemetry.metrics
    accessLog := some telemetry.accessLog
    tracing := tracingFromRuntime telemetry.tracing }

def defaultShutdownEnabled : Bool := true

def defaultShutdownDrainTimeoutMs : Nat := 30000

def defaultAdminEnabled : Bool := false

def defaultAdminAddress : Text := literal "127.0.0.1:9901"

def shutdownToRuntime (shutdown : ShutdownConfig) : Result ShutdownPolicy :=
  if shutdown.enabled.getD defaultShutdownEnabled then do
    let drainTimeout ← nonZero 32 (shutdown.drainTimeoutMs.getD defaultShutdownDrainTimeoutMs)
      (.message (literal "drain_timeout_ms must be non-zero when shutdown is enabled"))
    return .enabled drainTimeout
  else .ok .disabled

def adminToRuntime (admin : AdminConfig) : Result Config.AdminConfig :=
  if admin.enabled.getD defaultAdminEnabled then do
    let text := admin.address.getD defaultAdminAddress
    let addr ← parseSocketAddr text
      (.context (literal "Invalid admin address: " ++ text) invalidSocketSyntax)
    return .enabled addr
  else .ok .disabled

def shutdownFromRuntime : ShutdownPolicy → ShutdownConfig
  | .disabled => { enabled := some false, drainTimeoutMs := none }
  | .enabled drainTimeout => { enabled := some true, drainTimeoutMs := some drainTimeout.value }

def adminFromRuntime : Config.AdminConfig → AdminConfig
  | .disabled => { enabled := some false, address := none }
  | .enabled addr => { enabled := some true, address := some addr.display }

def featuresToRuntime (features : RoutingFeatures) : Config.RoutingFeatures :=
  let limits := features.routing.regexLimits
  let defaults := Config.RegexLimits.default
  { advancedMatchers := features.routing.advancedMatchers
    regexLimits :=
      { patternMaxBytes := limits.patternMaxBytes.getD defaults.patternMaxBytes
        sizeLimitBytes := limits.sizeLimitBytes.getD defaults.sizeLimitBytes
        inputMaxBytes := limits.inputMaxBytes.getD defaults.inputMaxBytes
        maxRegexPerRoute := limits.maxRegexPerRoute.getD defaults.maxRegexPerRoute
        maxRegexPerConfig := limits.maxRegexPerConfig.getD defaults.maxRegexPerConfig } }

def featuresFromRuntime (features : Config.RoutingFeatures) : RoutingFeatures :=
  { routing :=
      { advancedMatchers := features.advancedMatchers
        regexLimits :=
          { patternMaxBytes := some features.regexLimits.patternMaxBytes
            sizeLimitBytes := some features.regexLimits.sizeLimitBytes
            inputMaxBytes := some features.regexLimits.inputMaxBytes
            maxRegexPerRoute := some features.regexLimits.maxRegexPerRoute
            maxRegexPerConfig := some features.regexLimits.maxRegexPerConfig } } }

/-! ### Configurations -/

def isAdvancedMatch : HeaderMatch → Bool
  | .exact _ => false
  | .present => true
  | .prefixed _ => true
  | .regex _ => true
  | .absent => true

def hasAdvancedMatchers (routes : List Config.VirtualHost) : Bool :=
  routes.any fun vhost => vhost.paths.any fun route =>
    (match route.matcher.method with
      | .list _ => true
      | _ => false) ||
    (match route.matcher.headers with
      | .some predicates => predicates.any fun predicate => isAdvancedMatch predicate.matcher
      | .none => false)

def requiredCapabilities (routes : List Config.VirtualHost) : List Text :=
  if hasAdvancedMatchers routes then [literal "advanced_matchers"] else []

def StructurallyConfig.tryIntoRuntime (engine : RegexEngine) (src : StructurallyConfig) :
    Result RuntimeConfig := do
  let listeners ← src.listeners.mapM listenerToRuntime
  let telemetry ← telemetryToRuntime src.telemetry
  let upstreams ← upstreamsToRuntime src.upstreams
  let routes ← routesToRuntime engine src.routes
  let shutdown ← shutdownToRuntime src.shutdown
  let admin ← adminToRuntime src.admin
  reject (listeners = []) (.builder .missingListeners)
  return {
    listeners := listeners
    telemetry := telemetry
    upstreams := upstreams
    routes := routes
    shutdown := shutdown
    admin := admin
    features := featuresToRuntime src.features
    requiredCapabilities := requiredCapabilities routes }

def SerdeConfig.tryFromRuntime (binary : RuntimeConfig) : Result SerdeConfig := do
  let upstreams ← upstreamsFromRuntime binary.upstreams
  let routes ← routesFromRuntime binary.routes
  return {
    listeners := some (binary.listeners.map listenerFromRuntime)
    telemetry := some (telemetryFromRuntime binary.telemetry)
    upstreams := some upstreams
    routes := some routes
    shutdown := some (shutdownFromRuntime binary.shutdown)
    admin := some (adminFromRuntime binary.admin)
    features := some (featuresFromRuntime binary.features) }

theorem parseSocketAddr_again {text : Text} {failure other : ConvertError} {address : SocketAddr}
    (ran : parseSocketAddr text failure = .ok address) :
    parseSocketAddr address.display other = .ok address := by
  unfold parseSocketAddr at ran ⊢
  split at ran
  · rename_i parsed
    cases ran
    rw [SocketAddr.parse_display (SocketAddr.parse_wellFormed parsed)]
  · cases ran

private theorem workersToRuntime_fromRuntime (workers : WorkerCount) :
    workersToRuntime (workersFromRuntime workers) = .ok workers := by
  cases workers with
  | auto => rfl
  | count =>
    unfold workersToRuntime workersFromRuntime
    simp only [nonZero_value, ok_bind]
    rfl

private theorem clientAuthToRuntime_fromRuntime (clientAuth : ClientAuth) :
    clientAuthToRuntime (clientAuthFromRuntime clientAuth) = clientAuth := by
  cases clientAuth <;> rfl

private theorem listenerTlsToRuntime_fromRuntime (tls : Config.TlsConfig) :
    listenerTlsToRuntime (listenerTlsFromRuntime tls) = .ok tls := by
  cases tls with
  | disabled => rfl
  | enabled =>
    simp only [listenerTlsToRuntime, listenerTlsFromRuntime, clientAuthToRuntime_fromRuntime]

private theorem listenerToRuntime_again {listener : Listener} {result : Config.Listener}
    (ran : listenerToRuntime listener = .ok result) :
    listenerToRuntime (listenerFromRuntime result) = .ok result := by
  simp only [listenerToRuntime, bind_eq_ok] at ran
  obtain ⟨_, address, _, _, _, _, built⟩ := ran
  cases built
  unfold listenerToRuntime listenerFromRuntime
  simp only [parseSocketAddr_again address, workersToRuntime_fromRuntime,
    listenerTlsToRuntime_fromRuntime, ok_bind]
  rfl

private theorem parseLogLevel_logLevelToString (level : LogLevel) :
    parseLogLevel (some (logLevelToString level)) = some level := by
  cases level <;> decide

private theorem providerToRuntime_fromRuntime (provider : TracingProvider) :
    providerToRuntime (some (providerFromRuntime provider)) = provider := by
  cases provider <;> decide

private theorem metricsToRuntime_again {metrics : Option Text} {result : Metrics}
    (ran : metricsToRuntime metrics = .ok result) :
    metricsToRuntime (metricsFromRuntime result) = .ok result := by
  cases metrics with
  | none =>
    cases ran
    rfl
  | some =>
    obtain ⟨_, parsed, built⟩ := bind_eq_ok.mp ran
    cases built
    unfold metricsToRuntime metricsFromRuntime
    simp only [parseSocketAddr_again parsed, ok_bind]
    rfl

private theorem tracingToRuntime_fromRuntime (tracing : TracingPolicy) :
    tracingToRuntime (tracingFromRuntime tracing) = tracing := by
  cases tracing with
  | disabled => rfl
  | enabled =>
    simp only [tracingToRuntime, tracingFromRuntime, providerToRuntime_fromRuntime,
      Option.getD_some]

private theorem telemetryToRuntime_again {telemetry : TelemetryConfig} {result : Telemetry}
    (ran : telemetryToRuntime telemetry = .ok result) :
    telemetryToRuntime (telemetryFromRuntime result) = .ok result := by
  obtain ⟨_, metrics, built⟩ := bind_eq_ok.mp ran
  cases built
  unfold telemetryToRuntime telemetryFromRuntime
  simp only [metricsToRuntime_again metrics, ok_bind, parseLogLevel_logLevelToString,
    Option.getD_some, tracingToRuntime_fromRuntime]
  rfl

theorem shutdownToRuntime_fromRuntime (shutdown : ShutdownPolicy) :
    shutdownToRuntime (shutdownFromRuntime shutdown) = .ok shutdown := by
  cases shutdown with
  | disabled => rfl
  | enabled =>
    unfold shutdownToRuntime shutdownFromRuntime
    simp only [Option.getD_some, if_true, nonZero_value, ok_bind]
    rfl

private theorem adminToRuntime_again {admin : AdminConfig} {result : Config.AdminConfig}
    (ran : adminToRuntime admin = .ok result) :
    adminToRuntime (adminFromRuntime result) = .ok result := by
  unfold adminToRuntime at ran
  split at ran
  · obtain ⟨_, parsed, built⟩ := bind_eq_ok.mp ran
    cases built
    unfold adminToRuntime adminFromRuntime
    simp only [Option.getD_some, if_true, parseSocketAddr_again parsed, ok_bind]
    rfl
  · cases ran
    rfl

/-! ### Configurations convert back -/

structure ConvertedConfig (engine : RegexEngine) (src : StructurallyConfig)
    (config : RuntimeConfig) : Prop where
  listeners : src.listeners.mapM listenerToRuntime = .ok config.listeners
  telemetry : telemetryToRuntime src.telemetry = .ok config.telemetry
  upstreams : upstreamsToRuntime src.upstreams = .ok config.upstreams
  routes : routesToRuntime engine src.routes = .ok config.routes
  admin : adminToRuntime src.admin = .ok config.admin
  listening : config.listeners ≠ []
  capabilities : config.requiredCapabilities = requiredCapabilities config.routes

variable {engine : RegexEngine} {config : RuntimeConfig}

theorem StructurallyConfig.tryIntoRuntime_converted {src : StructurallyConfig}
    (ran : src.tryIntoRuntime engine = .ok config) : ConvertedConfig engine src config := by
  simp only [tryIntoRuntime, bind_eq_ok] at ran
  obtain ⟨_, listeners, _, telemetry, _, upstreams, _, routes, _, _, _, admin, _, listening, built⟩
    := ran
  cases built
  exact {
    listeners := listeners
    telemetry := telemetry
    upstreams := upstreams
    routes := routes
    admin := admin
    listening := reject_eq_ok.mp listening
    capabilities := rfl }

def exportedConfig (config : RuntimeConfig) : SerdeConfig :=
  { listeners := some (config.listeners.map listenerFromRuntime)
    telemetry := some (telemetryFromRuntime config.telemetry)
    upstreams := some (config.upstreams.map upstreamFromRuntime)
    routes := some (config.routes.map virtualHostFromRuntime)
    shutdown := some (shutdownFromRuntime config.shutdown)
    admin := some (adminFromRuntime config.admin)
    features := some (featuresFromRuntime config.features) }

theorem SerdeConfig.tryFromRuntime_eq (config : RuntimeConfig) :
    tryFromRuntime config = .ok (exportedConfig config) := rfl

private theorem exportedConfig_converts {src : StructurallyConfig}
    (converted : ConvertedConfig engine src config) :
    (structural (exportedConfig config)).tryIntoRuntime engine = .ok config := by
  have listeners := mapM_written
    (mapM_forall _ (fun _ _ _ ran => listenerToRuntime_again ran) converted.listeners)
  unfold StructurallyConfig.tryIntoRuntime structural exportedConfig
  simp only [Option.getD_some, listeners, telemetryToRuntime_again converted.telemetry,
    upstreamsToRuntime_again converted.upstreams, routesToRuntime_again converted.routes,
    shutdownToRuntime_fromRuntime, adminToRuntime_again converted.admin,
    reject_passes converted.listening, ok_bind, ← converted.capabilities]
  rfl

/-- A configuration that came from a document exports to a document that converts to the same
configuration. -/
theorem converted_config_export_lossless {engine : RegexEngine} {document : SerdeConfig}
    {config : RuntimeConfig}
    (converted : (structural document).tryIntoRuntime engine = .ok config) :
    ∃ exported, SerdeConfig.tryFromRuntime config = .ok exported ∧
      (structural exported).tryIntoRuntime engine = .ok config := by
  refine ⟨exportedConfig config, SerdeConfig.tryFromRuntime_eq config, ?_⟩
  exact exportedConfig_converts (StructurallyConfig.tryIntoRuntime_converted converted)

def publicListener : Listener :=
  { name := literal "public", address := literal "127.0.0.1:8080", workers := none, tls := none }

def forwardingRoute : Route :=
  { matcher := none
    timeout := none
    retry := none
    requestHeaders := none
    responseHeaders := none
    rewrite := none
    action := .forward [{ upstream := literal "api", weight := 1 }]
    principal := none }

def plainUpstream : Upstream :=
  { id := none
    name := literal "api"
    discovery := none
    balancer := none
    protocol := none
    pool := none
    tls := none
    circuitBreaker := none
    outlierDetection := none
    healthCheck := none
    endpoints := [{ address := literal "2001:db8::7", port := 8443, weight := none }] }

def documentOf (upstream : Upstream) (routes : List Route) : SerdeConfig :=
  { listeners := some [publicListener]
    telemetry := none
    upstreams := some [upstream]
    routes := some [{ host := literal "example.com", paths := routes }]
    shutdown := none
    admin := none
    features := none }

def securedUpstream : Upstream :=
  { plainUpstream with
    tls := some
      { enabled := none
        verifyHostname := some false
        verifyCert := none
        sni := some (literal "api.internal")
        sniMode := none
        canonicalSni := none
        reuseAcrossSni := some true
        caBundlePath := some (literal "/etc/ca.pem")
        cert := none }
    healthCheck := some
      { path := literal "/health"
        interval := .fromSecs 5
        timeout := none
        healthyThreshold := 1
        unhealthyThreshold := 1 } }

def matchingRoute : Route :=
  { forwardingRoute with
    matcher := some
      { path := .prefixed (literal "/v1")
        method := none
        methods := some [literal "get", literal "Post"]
        headers := some
          [.v1 { name := literal "X-Tenant", value := some (literal "blue"), regex := true,
                 prefixed := false, absent := false },
            .v2 (.prefixed (literal "Accept") (literal "text/"))] }
    timeout := some (.fromSecs 10)
    retry := some
      { maxAttempts := 3
        retryableReasons := [literal "status_code", literal "connect_error"]
        retryableStatusCodes := some [502, 503]
        backoff := .exponential 100 5000
        retryNonIdempotent := false
        failOnNonReplayableRetry := true
        maxRequestBodyBufferBytes := 1048576
        perTry := some (.fromSecs 2) }
    rewrite := some { path := some (literal "/"), host := none }
    principal := some (.prefixed (literal "spiffe://")) }

theorem converted_config_export_lossless_secured :
    ∃ config exported,
      (structural (documentOf securedUpstream [matchingRoute])).tryIntoRuntime wordEngine =
        .ok config ∧
      SerdeConfig.tryFromRuntime config = .ok exported ∧
      (structural exported).tryIntoRuntime wordEngine = .ok config := by
  obtain ⟨config, converted⟩ := exists_of_isOk
    (show ((structural (documentOf securedUpstream [matchingRoute])).tryIntoRuntime
      wordEngine).isOk = true by decide +kernel)
  obtain ⟨exported, written, again⟩ := converted_config_export_lossless converted
  exact ⟨config, exported, converted, written, again⟩

end Pavis.Codec
