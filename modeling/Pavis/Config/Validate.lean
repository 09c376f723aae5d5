/-
The core validation of a runtime configuration.

The first failure is the result.
Which of several upstreams is reported for a missing server name depends on the
order of a hash map in the source; here it is the order of the map. The text of
a pattern's compile error is left out.
-/

import Pavis.Config.Runtime
import Pavis.Library.Fallible
import Pavis.Library.KeyedMap

namespace Pavis.Config

open ByteText Fallible KeyedMap
open Routing (PathMatch RegexEngine)

inductive MatchType where
  | prefixed
  | exact
  | regex
  deriving DecidableEq

inductive CoreValidationError where
  | duplicateUpstream (name : Text)
  | duplicateListener (name : Text)
  | duplicateVirtualHost (host : Text)
  | emptyUpstreamName
  | unknownDestination (route host upstream : Text)
  | missingTlsFiles
  | upstreamTlsSniDisabled (name : Text)
  | upstreamTlsReuseAcrossSniRequiresVerify (name : Text)
  | upstreamTlsAutoSniRequiresDns (name : Text)
  | portConflict (port : Nat) (left right : Text)
  | invalidHealthCheckPath (name : Text)
  | healthCheckTimeoutExceedsInterval (name : Text)
  | invalidRegex (host route : Text)
  | emptyHeaderName (context : Text)
  | invalidHeaderName (context name : Text)
  | invalidHeaderValue (context name : Text)
  | duplicateRoute (host route : Text) (matchType : MatchType)
  | forwardHasNoDestinations (route host : Text)
  | rewriteRegexConflict (route host : Text)
  | pathNotNormalized (path : Text)
  | regexTooLong (route : Text)
  | regexCachePoisoned
  | unsupportedCapability (capability : Text)
  deriving DecidableEq

abbrev CoreValidationResult (α : Type) := Except CoreValidationError α

def validateTlsFiles (listener : Listener) : CoreValidationResult Unit :=
  match listener.tls with
  | .disabled => .ok ()
  | .enabled certPath keyPath clientAuth => do
    reject (certPath = [] ∨ keyPath = []) .missingTlsFiles
    match clientAuth with
    | .disabled => .ok ()
    | .optional caPath => reject (caPath = []) .missingTlsFiles
    | .required caPath => reject (caPath = []) .missingTlsFiles

def validateListener (names : List Text) (listener : Listener) :
    CoreValidationResult (List Text) := do
  reject (listener.name ∈ names) (.duplicateListener listener.name)
  validateTlsFiles listener
  return listener.name :: names

def validateVirtualHost (hosts : List Text) (vhost : VirtualHost) :
    CoreValidationResult (List Text) := do
  reject (vhost.host ∈ hosts) (.duplicateVirtualHost vhost.host)
  return vhost.host :: hosts

def validateHealthCheck (upstream : Upstream) : CoreValidationResult Unit :=
  match upstream.healthCheck with
  | .disabled => .ok ()
  | .enabled path interval timeout => do
    reject (path = [] ∨ startsWith path (literal "/") = false ∨ contains path (ascii ' ') = true)
      (.invalidHealthCheckPath upstream.name)
    reject (timeout.value > interval.value) (.healthCheckTimeoutExceedsInterval upstream.name)

def validateUpstreamTls (upstream : Upstream) : CoreValidationResult Unit :=
  match upstream.tls with
  | .disabled => .ok ()
  | .enabled settings => do
    reject (settings.verify = .full ∧ settings.sni = .disabled)
      (.upstreamTlsSniDisabled upstream.name)
    reject (settings.verify = .disabled ∧ settings.reuseAcrossSni = .enabled)
      (.upstreamTlsReuseAcrossSniRequiresVerify upstream.name)

def validateUpstream (names : List Text) (upstream : Upstream) :
    CoreValidationResult (List Text) := do
  reject (upstream.name = []) .emptyUpstreamName
  reject (upstream.name ∈ names) (.duplicateUpstream upstream.name)
  validateUpstreamTls upstream
  validateHealthCheck upstream
  return upstream.name :: names

def validateUpstreams (upstreams : List Upstream) : CoreValidationResult Unit := do
  let _ ← upstreams.foldlM validateUpstream []
  return ()

/-- The characters of an HTTP token. -/
def isTokenByte (byte : UInt8) : Bool :=
  isAsciiAlphanumeric byte || contains (literal "!#$%&'*+-.^_`|~") byte

def isHeaderName (name : Text) : Bool :=
  name != [] && decide (name.length ≤ 65535) && name.all isTokenByte

/-- Opaque bytes are allowed in a value, control characters are not. -/
def isValueByte (byte : UInt8) : Bool := (32 ≤ byte && byte != 127) || byte == 9

def isHeaderValue (value : Bytes) : Bool := value.all isValueByte

def validateHeaderName (context name : Text) : CoreValidationResult Unit := do
  reject (name = []) (.emptyHeaderName context)
  reject (isHeaderName name = false) (.invalidHeaderName context name)

def validatePair (context : Text) (header : Text × Text) : CoreValidationResult Unit := do
  validateHeaderName context header.1
  reject (isHeaderValue header.2 = false) (.invalidHeaderValue context header.1)

def validateHeaders (headers : HeadersPolicy) (context : Text) : CoreValidationResult Unit :=
  match headers with
  | .disabled => .ok ()
  | .enabled rules => do
    rules.setHeaders.forM (validatePair context)
    rules.appendHeaders.forM (validatePair context)
    rules.addHeaders.forM (validatePair context)
    rules.removeHeaders.forM (validateHeaderName context)

/-- The patterns that compiled before. A thread that panicked with the lock poisons
it until the next user clears it. -/
structure PatternCache (engine : RegexEngine) where
  patterns : List Text
  poisoned : Bool
  compiled : ∀ pattern ∈ patterns, engine.compiles pattern = true

def PatternCache.empty (engine : RegexEngine) : PatternCache engine :=
  { patterns := [], poisoned := false, compiled := fun _ member => (List.not_mem_nil member).elim }

def PatternCache.insert {engine : RegexEngine} (cache : PatternCache engine) {pattern : Text}
    (compiles : engine.compiles pattern = true) : PatternCache engine :=
  { cache with
    patterns := pattern :: cache.patterns
    compiled := List.forall_mem_cons.mpr ⟨compiles, cache.compiled⟩ }

section

variable {engine : RegexEngine}

def validateRegexWithCache (cache : PatternCache engine) (path host : Text) :
    CoreValidationResult (PatternCache engine) :=
  if cache.poisoned then .error .regexCachePoisoned
  else if path ∈ cache.patterns then .ok cache
  else if compiles : engine.compiles path = true then .ok (cache.insert compiles)
  else .error (.invalidRegex host path)

def matchKey : PathMatch → MatchType × Text
  | .prefixed path => (.prefixed, path)
  | .exact path => (.exact, path)
  | .regex path => (.regex, path)

def routePath (route : Route) : Text := (matchKey route.matcher.path).2

/-- Starts with a slash, and ends with one only when it is nothing else. -/
def IsNormalized (path : Text) : Prop :=
  startsWith path (literal "/") = true ∧
    ¬ (path.length > 1 ∧ endsWith path (literal "/") = true)

instance (path : Text) : Decidable (IsNormalized path) :=
  inferInstanceAs (Decidable (_ ∧ ¬ (_ ∧ _)))

def validateRegexRoute (cache : PatternCache engine) (host : Text) (route : Route) :
    CoreValidationResult (PatternCache engine) :=
  match route.matcher.path with
  | .prefixed _ => .ok cache
  | .exact _ => .ok cache
  | .regex path => do
    reject (path.length > 2048) (.regexTooLong path)
    let cache ← validateRegexWithCache cache path host
    reject (route.policy.rewrite.path ≠ .disabled) (.rewriteRegexConflict path host)
    return cache

def validateAction (upstreamNames : List Text) (host : Text) (route : Route) :
    CoreValidationResult Unit :=
  match route.policy.action with
  | .redirect _ _ => .ok ()
  | .direct _ _ => .ok ()
  | .forward destinations => do
    reject (destinations = []) (.forwardHasNoDestinations (routePath route) host)
    destinations.forM fun destination =>
      reject (destination.upstream ∉ upstreamNames)
        (.unknownDestination (routePath route) host destination.upstream)

/-- The routes seen under the host and the patterns known so far. -/
structure RouteScan (engine : RegexEngine) where
  seen : List (MatchType × Text)
  cache : PatternCache engine

def validateRoute (upstreamNames : List Text) (host : Text) (scan : RouteScan engine)
    (route : Route) : CoreValidationResult (RouteScan engine) := do
  let key := matchKey route.matcher.path
  reject (key.1 ≠ .regex ∧ ¬ IsNormalized key.2) (.pathNotNormalized key.2)
  reject (key ∈ scan.seen) (.duplicateRoute host key.2 key.1)
  let cache ← validateRegexRoute scan.cache host route
  validateHeaders route.policy.requestHeaders
    (literal "Route '" ++ key.2 ++ literal "' request headers")
  validateHeaders route.policy.responseHeaders
    (literal "Route '" ++ key.2 ++ literal "' response headers")
  validateAction upstreamNames host route
  return { seen := key :: scan.seen, cache := cache }

def validateHostRoutes (upstreamNames : List Text) (cache : PatternCache engine)
    (vhost : VirtualHost) : CoreValidationResult (PatternCache engine) := do
  let scan ← vhost.paths.foldlM (validateRoute upstreamNames vhost.host)
    { seen := [], cache := cache }
  return scan.cache

def validateRoutes (cache : PatternCache engine) (routes : List VirtualHost)
    (upstreams : List Upstream) : CoreValidationResult (PatternCache engine) :=
  routes.foldlM (validateHostRoutes (upstreams.map Upstream.name)) cache

end

structure OverrideState where
  referenced : Bool
  missingRewrite : Bool
  deriving DecidableEq

def Upstream.hasDns (upstream : Upstream) : Bool :=
  upstream.endpoints.any fun endpoint => endpoint.address.isDns

/-- The server name of a verified connection is left to the endpoints. -/
def Upstream.NeedsName (upstream : Upstream) (settings : TlsSettings) : Prop :=
  upstream.tls = .enabled settings ∧ settings.verify = .full ∧ settings.sni = .auto ∧
    settings.canonicalSni = .disabled

def noteOverride (needs : Map Text OverrideState) (upstream : Upstream) :
    CoreValidationResult (Map Text OverrideState) :=
  match upstream.tls with
  | .disabled => .ok needs
  | .enabled settings =>
    if settings.verify = .full ∧ settings.sni = .auto ∧ settings.canonicalSni = .disabled then
      if upstream.hasDns then .ok needs
      else if settings.reuseAcrossSni = .enabled then
        .error (.upstreamTlsAutoSniRequiresDns upstream.name)
      else .ok (needs.insert upstream.name { referenced := false, missingRewrite := false })
    else .ok needs

def forwardings (routes : List VirtualHost) : List (Sigma fun _ : Text => Bool) :=
  routes.flatMap fun vhost => vhost.paths.flatMap fun route =>
    route.policy.action.destinations.map fun destination =>
      ⟨destination.upstream, decide (route.policy.rewrite.host ≠ .disabled)⟩

def OverrideState.refer (state : OverrideState) (rewriteHost : Bool) : OverrideState :=
  { referenced := true, missingRewrite := state.missingRewrite || !rewriteHost }

def OverrideState.isReported (state : OverrideState) : Bool :=
  state.referenced && state.missingRewrite

def validateSniAutoRequiresDnsOrRewrite (routes : List VirtualHost) (upstreams : List Upstream) :
    CoreValidationResult Unit := do
  let needs ← upstreams.foldlM noteOverride ∅
  let needs := (forwardings routes).foldl (applyUpdate fun _ state => state.refer) needs
  match needs.entries.find? fun need => need.2.isReported with
  | some need => .error (.upstreamTlsAutoSniRequiresDns need.1)
  | none => .ok ()

def portUses (config : RuntimeConfig) : List (Nat × Text) :=
  config.listeners.map (fun listener =>
      (listener.address.port, literal "listener '" ++ listener.name ++ literal "'")) ++
    (match config.admin with
      | .disabled => []
      | .enabled addr => [(addr.port, literal "admin")]) ++
    (match config.telemetry.metrics with
      | .disabled => []
      | .enabled addr => [(addr.port, literal "metrics")])

def notePort (seen : Map Nat Text) (use : Nat × Text) : CoreValidationResult (Map Nat Text) :=
  match seen.lookup use.1 with
  | some existing => .error (.portConflict use.1 existing use.2)
  | none => .ok (seen.insert use.1 use.2)

def validatePortConflicts (config : RuntimeConfig) : CoreValidationResult Unit := do
  let _ ← (portUses config).foldlM notePort ∅
  return ()

def supportedCapabilities : List Text := [literal "advanced_matchers"]

def validateRequiredCapabilities (capabilities : List Text) : CoreValidationResult Unit :=
  capabilities.forM fun capability =>
    reject (capability ∉ supportedCapabilities) (.unsupportedCapability capability)

def checkRuntime {engine : RegexEngine} (cache : PatternCache engine) (config : RuntimeConfig) :
    CoreValidationResult (PatternCache engine) := do
  let _ ← config.listeners.foldlM validateListener []
  let _ ← config.routes.foldlM validateVirtualHost []
  validateUpstreams config.upstreams
  let cache ← validateRoutes cache config.routes config.upstreams
  validateSniAutoRequiresDnsOrRewrite config.routes config.upstreams
  validatePortConflicts config
  validateRequiredCapabilities config.requiredCapabilities
  return cache

end Pavis.Config
