/-
Upstreams of a runtime configuration.

An integer that the source keeps non-zero carries the proof that it is, and that
it fits its width. Texts of addresses are spelled as the standard library
displays them.
-/

import Mathlib.Algebra.GroupWithZero.Nat
import Pavis.Library.ByteText

namespace Pavis.Config

open ByteText

/-- A non-zero unsigned integer of the given width. -/
structure NonZero (bits : Nat) where
  value : Nat
  positive : 0 < value
  bounded : value < 2 ^ bits
  deriving DecidableEq

abbrev NonZeroU16 := NonZero 16

abbrev NonZeroU32 := NonZero 32

def NonZero.new (bits value : Nat) : Option (NonZero bits) :=
  if fits : 0 < value ∧ value < 2 ^ bits then
    some { value := value, positive := fits.1, bounded := fits.2 }
  else none

/-- A constant of the program, its bounds confirmed by evaluation. -/
def NonZero.constant {bits : Nat} (value : Nat)
    (fits : decide (0 < value ∧ value < 2 ^ bits) = true := by exact Eq.refl true) : NonZero bits :=
  ⟨value, (of_decide_eq_true fits).1, (of_decide_eq_true fits).2⟩

theorem NonZero.new_value {bits : Nat} (number : NonZero bits) :
    new bits number.value = some number := by
  unfold new
  rw [dif_pos ⟨number.positive, number.bounded⟩]

theorem NonZero.value_of_new {bits value : Nat} {number : NonZero bits}
    (created : new bits value = some number) : number.value = value := by
  unfold new at created
  split at created
  · cases created
    rfl
  · cases created

abbrev Duration := NonZeroU32

abbrev Port := NonZeroU16

abbrev Weight := NonZeroU16

inductive IpAddr where
  | v4 (a b c d : UInt8)
  | v6 (a b c d e f g h : UInt16)
  deriving DecidableEq

/-- The zone of an IPv6 address, zero where there is none. -/
structure SocketAddr where
  ip : IpAddr
  port : Nat
  scopeId : Nat := 0
  deriving DecidableEq

def decimal (number : Nat) : Text := (Nat.toDigits 10 number).map ascii

def hexadecimal (number : Nat) : Text := (Nat.toDigits 16 number).map ascii

def displayIpv4 (a b c d : UInt8) : Text :=
  (literal ".").intercalate [decimal a.toNat, decimal b.toNat, decimal c.toNat, decimal d.toNat]

structure Span where
  start : Nat
  len : Nat

def scanSegment (spans : Span × Span) (segment : Nat × Nat) : Span × Span :=
  if segment.1 = 0 then
    let start := if spans.2.len = 0 then segment.2 else spans.2.start
    let current : Span := { start := start, len := spans.2.len + 1 }
    (if current.len > spans.1.len then current else spans.1, current)
  else (spans.1, { start := 0, len := 0 })

def longestZeros (segments : List Nat) : Span :=
  (segments.zipIdx.foldl scanSegment ({ start := 0, len := 0 }, { start := 0, len := 0 })).1

def displaySegments (segments : List Nat) : Text :=
  (literal ":").intercalate (segments.map hexadecimal)

/-- The first longest stretch of two zero segments or more is left out. -/
def displayIpv6 (segments : List Nat) : Text :=
  let zeroes := longestZeros segments
  if zeroes.len > 1 then
    displaySegments (segments.take zeroes.start) ++ literal "::" ++
      displaySegments (segments.drop (zeroes.start + zeroes.len))
  else displaySegments segments

/-- An address that stands for an IPv4 address is displayed as one. -/
def IpAddr.display : IpAddr → Text
  | .v4 a b c d => displayIpv4 a b c d
  | .v6 0 0 0 0 0 65535 g h =>
    literal "::ffff:" ++ displayIpv4 (g / 256).toUInt8 g.toUInt8 (h / 256).toUInt8 h.toUInt8
  | .v6 a b c d e f g h =>
    displayIpv6 [a.toNat, b.toNat, c.toNat, d.toNat, e.toNat, f.toNat, g.toNat, h.toNat]

example : (IpAddr.v6 0 0 0 0 0 0 0 1).display = literal "::1" := by decide

inductive EndpointAddr where
  | ip (address : IpAddr) (port : Port)
  | dns (host : Text) (port : Port)
  deriving DecidableEq

structure Endpoint where
  address : EndpointAddr
  weight : Weight
  deriving DecidableEq

inductive Discovery where
  | static
  | strict (ttl : Nat)
  | logical
  deriving DecidableEq

def Discovery.isResolved : Discovery → Bool
  | .logical | .strict _ => true
  | .static => false

inductive LoadBalancer where
  | roundRobin
  | random
  | leastRequest
  deriving DecidableEq

inductive HttpVersion where
  | h1
  | h2
  | h2h1
  deriving DecidableEq

inductive Timeout where
  | disabled
  | enabled (duration : Duration)
  deriving DecidableEq

abbrev IdleTimeout := Timeout

abbrev ConnectTimeout := Timeout

structure PoolQueue where
  capacity : Nat
  timeoutMs : Nat
  deriving DecidableEq

structure Pool where
  idle : IdleTimeout
  connect : ConnectTimeout
  max : NonZeroU32
  queue : PoolQueue
  tcpKeepalive : Option Duration
  tcpNodelay : Option Bool
  recvBufferSize : Option Nat
  deriving DecidableEq

inductive OutlierDetectionPolicy where
  | disabled
  | enabled (consecutiveErrors : NonZeroU32) (ejectDuration : Duration)
  deriving DecidableEq

inductive CircuitBreakerPolicy where
  | disabled
  | enabled (maxConnections maxPendingRequests : NonZeroU32)
  deriving DecidableEq

inductive ActiveHealthCheck where
  | disabled
  | enabled (path : Text) (interval timeout : Duration)
  deriving DecidableEq

inductive TlsVerify where
  | disabled
  | caOnly
  | full
  deriving DecidableEq

inductive SniName where
  | auto
  | name (hostname : Text)
  | disabled
  deriving DecidableEq

inductive CanonicalSni where
  | disabled
  | enabled (name : Text)
  deriving DecidableEq

inductive ReuseAcrossSni where
  | disabled
  | enabled
  deriving DecidableEq

inductive ClientCertChain where
  | none
  | embedded
  | file (path : Text)
  deriving DecidableEq

inductive ClientCert where
  | disabled
  | enabled (certPath keyPath : Text) (chain : ClientCertChain)
  deriving DecidableEq

inductive UpstreamCa where
  | system
  | file (path : Text)
  deriving DecidableEq

structure TlsSettings where
  verify : TlsVerify
  sni : SniName
  canonicalSni : CanonicalSni
  reuseAcrossSni : ReuseAcrossSni
  cert : ClientCert
  ca : UpstreamCa
  deriving DecidableEq

inductive TlsPolicy where
  | disabled
  | enabled (settings : TlsSettings)
  deriving DecidableEq

structure Upstream where
  id : NonZeroU16
  name : Text
  discovery : Discovery
  balancer : LoadBalancer
  protocol : HttpVersion
  pool : Pool
  outlierDetection : OutlierDetectionPolicy
  circuitBreaker : CircuitBreakerPolicy
  healthCheck : ActiveHealthCheck
  tls : TlsPolicy
  endpoints : List Endpoint
  deriving DecidableEq

def Pool.default : Pool :=
  { idle := .disabled
    connect := .disabled
    max := .constant 128
    queue := { capacity := 0, timeoutMs := 0 }
    tcpKeepalive := none
    tcpNodelay := none
    recvBufferSize := none }

/-- What the builder makes of an id, a name and endpoints. -/
def UpstreamBuilder.build (id : NonZeroU16) (name : Text) (endpoints : List Endpoint) : Upstream :=
  { id := id
    name := name
    discovery := .static
    balancer := .roundRobin
    protocol := .h1
    pool := .default
    outlierDetection := .disabled
    circuitBreaker := .disabled
    healthCheck := .disabled
    tls := .disabled
    endpoints := endpoints }

def EndpointAddr.isDns : EndpointAddr → Bool
  | .dns _ _ => true
  | .ip _ _ => false

def EndpointAddr.port : EndpointAddr → Port
  | .dns _ port => port
  | .ip _ port => port

end Pavis.Config
