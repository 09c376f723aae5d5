/-
Exported upstreams convert back.

The conversion refuses nothing that it has made itself: a text it has let pass is
exported as it is, a number within its width, and the TLS settings contradict each
other no more than before.
-/

import Pavis.Codec.Upstreams

namespace Pavis.Codec

open ByteText Fallible
open Config (ActiveHealthCheck CanonicalSni CircuitBreakerPolicy ClientCert ClientCertChain
  Discovery Duration IpAddr NonZero NonZeroU32 OutlierDetectionPolicy Pool
  ReuseAcrossSni SniName Timeout TlsPolicy TlsVerify UpstreamCa)

section

variable {bits : Nat} {failure tooLarge zero : ConvertError}

theorem tryFrom_eq_ok {value result : Nat} :
    tryFrom bits value failure = .ok result ↔ value < 2 ^ bits ∧ value = result := by
  unfold tryFrom
  split
  · rename_i small
    constructor
    · intro same
      cases same
      exact ⟨small, rfl⟩
    · intro both
      rw [both.2]
  · rename_i large
    constructor
    · intro same
      cases same
    · intro both
      exact absurd both.1 large

theorem nonZero_eq_ok {value : Nat} {result : NonZero bits}
    (ran : nonZero bits value failure = .ok result) : result.value = value := by
  unfold nonZero at ran
  split at ran
  · rename_i created
    cases ran
    exact NonZero.value_of_new created
  · cases ran

theorem nonZero_value (number : NonZero bits) : nonZero bits number.value failure = .ok number := by
  unfold nonZero
  rw [NonZero.new_value]

theorem required_value (number : NonZero bits) :
    required bits number.value tooLarge zero = .ok number := by
  unfold required
  rw [tryFrom_eq_ok.mpr ⟨number.bounded, rfl⟩, ok_bind, nonZero_value]

end

private theorem durationToTimeout_timeoutMs (tooLong : String) (timeout : Timeout) :
    durationToTimeout tooLong (.fromMillis (timeoutMs timeout)) = .ok timeout := by
  unfold durationToTimeout
  rw [StdDuration.asMillis_fromMillis]
  cases timeout with
  | disabled => rfl
  | enabled duration =>
    have fits : tryFrom 32 (timeoutMs (.enabled duration)) (.message (literal tooLong)) =
        .ok duration.value :=
      tryFrom_eq_ok.mpr ⟨duration.bounded, rfl⟩
    rw [fits, ok_bind, NonZero.new_value]
    rfl

theorem durationToRequired_value (duration : Duration) (context : String) :
    durationToRequired (.fromMillis duration.value) context = .ok duration := by
  unfold durationToRequired
  rw [StdDuration.asMillis_fromMillis]
  exact required_value duration

private theorem materializePoolMax_value (max : NonZeroU32) (upstreamName : Text) (index : Nat) :
    materializePoolMax (some max.value) upstreamName index = .ok max := by
  have positive : ¬ ((max.value : Int) < 1) := by
    have least := max.positive
    omega
  unfold materializePoolMax
  dsimp only
  rw [reject_passes positive, ok_bind]
  exact required_value max

variable {upstreamName : Text} {index : Nat}

private theorem materializeQueueValue_again {value : Option Int} {default : Nat} {field : String}
    {result : Nat} (smallDefault : default < 2 ^ 32)
    (ran : materializeQueueValue value default field upstreamName index = .ok result)
    (other : Nat) :
    materializeQueueValue (some result) default field upstreamName other = .ok result := by
  have small : result < 2 ^ 32 := by
    cases value with
    | none =>
      cases ran
      exact smallDefault
    | some =>
      obtain ⟨_, _, converted⟩ := bind_eq_ok.mp ran
      obtain ⟨small, rfl⟩ := tryFrom_eq_ok.mp converted
      exact small
  have natural : ¬ ((result : Int) < 0) := by omega
  unfold materializeQueueValue
  dsimp only
  rw [reject_passes natural, ok_bind, Int.toNat_natCast]
  exact tryFrom_eq_ok.mpr ⟨small, rfl⟩

private theorem convertSome_map {α β : Type} {convert : α → Result β} {write : β → α}
    (each : ∀ value, convert (write value) = .ok value) (value : Option β) :
    convertSome convert (value.map write) = .ok value := by
  cases value with
  | none => rfl
  | some value =>
    rw [Option.map_some, convertSome, each value]
    rfl

private theorem poolToRuntime_again {pool : ConnectionPoolConfig} {result : Pool}
    (ran : poolToRuntime pool upstreamName index = .ok result) (other : Nat) :
    poolToRuntime (poolFromRuntime result) upstreamName other = .ok result := by
  simp only [poolToRuntime, bind_eq_ok] at ran
  obtain ⟨idle, _, connect, _, max, _, capacity, capacityRan, timeout, timeoutRan, tcpKeepalive, _,
    recvBufferSize, _, built⟩ := ran
  cases built
  have keepalive :
      convertSome (fun duration => durationToTcpKeepalive duration upstreamName other)
        (tcpKeepalive.map fun duration => .fromMillis duration.value) = .ok tcpKeepalive := by
    apply convertSome_map
    intro duration
    unfold durationToTcpKeepalive
    rw [StdDuration.asMillis_fromMillis]
    exact required_value duration
  have buffer :
      convertSome (fun size => validateRecvBufferSize size upstreamName other) recvBufferSize =
        .ok recvBufferSize := by
    cases recvBufferSize <;> rfl
  unfold poolToRuntime poolFromRuntime durationToPolicy durationToConnect
  simp only [Option.getD_some, durationToTimeout_timeoutMs, materializePoolMax_value, keepalive,
    buffer, materializeQueueValue_again (by decide) capacityRan other,
    materializeQueueValue_again (by decide) timeoutRan other, ok_bind]
  rfl

private theorem endpointToRuntime_again {discovery : Discovery} {endpoint : Endpoint}
    {result : Config.Endpoint}
    (ran : endpointToRuntime discovery upstreamName endpoint = .ok result) :
    endpointToRuntime discovery upstreamName (endpointFromRuntime result) = .ok result := by
  simp only [endpointToRuntime, bind_eq_ok] at ran
  obtain ⟨port, _, address, converted, weight, _, built⟩ := ran
  cases built
  unfold endpointToRuntime endpointFromRuntime
  cases discovery with
  | static =>
    unfold endpointAddrToRuntime at converted ⊢
    dsimp only at converted
    split at converted
    · cases converted
      simp only [nonZero_value, ok_bind, IpAddr.parse_display, Option.getD_some, required_value]
      rfl
    · cases converted
  | logical | strict =>
    cases converted
    simp only [nonZero_value, ok_bind, endpointAddrToRuntime, Option.getD_some, required_value]
    rfl

/-! ### TLS settings -/

private theorem verifyToRuntime_fromRuntime (verify : TlsVerify) :
    verifyToRuntime (verifyFromRuntime verify).1 (verifyFromRuntime verify).2 = verify := by
  cases verify <;> rfl

private theorem sniToRuntime_fromRuntime (upstreamName : Text) (sni : SniName) :
    sniToRuntime upstreamName (sniFromRuntime sni).2 (sniFromRuntime sni).1 = .ok sni := by
  cases sni <;> rfl

private theorem reuseToRuntime_fromRuntime (reuse : ReuseAcrossSni) :
    reuseToRuntime ((reuseFromRuntime reuse).getD false) = reuse := by
  cases reuse <;> rfl

theorem writtenText_ok {α : Type} {absent : α} {present : Text → α} {blank : ConvertError}
    {given : Option Text} {result : α} (ran : writtenText absent present blank given = .ok result) :
    given = none ∧ result = absent ∨ ∃ text, given = some text ∧ result = present text := by
  cases given with
  | none =>
    cases ran
    exact Or.inl ⟨rfl, rfl⟩
  | some text =>
    obtain ⟨_, _, built⟩ := bind_eq_ok.mp ran
    cases built
    exact Or.inr ⟨text, rfl, rfl⟩

theorem canonicalSniToRuntime_again {name : Option Text} {result : CanonicalSni}
    (ran : canonicalSniToRuntime upstreamName name = .ok result) :
    canonicalSniToRuntime upstreamName (canonicalSniFromRuntime result) = .ok result := by
  rcases writtenText_ok ran with ⟨rfl, rfl⟩ | ⟨text, rfl, rfl⟩ <;> exact ran

private theorem caToRuntime_again {path : Option Text} {result : UpstreamCa}
    (ran : caToRuntime upstreamName path = .ok result) :
    caToRuntime upstreamName (caFromRuntime result) = .ok result := by
  rcases writtenText_ok ran with ⟨rfl, rfl⟩ | ⟨text, rfl, rfl⟩ <;> exact ran

private theorem chainToRuntime_again {mode : Option ClientCertChainMode} {path : Option Text}
    {result : ClientCertChain} (ran : chainToRuntime upstreamName mode path = .ok result) :
    chainToRuntime upstreamName (chainFromRuntime result).1 (chainFromRuntime result).2 =
      .ok result := by
  unfold chainToRuntime at ran
  split at ran
  case h_1 | h_2 =>
    rcases writtenText_ok ran with ⟨_, rfl⟩ | ⟨text, same, rfl⟩
    · rfl
    · cases same
      exact ran
  all_goals cases ran <;> rfl

private theorem certToRuntime_again {config : Option ClientCertConfig} {result : ClientCert}
    (ran : certToRuntime upstreamName config = .ok result) :
    certToRuntime upstreamName (certFromRuntime result) = .ok result := by
  cases config with
  | none =>
    cases ran
    rfl
  | some =>
    obtain ⟨_, paths, ran⟩ := bind_eq_ok.mp ran
    obtain ⟨_, converted, built⟩ := bind_eq_ok.mp ran
    cases built
    unfold certToRuntime certFromRuntime
    dsimp only
    rw [paths, ok_bind, chainToRuntime_again converted]
    rfl

private theorem tlsToRuntime_again {tls : Option UpstreamTlsConfig} {result : TlsPolicy}
    (ran : tlsToRuntime upstreamName tls = .ok result) :
    tlsToRuntime upstreamName (tlsFromRuntime result) = .ok result := by
  cases result with
  | disabled => rfl
  | enabled =>
    cases tls with
    | none => cases ran
    | some =>
      unfold tlsToRuntime at ran
      dsimp only at ran
      split at ran
      · obtain ⟨_, ran, built⟩ := bind_eq_ok.mp ran
        cases built
        simp only [tlsSettingsToRuntime, bind_eq_ok] at ran
        obtain ⟨_, _, _, named, _, canonical, _, verified, _, ca, _, cert, built⟩ := ran
        cases built
        unfold tlsToRuntime tlsFromRuntime tlsSettingsToRuntime
        simp only [Option.getD_some, if_true, verifyToRuntime_fromRuntime,
          sniToRuntime_fromRuntime, reuseToRuntime_fromRuntime, ok_bind,
          reject_passes (reject_eq_ok.mp named), canonicalSniToRuntime_again canonical,
          reject_passes (reject_eq_ok.mp verified), caToRuntime_again ca,
          certToRuntime_again cert]
        rfl
      · cases ran

private theorem outlierDetectionToRuntime_fromRuntime (policy : OutlierDetectionPolicy) :
    outlierDetectionToRuntime (outlierDetectionFromRuntime policy) = .ok policy := by
  cases policy with
  | disabled => rfl
  | enabled =>
    unfold outlierDetectionToRuntime outlierDetectionFromRuntime countToRuntime
    simp only [required_value, durationToRequired_value, ok_bind]
    rfl

private theorem circuitBreakerToRuntime_fromRuntime (policy : CircuitBreakerPolicy) :
    circuitBreakerToRuntime (circuitBreakerFromRuntime policy) = .ok policy := by
  cases policy with
  | disabled => rfl
  | enabled =>
    unfold circuitBreakerToRuntime circuitBreakerFromRuntime countToRuntime
    simp only [required_value, ok_bind]
    rfl

theorem healthCheckToRuntime_again {config : Option HealthCheck} {result : ActiveHealthCheck}
    (ran : healthCheckToRuntime config = .ok result) :
    healthCheckToRuntime (healthCheckFromRuntime result) = .ok result := by
  cases config with
  | none =>
    cases ran
    rfl
  | some =>
    simp only [healthCheckToRuntime, bind_eq_ok] at ran
    obtain ⟨_, _, _, written, interval, _, timeout, _, _, ordered, built⟩ := ran
    cases built
    have noThresholds : ¬ ((1 : Nat) ≠ 1 ∨ (1 : Nat) ≠ 1) := by decide
    unfold healthCheckToRuntime healthCheckFromRuntime
    simp only [reject_passes noThresholds, reject_passes (reject_eq_ok.mp written),
      checkTimeoutToRuntime, durationToRequired_value, ok_bind,
      reject_passes (reject_eq_ok.mp ordered)]
    rfl

theorem upstreamToRuntime_name {upstream : Upstream} {result : Config.Upstream}
    (ran : upstreamToRuntime upstream index = .ok result) : result.name = upstream.name := by
  simp only [upstreamToRuntime, bind_eq_ok] at ran
  obtain ⟨_, _, _, _, _, _, _, _, _, _, _, _, _, _, built⟩ := ran
  cases built
  rfl

private theorem upstreamToRuntime_again {upstream : Upstream} {result : Config.Upstream}
    (ran : upstreamToRuntime upstream index = .ok result) (other : Nat) :
    upstreamToRuntime (upstreamFromRuntime result) other = .ok result := by
  simp only [upstreamToRuntime, bind_eq_ok] at ran
  obtain ⟨_, eachEndpoint, _, pool, _, tls, id, _, _, _, _, _, _, healthCheck, built⟩ := ran
  cases built
  have endpoints := mapM_written (mapM_forall _ (fun _ _ _ ran => endpointToRuntime_again ran)
    eachEndpoint)
  have idAgain : idToRuntime (some id.value) other = .ok id := nonZero_value id
  unfold upstreamToRuntime upstreamFromRuntime
  simp only [Option.getD_some, endpoints, idAgain, ok_bind, poolToRuntime_again pool other,
    tlsToRuntime_again tls, outlierDetectionToRuntime_fromRuntime,
    circuitBreakerToRuntime_fromRuntime, healthCheckToRuntime_again healthCheck]
  rfl

theorem upstreamsToRuntime_again {upstreams : List Upstream} {results : List Config.Upstream}
    (ran : upstreamsToRuntime upstreams = .ok results) :
    upstreamsToRuntime (results.map upstreamFromRuntime) = .ok results :=
  mapM_zipIdx_written upstreamToRuntime upstreamFromRuntime 0
    (mapM_forall _ (fun _ _ _ ran => upstreamToRuntime_again ran) ran)

end Pavis.Codec
