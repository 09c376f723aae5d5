/-
The URL of a health probe.

The URL is put together from the scheme, the address as it is displayed, the port and the
path. The client reads it by the grammar of authorities and sends its request to what it
has read.
-/

import Pavis.Proxy.ProbeName

namespace Pavis.Proxy

open ByteText Config DigitText Upstream UrlAuthority

/-- The authority that denotes an endpoint: an IPv6 address is a literal in brackets. -/
def EndpointAddr.authority : EndpointAddr → Authority
  | .ip (.v4 a b c d) port =>
    { host := .name (displayIpv4 a b c d), port := some (decimal port.value) }
  | .ip address port => { host := .literal address.display, port := some (decimal port.value) }
  | .dns host port => { host := .name host, port := some (decimal port.value) }

/-- The result of a probe, where a server answers with a status or the request fails. -/
def HealthProbePlan.probe (plan : HealthProbePlan) (answers : Authority → Option Nat)
    (config : Upstream) (endpoint : EndpointAddr) : Option Bool := do
  let authority ← readUrl (HealthProbePlan.request plan config endpoint).url
  let status ← answers authority
  return 200 ≤ status && status < 300

/-- The mark that a job sets for an endpoint: a failed probe counts as unhealthy. -/
def probeMark (plan : HealthProbePlan) (answers : Authority → Option Nat)
    (config : Upstream) (endpoint : EndpointAddr) : Bool :=
  (HealthProbePlan.probe plan answers config endpoint).getD false

/-- Addresses that stand in a URL as they are displayed: of the names, those that the
grammar knows as registered names. -/
def WrittenPlainly : EndpointAddr → Prop
  | .ip (.v4 _ _ _ _) _ => True
  | .ip (.v6 _ _ _ _ _ _ _ _) _ => False
  | .dns host _ => host ≠ [] ∧ isRegName host = true

variable {endpoint : EndpointAddr}

private theorem isAuthority_hostPort (written : WrittenPlainly endpoint) :
    IsAuthority (hostPort endpoint) := by
  cases endpoint with
  | ip address port => exact isAuthority_of_addressBytes (hostPort_bytes address port)
  | dns host port =>
    apply (isAuthority_of_isRegName written.2).1.append
    apply isAuthority_of_addressBytes
    intro byte member
    rcases List.mem_cons.mp member with rfl | digit
    · rfl
    · exact isAddressByte_of_digit (by decide) (decimal_digits _ byte digit)

private theorem readHostPort_hostPort (written : WrittenPlainly endpoint) :
    readHostPort (hostPort endpoint) = some (EndpointAddr.authority endpoint) := by
  cases endpoint with
  | ip address port =>
    cases address with
    | v4 a b c d => exact readHostPort_address (.v4 a b c d) port
    | v6 => exact written.elim
  | dns host port =>
    exact readHostPort_append written.1 written.2 (decimal_digits port.value)

/-- The probe of an endpoint goes to that endpoint, which is marked by what it answers. -/
structure ProbesItself (plan : HealthProbePlan) (config : Upstream) (endpoint : EndpointAddr) :
    Prop where
  denotes : readUrl (HealthProbePlan.request plan config endpoint).url =
    some (EndpointAddr.authority endpoint)
  marked : ∀ answers status, answers (EndpointAddr.authority endpoint) = some status →
    200 ≤ status → status < 300 → probeMark plan answers config endpoint = true

theorem writtenPlainly_of_denotes {clientBuilds : Bool} {name : Text} {config : Upstream}
    (accepted : config.Accepted) {plan : HealthProbePlan}
    (planned : HealthProbePlan.build clientBuilds name config = .ok (some plan))
    (denotes : readUrl (HealthProbePlan.request plan config endpoint).url =
      some (EndpointAddr.authority endpoint)) : WrittenPlainly endpoint := by
  cases endpoint with
  | ip address port =>
    cases address with
    | v4 => trivial
    | v6 a b c d e f g h =>
      have own : IsAuthority (hostPort (.ip (.v6 a b c d e f g h) port)) :=
        isAuthority_of_addressBytes (hostPort_bytes _ port)
      rw [readUrl_request accepted planned own] at denotes
      have read := readHostPort_address (.v6 a b c d e f g h) port
      exact nomatch read.symm.trans denotes
  | dns => exact isRegName_of_readUrl denotes

private theorem probeMark_of_denotes {plan : HealthProbePlan} {config : Upstream}
    (denotes : readUrl (HealthProbePlan.request plan config endpoint).url =
      some (EndpointAddr.authority endpoint)) {answers : Authority → Option Nat} {status : Nat}
    (answered : answers (EndpointAddr.authority endpoint) = some status) (lower : 200 ≤ status)
    (upper : status < 300) : probeMark plan answers config endpoint = true := by
  unfold probeMark HealthProbePlan.probe
  simp [denotes, answered, lower, upper]

/-- For every upstream that the validator accepts and every address in it, the probe goes to
the address exactly if this is an IPv4 address, or a registered name that is not empty. -/
theorem probe_url_denotes_iff {names after : List Text} {config : Upstream}
    (accepted : validateUpstream names config = .ok after) {clientBuilds : Bool} {name : Text}
    {plan : HealthProbePlan}
    (planned : HealthProbePlan.build clientBuilds name config = .ok (some plan))
    (endpoint : EndpointAddr) : ProbesItself plan config endpoint ↔ WrittenPlainly endpoint := by
  have ownChecks := (validateUpstream_ok accepted).1
  constructor
  · intro probes
    exact writtenPlainly_of_denotes ownChecks planned probes.denotes
  · intro written
    have denotes : readUrl (HealthProbePlan.request plan config endpoint).url =
        some (EndpointAddr.authority endpoint) := by
      rw [readUrl_request ownChecks planned (isAuthority_hostPort written),
        readHostPort_hostPort written]
    refine ⟨denotes, ?_⟩
    intro answers status answered lower upper
    exact probeMark_of_denotes denotes answered lower upper

def checkedUpstream (address : EndpointAddr) : Upstream :=
  { UpstreamBuilder.build (.constant 1) (literal "api")
      [{ address := address, weight := .constant 1 }] with
    healthCheck := .enabled (literal "/health") (.constant 1000) (.constant 100) }

def checkedPlan : HealthProbePlan :=
  { upstream := literal "api"
    path := literal "/health"
    interval := .constant 1000
    scheme := literal "http"
    client := { timeout := .constant 100 } }

def loopbackV6 : EndpointAddr := .ip (.v6 0 0 0 0 0 0 0 1) (.constant 8080)

/-- Every server answers with success, and the endpoint is marked unhealthy. -/
theorem loopbackV6_marked_unhealthy :
    validateUpstream [] (checkedUpstream loopbackV6) = .ok [literal "api"] ∧
      HealthProbePlan.build true (literal "api") (checkedUpstream loopbackV6) =
        .ok (some checkedPlan) ∧
      (HealthProbePlan.request checkedPlan (checkedUpstream loopbackV6) loopbackV6).url =
        literal "http://::1:8080/health" ∧
      readUrl (literal "http://::1:8080/health") = none ∧
      probeMark checkedPlan (fun _ => some 200) (checkedUpstream loopbackV6) loopbackV6 = false :=
  ⟨by decide, rfl, by decide, by decide +kernel, by decide +kernel⟩

def namedEndpoint : EndpointAddr := .dns (literal "api.example") (.constant 8080)

theorem namedEndpoint_probes_itself :
    validateUpstream [] (checkedUpstream namedEndpoint) = .ok [literal "api"] ∧
      HealthProbePlan.build true (literal "api") (checkedUpstream namedEndpoint) =
        .ok (some checkedPlan) ∧
      ProbesItself checkedPlan (checkedUpstream namedEndpoint) namedEndpoint := by
  have accepted : validateUpstream [] (checkedUpstream namedEndpoint) = .ok [literal "api"] := by
    decide
  have planned : HealthProbePlan.build true (literal "api") (checkedUpstream namedEndpoint) =
      .ok (some checkedPlan) := rfl
  refine ⟨accepted, planned, (probe_url_denotes_iff accepted planned namedEndpoint).mpr ?_⟩
  exact ⟨by decide, by decide +kernel⟩

end Pavis.Proxy
