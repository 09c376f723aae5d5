/-
Active health probes.

A plan holds what is fixed about the probes of a cluster. The client of a plan is
built from the TLS files of the cluster, which can fail. Whatever verification
the upstream asks for, the client checks certificates and their names.
-/

import Pavis.Upstream.Cluster

namespace Pavis.Upstream

open ByteText Config KeyedMap

inductive PlanError where
  | clientNotBuilt
  deriving DecidableEq

/-- The timeout of a whole request and of connecting. -/
structure HealthClient where
  timeout : Duration
  deriving DecidableEq

structure HealthProbePlan where
  upstream : Text
  path : Text
  interval : Duration
  scheme : Text
  client : HealthClient
  deriving DecidableEq

def buildHealthClient (clientBuilds : Bool) (timeout : Duration) : Except PlanError HealthClient :=
  if clientBuilds then .ok { timeout := timeout } else .error .clientNotBuilt

def HealthProbePlan.build (clientBuilds : Bool) (name : Text) (config : Upstream) :
    Except PlanError (Option HealthProbePlan) :=
  match config.healthCheck with
  | .disabled => .ok none
  | .enabled path interval timeout => do
    let scheme :=
      match config.tls with
      | .disabled => literal "http"
      | .enabled _ => literal "https"
    let client ← buildHealthClient clientBuilds timeout
    return some
      { upstream := name, path := path, interval := interval, scheme := scheme,
        client := client }

def endpointDnsHost : EndpointAddr → Option Text
  | .dns host _ => some host
  | .ip _ _ => none

def healthCheckHost (upstream : Upstream) (endpoint : EndpointAddr) : Option Text :=
  match upstream.tls with
  | .enabled settings =>
    match settings.canonicalSni with
    | .enabled name => some name
    | .disabled =>
      match settings.reuseAcrossSni with
      | .enabled =>
        match settings.sni with
        | .name name => some name
        | .auto => endpointDnsHost endpoint
        | .disabled => none
      | .disabled =>
        match settings.sni with
        | .name name => some name
        | .auto => endpointDnsHost endpoint
        | .disabled => none
  | .disabled => endpointDnsHost endpoint

structure ProbeRequest where
  url : Text
  hostHeader : Option Text
  deriving DecidableEq

def EndpointAddr.urlHost : EndpointAddr → Text
  | .ip address _ => address.display
  | .dns host _ => host

/-- The request a probe sends. The address is written as it is displayed. -/
def HealthProbePlan.request (plan : HealthProbePlan) (config : Upstream)
    (endpoint : EndpointAddr) : ProbeRequest :=
  { url := plan.scheme ++ literal "://" ++ EndpointAddr.urlHost endpoint ++ literal ":" ++
      decimal endpoint.port.value ++ plan.path
    hostHeader := healthCheckHost config endpoint }

end Pavis.Upstream
