/-
Duplicate routes of a virtual host.

The validator keys the routes of a host by the kind and the text of their path and
refuses the second route with a key. The router tells routes apart by their methods
and headers as well.
-/

import Pavis.Config.Accepted
import Pavis.Routing.Reference

namespace Pavis.Config

open ByteText Fallible
open Routing (PathMatch RegexCache RegexEngine Request Selection emptyCache referenceMatch
  wordEngine)

section

variable {engine : RegexEngine} {upstreamNames : List Text} {host : Text}

/-- The other checks of a route have failures of their own. -/
def NotDuplicate {α : Type} (check : CoreValidationResult α) : Prop :=
  ∀ host path matchType, check ≠ .error (.duplicateRoute host path matchType)

namespace NotDuplicate

theorem rejected {condition : Prop} [Decidable condition] {failure : CoreValidationError}
    (other : ∀ host path matchType, failure ≠ .duplicateRoute host path matchType) :
    NotDuplicate (reject condition failure) :=
  fun host path matchType failed => other host path matchType (reject_eq_error.mp failed).2

theorem bind {α β : Type} {first : CoreValidationResult α} {next : α → CoreValidationResult β}
    (now : NotDuplicate first) (later : ∀ value, NotDuplicate (next value)) :
    NotDuplicate (first >>= next) := by
  intro host path matchType failed
  rcases bind_eq_error.mp failed with failed | ⟨value, _, failed⟩
  · exact now host path matchType failed
  · exact later value host path matchType failed

theorem forM {α : Type} {check : α → CoreValidationResult Unit}
    (each : ∀ item, NotDuplicate (check item)) (items : List α) :
    NotDuplicate (items.forM check) := by
  intro host path matchType failed
  obtain ⟨item, _, failed⟩ := exists_of_forM_eq_error failed
  exact each item host path matchType failed

private theorem headerName (context name : Text) : NotDuplicate (validateHeaderName context name) :=
  bind (rejected nofun) fun _ => rejected nofun

theorem headers (headers : HeadersPolicy) (context : Text) :
    NotDuplicate (validateHeaders headers context) := by
  have pairs : ∀ entries : List (Text × Text), NotDuplicate (entries.forM (validatePair context)) :=
    forM fun entry => bind (headerName context entry.1) fun _ => rejected nofun
  cases headers with
  | disabled => exact nofun
  | enabled =>
    exact bind (pairs _) fun _ => bind (pairs _) fun _ => bind (pairs _) fun _ =>
      forM (headerName context) _

theorem action (upstreamNames : List Text) (host : Text) (route : Route) :
    NotDuplicate (validateAction upstreamNames host route) := by
  unfold validateAction
  split
  · exact nofun
  · exact nofun
  · refine bind (rejected nofun) fun _ => forM (fun destination => ?_) _
    exact rejected nofun

end NotDuplicate

end

section

variable {engine : RegexEngine} (cache : PatternCache engine) (routes : List VirtualHost)
  (upstreams : List Upstream)

variable {cache routes upstreams}

end

end Pavis.Config
