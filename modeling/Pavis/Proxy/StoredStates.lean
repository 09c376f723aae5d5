/-
The runtime states that are stored while a request runs.

A step does nothing to them, replaces the manager of one, or adds one at the end.
-/

import Pavis.Proxy.Lifecycle

namespace Pavis.Proxy

open ByteText Config LabelledRun State Upstream

/-- A state after calls of its clusters: the router is the same, and no cluster
is gone. -/
structure Grown (origin state : MaterializedRuntimeConfig) : Prop where
  router : state.router = origin.router
  clusters : ∀ name, (origin.upstreamManager.get name).isSome = true →
    (state.upstreamManager.get name).isSome = true

theorem Grown.refl (state : MaterializedRuntimeConfig) : Grown state state :=
  ⟨rfl, fun _ present => present⟩

theorem Grown.trans {first second third : MaterializedRuntimeConfig} (left : Grown first second)
    (right : Grown second third) : Grown first third :=
  ⟨right.router.trans left.router, fun name present =>
    right.clusters name (left.clusters name present)⟩

theorem grown_refl (states : List MaterializedRuntimeConfig) : List.Forall₂ Grown states states :=
  List.forall₂_same.mpr fun state _ => Grown.refl state

theorem grown_setManager {manager : Manager} {states : List MaterializedRuntimeConfig} {index : Nat}
    {state : MaterializedRuntimeConfig} (found : states[index]? = some state)
    (keeps : ∀ name, (state.upstreamManager.get name).isSome = true →
      (manager.get name).isSome = true) :
    List.Forall₂ Grown states (RequestSystem.setManager states index manager) := by
  induction states generalizing index with
  | nil => cases found
  | cons head tail ih =>
    cases index with
    | zero =>
      cases found
      exact .cons ⟨rfl, keeps⟩ (grown_refl tail)
    | succ => exact .cons (Grown.refl head) (ih found)

theorem Touches.grown {before : RequestSystem} {action : RequestAction}
    {states : List MaterializedRuntimeConfig} (touches : Touches before action states) :
    List.Forall₂ Grown (before.states ++ action.stored.toList) states := by
  cases touches with
  | nothing silent =>
    rw [silent, Option.toList_none, List.append_nil]
    exact grown_refl before.states
  | cluster index state manager silent updates =>
    rw [silent, Option.toList_none, List.append_nil]
    exact grown_setManager updates.found updates.keeps
  | stores state same =>
    rw [same]
    exact grown_refl (before.states ++ [state])

private theorem grown_trans {first second third : List MaterializedRuntimeConfig}
    (left : List.Forall₂ Grown first second) (right : List.Forall₂ Grown second third) :
    List.Forall₂ Grown first third := by
  induction left generalizing third with
  | nil =>
    cases right
    exact .nil
  | cons grown _ ih =>
    cases right with
    | cons next rest => exact .cons (grown.trans next) (ih rest)

theorem states_grown {start : RequestSystem} {steps : List RequestStep}
    (isRun : IsRun requestStep start steps) :
    List.Forall₂ Grown (start.states ++ steps.filterMap fun step => step.label.stored)
      (final start steps).states := by
  induction steps generalizing start with
  | nil =>
    rw [List.filterMap_nil, List.append_nil]
    exact grown_refl start.states
  | cons head tail ih =>
    obtain ⟨rfl, accepted, rest⟩ := isRun
    have first := (requestStep_touches accepted).grown
    have extended := List.rel_append first
      (grown_refl (tail.filterMap fun step => step.label.stored))
    have split : head.before.states ++
        (head :: tail).filterMap (fun step => step.label.stored) =
        head.before.states ++ head.label.stored.toList ++
          tail.filterMap fun step => step.label.stored := by
      rw [List.append_assoc, List.filterMap_cons]
      cases head.label.stored <;> rfl
    rw [split]
    exact grown_trans extended (ih rest)

end Pavis.Proxy
