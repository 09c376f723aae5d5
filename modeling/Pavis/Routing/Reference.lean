/-
The router against a plain search.

The reference goes through the configuration as written: the routes of the host
without a wildcard that has the name of the request, in order, and then the
routes of the hosts with a wildcard whose pattern covers the name.
-/

import Pavis.Routing.MatchRequest

namespace Pavis.Routing

open ByteText FirstMatch

variable {ρ : Type}

def VirtualHost.hasStar (vhost : VirtualHost ρ) : Bool := contains vhost.host (ascii '*')

/-- The first route in configuration order whose predicates all hold. -/
def VirtualHost.firstMatch (cache : RegexCache) (request : Request) (vhost : VirtualHost ρ) :
    Option (Selection ρ) :=
  ((List.finRange vhost.paths.length).find? fun index =>
    (vhost.paths.get index).matcher.holds cache request).map
      fun index => { vhost := vhost, index := index }

def exactHost (routes : List (VirtualHost ρ)) (name : Text) : Option (VirtualHost ρ) :=
  routes.find? fun vhost => !vhost.hasStar && vhost.host == name

def referenceMatch (cache : RegexCache) (routes : List (VirtualHost ρ)) (request : Request) :
    Option (Selection ρ) :=
  let host := request.hostHeader.map normalizeHost
  ((host.bind (exactHost routes)).bind (VirtualHost.firstMatch cache request)).or
    ((routes.filter fun vhost => vhost.hasStar && hostMatches vhost.host host).findSome?
      (VirtualHost.firstMatch cache request))

theorem isWildcard_eq (vhost : VirtualHost ρ) : isWildcard vhost.host = vhost.hasStar := by
  unfold isWildcard VirtualHost.hasStar
  by_cases star : vhost.host = literal "*"
  · rw [star]
    rfl
  · rw [beq_false_of_ne star, Bool.false_or]

/-- The router holds the hosts seen so far, compiled. -/
structure Router.Represents (router : Router ρ) (seen : List (VirtualHost ρ)) : Prop where
  exact : ∀ name,
    (router.exactHosts.lookup name).map CompiledVirtualHost.config = exactHost seen name
  exactFaithful : ∀ name compiled, router.exactHosts.lookup name = some compiled →
    compiled.Faithful
  wildcard : router.wildcardHosts.map CompiledVirtualHost.config =
    seen.filter VirtualHost.hasStar
  wildcardFaithful : ∀ compiled ∈ router.wildcardHosts, compiled.Faithful

theorem exactHost_append (seen : List (VirtualHost ρ)) (vhost : VirtualHost ρ) (name : Text) :
    exactHost (seen ++ [vhost]) name = (exactHost seen name).or (exactHost [vhost] name) :=
  List.find?_append

variable {seen routes : List (VirtualHost ρ)} {router : Router ρ} {cache : RegexCache}

private theorem exactHost_eq_none {name : Text} (unseen : name ∉ seen.map VirtualHost.host) :
    exactHost seen name = none := by
  refine List.find?_eq_none.mpr ?_
  intro vhost member holds
  simp only [Bool.and_eq_true, beq_iff_eq] at holds
  exact unseen (List.mem_map.mpr ⟨vhost, member, holds.2⟩)

private theorem insert_wildcard (represents : router.Represents seen)
    {compiled : CompiledVirtualHost ρ} (faithful : compiled.Faithful)
    (star : compiled.config.hasStar = true) :
    (router.insert compiled).Represents (seen ++ [compiled.config]) := by
  have inserted : router.insert compiled =
      { router with wildcardHosts := router.wildcardHosts ++ [compiled] } := by
    unfold Router.insert
    rw [isWildcard_eq, if_pos star]
  rw [inserted]
  refine ⟨?_, represents.exactFaithful, ?_, ?_⟩
  · intro name
    have none : exactHost [compiled.config] name = none := by
      simp [exactHost, star]
    rw [exactHost_append, none, Option.or_none]
    exact represents.exact name
  · rw [List.map_append, represents.wildcard, List.filter_append]
    simp [star]
  · intro host member
    rcases List.mem_append.mp member with earlier | newest
    · exact represents.wildcardFaithful host earlier
    · rw [List.mem_singleton.mp newest]
      exact faithful

private theorem insert_exact (represents : router.Represents seen)
    {compiled : CompiledVirtualHost ρ} (faithful : compiled.Faithful)
    (plain : compiled.config.hasStar = false)
    (unseen : compiled.config.host ∉ seen.map VirtualHost.host) :
    (router.insert compiled).Represents (seen ++ [compiled.config]) := by
  have inserted : router.insert compiled =
      { router with exactHosts := router.exactHosts.insert compiled.config.host compiled } := by
    unfold Router.insert
    rw [isWildcard_eq, if_neg (by simp [plain])]
  rw [inserted]
  refine ⟨?_, ?_, ?_, represents.wildcardFaithful⟩
  · intro name
    rw [exactHost_append]
    by_cases same : name = compiled.config.host
    · subst same
      rw [AList.lookup_insert, exactHost_eq_none unseen]
      simp [exactHost, plain]
    · have other : exactHost [compiled.config] name = none := by
        simp [exactHost, Ne.symm same]
      rw [AList.lookup_insert_ne same, other, Option.or_none]
      exact represents.exact name
  · intro name found lookedUp
    by_cases same : name = compiled.config.host
    · subst same
      rw [AList.lookup_insert] at lookedUp
      cases lookedUp
      exact faithful
    · rw [AList.lookup_insert_ne same] at lookedUp
      exact represents.exactFaithful name found lookedUp
  · rw [List.filter_append, represents.wildcard]
    simp [plain]

theorem Router.addHost_represents (represents : router.Represents seen) {vhost : VirtualHost ρ}
    (compiles : vhost.Compiles router.cache.engine)
    (unseen : vhost.host ∉ seen.map VirtualHost.host) :
    ∃ after, router.addHost vhost = .ok after ∧ after.cache = router.cache ∧
      after.Represents (seen ++ [vhost]) := by
  obtain ⟨compiled, ran, rfl, faithful⟩ := compileVirtualHost_faithful compiles
  have cacheAt : (router.insert compiled).cache = router.cache := by
    unfold insert
    split <;> rfl
  refine ⟨router.insert compiled, ?_, cacheAt, ?_⟩
  · unfold addHost
    rw [ran]
  · cases star : compiled.config.hasStar with
    | true => exact insert_wildcard represents faithful star
    | false => exact insert_exact represents faithful star unseen

theorem Router.addHosts_represents (remaining : List (VirtualHost ρ))
    (represents : router.Represents seen)
    (compiles : ∀ vhost ∈ remaining, vhost.Compiles router.cache.engine)
    (distinct : ((seen ++ remaining).map VirtualHost.host).Nodup) :
    ∃ after, remaining.foldlM addHost router = .ok after ∧ after.cache = router.cache ∧
      after.Represents (seen ++ remaining) := by
  induction remaining generalizing router seen with
  | nil => exact ⟨router, rfl, rfl, by simpa using represents⟩
  | cons vhost rest ih =>
    have unseen : vhost.host ∉ seen.map VirtualHost.host := by
      intro member
      rw [List.map_append, List.nodup_append] at distinct
      exact distinct.2.2 _ member _ List.mem_cons_self rfl
    obtain ⟨next, added, nextCache, nextRepresents⟩ :=
      addHost_represents represents (compiles vhost List.mem_cons_self) unseen
    have laterCompile : ∀ later ∈ rest, later.Compiles next.cache.engine := by
      intro later member
      rw [nextCache]
      exact compiles later (List.mem_cons_of_mem vhost member)
    obtain ⟨after, runs, afterCache, afterRepresents⟩ :=
      ih nextRepresents laterCompile (by simpa using distinct)
    refine ⟨after, ?_, afterCache.trans nextCache, by simpa using afterRepresents⟩
    rw [List.foldlM_cons, added]
    exact runs

theorem tryMatch_firstMatch {vhost : CompiledVirtualHost ρ} (faithful : vhost.Faithful)
    (cache : RegexCache) (request : Request) :
    (tryMatch cache request vhost).selection = vhost.config.firstMatch cache request :=
  tryMatch_selection faithful cache request

theorem Router.Represents.exact_selection (represents : router.Represents routes)
    (request : Request) (name : Text) :
    ((router.exactHosts.lookup name).bind fun vhost =>
        (tryMatch router.cache request vhost).selection) =
      (exactHost routes name).bind (VirtualHost.firstMatch router.cache request) := by
  rw [← represents.exact name]
  cases found : router.exactHosts.lookup name with
  | none => rfl
  | some compiled =>
    exact tryMatch_firstMatch (represents.exactFaithful name compiled found) router.cache request

theorem Router.Represents.wildcard_selection (represents : router.Represents routes)
    (request : Request) (host : Option Text) :
    (router.wildcardHosts.findSome? fun vhost =>
        if hostMatches vhost.config.host host then
          (tryMatch router.cache request vhost).selection
        else none) =
      (routes.filter fun vhost => vhost.hasStar && hostMatches vhost.host host).findSome?
        (VirtualHost.firstMatch router.cache request) := by
  have covered : (routes.filter fun vhost => vhost.hasStar && hostMatches vhost.host host) =
      (router.wildcardHosts.map CompiledVirtualHost.config).filter
        fun vhost => hostMatches vhost.host host := by
    rw [represents.wildcard, List.filter_filter]
    exact List.filter_congr fun vhost _ => Bool.and_comm _ _
  rw [covered]
  have faithful := represents.wildcardFaithful
  generalize router.wildcardHosts = hosts at faithful
  induction hosts with
  | nil => rfl
  | cons compiled rest ih =>
    have selects := tryMatch_firstMatch (faithful compiled List.mem_cons_self) router.cache
      request
    have later := ih fun host member => faithful host (List.mem_cons_of_mem compiled member)
    rw [List.map_cons, List.findSome?_cons, List.filter_cons]
    cases hostMatches compiled.config.host host with
    | false => simpa using later
    | true =>
      simp only [if_true, List.findSome?_cons, selects]
      cases compiled.config.firstMatch router.cache request with
      | none => simpa using later
      | some => rfl

theorem Router.Represents.selection_eq (represents : router.Represents routes) (request : Request) :
    (matchRequest router request).selection = referenceMatch router.cache routes request := by
  unfold referenceMatch
  rw [matchRequest_selection, represents.wildcard_selection request]
  cases request.hostHeader.map normalizeHost with
  | none => rfl
  | some name =>
    simp only [Option.bind_some]
    rw [represents.exact_selection request name]

theorem Router.withRegex_represents (distinct : (routes.map VirtualHost.host).Nodup)
    (compiles : ∀ vhost ∈ routes, vhost.Compiles cache.engine) :
    ∃ router, withRegex routes cache = .ok router ∧ router.cache = cache ∧
      router.Represents routes := by
  have nothing : ({ exactHosts := ∅, wildcardHosts := [], cache := cache } : Router ρ).Represents
      [] := by
    refine ⟨fun _ => rfl, ?_, rfl, by simp⟩
    intro name compiled found
    cases found
  exact addHosts_represents routes nothing compiles (by simpa using distinct)

theorem Router.represents_of_withRegex (ran : withRegex routes cache = .ok router)
    (distinct : (routes.map VirtualHost.host).Nodup)
    (compiles : ∀ vhost ∈ routes, vhost.Compiles cache.engine) : router.Represents routes := by
  obtain ⟨other, again, _, represents⟩ := withRegex_represents distinct compiles
  cases ran.symm.trans again
  exact represents

theorem router_matches_reference (routes : List (VirtualHost ρ)) (cache : RegexCache)
    (distinct : (routes.map VirtualHost.host).Nodup)
    (compiles : ∀ vhost ∈ routes, vhost.Compiles cache.engine) :
    ∃ router, Router.withRegex routes cache = .ok router ∧
      ∀ request, (matchRequest router request).selection =
        referenceMatch cache routes request := by
  obtain ⟨router, ran, rfl, represents⟩ := Router.withRegex_represents distinct compiles
  exact ⟨router, ran, represents.selection_eq⟩

theorem vhost_mem_of_referenceMatch {request : Request} {selection : Selection ρ}
    (matched : referenceMatch cache routes request = some selection) :
    selection.vhost ∈ routes := by
  have own : ∀ vhost : VirtualHost ρ, vhost.firstMatch cache request = some selection →
      selection.vhost = vhost := by
    intro vhost first
    obtain ⟨index, _, rfl⟩ := Option.map_eq_some_iff.mp first
    rfl
  unfold referenceMatch at matched
  rcases Option.or_eq_some_iff.mp matched with exact | ⟨_, wildcard⟩
  · obtain ⟨vhost, named, first⟩ := Option.bind_eq_some_iff.mp exact
    obtain ⟨name, _, found⟩ := Option.bind_eq_some_iff.mp named
    rw [own vhost first]
    exact List.mem_of_find?_eq_some found
  · obtain ⟨vhost, listed, first⟩ := List.exists_of_findSome?_eq_some wildcard
    rw [own vhost first]
    exact List.mem_of_mem_filter listed

def versionEngine : RegexEngine :=
  { compiles := fun pattern => pattern == literal "^/v"
    isMatch := fun pattern input => pattern == literal "^/v" && startsWith input (literal "/v")
    isMatchBytes := fun _ _ => false }

def versionCache : RegexCache :=
  { emptyCache with engine := versionEngine }

def routeOn (path : PathMatch) (method : MethodPredicate) (policy : Nat) : Route Nat :=
  { matcher := { path := path, method := method, headers := .none }, policy := policy }

def smallConfig : List (VirtualHost Nat) :=
  [{ host := literal "a.test"
     paths :=
       [routeOn (.exact (literal "/x")) .any 0, routeOn (.exact (literal "/x")) .any 1,
         routeOn (.exact (literal "/y")) (.specific .get) 2,
         routeOn (.regex (literal "^/v")) .any 3,
         routeOn (.exact (literal "/y")) .any 4] },
    { host := literal "*.test", paths := [routeOn (.prefixed (literal "/")) .any 5] }]

def postTo (host path : String) : Request :=
  { hostHeader := some (literal host)
    uriPath := literal path
    method := literal "POST"
    headers := [] }

def Selection.policy (selection : Selection Nat) : Nat := selection.route.policy

theorem router_matches_reference_smallConfig :
    ∃ router, Router.withRegex smallConfig versionCache = .ok router ∧
      (matchRequest router (postTo "a.test:80" "/x")).selection.map Selection.policy = some 0 ∧
      (matchRequest router (postTo "a.test" "/y")).selection.map Selection.policy = some 4 ∧
      (matchRequest router (postTo "a.test" "/v1")).selection.map Selection.policy = some 3 ∧
      (matchRequest router (postTo "a.test" "/z")).selection.map Selection.policy = some 5 ∧
      (matchRequest router (postTo "other" "/x")).selection.map Selection.policy = none := by
  have compiles : ∀ vhost ∈ smallConfig, vhost.Compiles versionCache.engine := by
    simp [smallConfig, routeOn, VirtualHost.Compiles, versionCache, versionEngine]
  obtain ⟨router, built, agrees⟩ :=
    router_matches_reference smallConfig versionCache (by decide) compiles
  refine ⟨router, built, ?_, ?_, ?_, ?_, ?_⟩ <;> rw [agrees] <;> decide

end Pavis.Routing
