/-
The spelling of the host header.

A port behind the host is cut off before any comparison. The names of hosts are
compared byte for byte: a letter of another case can only go where no configured
host spells it out, that is, into the part a wildcard stands for.
-/

import Pavis.Routing.MatchRequest

namespace Pavis.Routing

open ByteText FirstMatch

variable {ρ : Type}

def isLetter (byte : UInt8) : Bool := (65 ≤ byte && byte ≤ 90) || (97 ≤ byte && byte ≤ 122)

def hasLetter (text : Text) : Bool := text.any isLetter

def lowercase (text : Text) : Text := text.map toAsciiLowercase

variable {byte : UInt8} {text : Text}

private theorem toAsciiLowercase_eq_iff {other : UInt8} (plain : isLetter other = false) :
    toAsciiLowercase byte = other ↔ byte = other := by
  unfold toAsciiLowercase
  split
  · rename_i upper
    have lowered : isLetter (byte + 32) = true := by
      simp only [isLetter, Bool.or_eq_true, Bool.and_eq_true, decide_eq_true_eq,
        UInt8.le_iff_toNat_le, UInt8.toNat_add, UInt8.reduceToNat] at upper ⊢
      omega
    have letter : isLetter byte = true := by
      simp [isLetter, upper]
    constructor
    · intro same
      rw [same, plain] at lowered
      cases lowered
    · intro same
      rw [same, plain] at letter
      cases letter
  · rfl

theorem lowercase_beq (byte : UInt8) {other : UInt8} (plain : isLetter other = false) :
    (other == toAsciiLowercase byte) = (other == byte) := by
  rw [Bool.eq_iff_iff, beq_iff_eq, beq_iff_eq, eq_comm, toAsciiLowercase_eq_iff plain, eq_comm]

theorem startsWith_lowercase {start : Text} (plain : hasLetter start = false) :
    startsWith (lowercase text) start = startsWith text start := by
  unfold startsWith lowercase
  induction start generalizing text with
  | nil => simp
  | cons first rest ih =>
    simp only [hasLetter, List.any_cons, Bool.or_eq_false_iff] at plain
    cases text with
    | nil => rfl
    | cons head =>
      rw [List.map_cons, List.isPrefixOf_cons_cons, List.isPrefixOf_cons_cons,
        lowercase_beq head plain.1, ih plain.2]

private theorem hasLetter_reverse (text : Text) : hasLetter text.reverse = hasLetter text := by
  simp [hasLetter]

private theorem endsWith_lowercase {ending : Text} (plain : hasLetter ending = false) :
    endsWith (lowercase text) ending = endsWith text ending := by
  have reversed := @startsWith_lowercase text.reverse _
    ((hasLetter_reverse ending).trans plain)
  unfold startsWith lowercase at reversed
  unfold endsWith lowercase List.isSuffixOf
  rw [← List.map_reverse]
  exact reversed

theorem beq_lowercase {other : Text} (plain : hasLetter other = false) :
    (lowercase text == other) = (text == other) := by
  induction other generalizing text with
  | nil => cases text <;> rfl
  | cons first rest ih =>
    simp only [hasLetter, List.any_cons, Bool.or_eq_false_iff] at plain
    cases text with
    | nil => rfl
    | cons head tail =>
      have tails := @ih tail plain.2
      have heads := lowercase_beq head plain.1
      rw [BEq.comm, BEq.comm (a := first)] at heads
      change (toAsciiLowercase head == first && lowercase tail == rest) =
        (head == first && tail == rest)
      rw [heads, tails]

theorem splitOnce_lowercase {separator : UInt8} (plain : isLetter separator = false) (text : Text) :
    splitOnce separator (lowercase text) =
      (splitOnce separator text).map fun parts => (lowercase parts.1, lowercase parts.2) := by
  induction text with
  | nil => rfl
  | cons head tail ih =>
    have heads := lowercase_beq head plain
    rw [BEq.comm, BEq.comm (a := separator)] at heads
    have unfolded : lowercase (head :: tail) = toAsciiLowercase head :: lowercase tail := rfl
    rw [unfolded, splitOnce, splitOnce, heads, ih]
    cases head == separator with
    | true => rfl
    | false => cases splitOnce separator tail <;> rfl

private theorem stripPrefix_lowercase {start : Text} (plain : hasLetter start = false) :
    stripPrefix (lowercase text) start = (stripPrefix text start).map lowercase := by
  unfold stripPrefix
  rw [startsWith_lowercase plain]
  cases startsWith text start with
  | false => rfl
  | true => simp [lowercase]

private theorem normalizeHost_lowercase (host : Text) :
    normalizeHost (lowercase host) = lowercase (normalizeHost host) := by
  unfold normalizeHost
  rw [stripPrefix_lowercase (by decide), splitOnce_lowercase (by decide)]
  cases stripPrefix host (literal "[") with
  | none =>
    cases splitOnce (ascii ':') host <;> rfl
  | some stripped =>
    simp only [Option.map_some, Option.bind_some]
    rw [splitOnce_lowercase (by decide)]
    cases splitOnce (ascii ']') stripped with
    | some => rfl
    | none => cases splitOnce (ascii ':') host <;> rfl

/-- No port behind it: no colon at all, or a literal in brackets. -/
def WithoutPort (host : Text) : Prop :=
  contains host (ascii ':') = false ∨
    ∃ address, contains address (ascii ']') = false ∧
      host = literal "[" ++ address ++ literal "]"

private theorem contains_lowercase (text : Text) (plain : isLetter byte = false) :
    contains (lowercase text) byte = contains text byte := by
  unfold contains lowercase
  rw [List.any_map]
  congr 1
  funext item
  have same := lowercase_beq item plain
  rwa [BEq.comm, BEq.comm (a := byte)] at same

theorem lowercase_append (front back : Text) :
    lowercase (front ++ back) = lowercase front ++ lowercase back :=
  List.map_append

theorem lowercase_eq_singleton (plain : isLetter byte = false) (same : lowercase text = [byte]) :
    text = [byte] := by
  have plainText : hasLetter [byte] = false := by simp [hasLetter, plain]
  exact beq_iff_eq.mp ((beq_lowercase plainText).symm.trans (beq_iff_eq.mpr same))

variable {host : Text}

theorem WithoutPort.of_lowercase {respelled : Text} (withoutPort : WithoutPort host)
    (lowered : lowercase respelled = lowercase host) : WithoutPort respelled := by
  rcases withoutPort with noColon | ⟨address, closed, rfl⟩
  · left
    rw [← contains_lowercase respelled (by decide), lowered, contains_lowercase host (by decide)]
    exact noColon
  · right
    rw [lowercase_append, lowercase_append] at lowered
    obtain ⟨front, closing, rfl, frontAt, closingAt⟩ := List.map_eq_append_iff.mp lowered
    obtain ⟨opening, middle, rfl, openingAt, middleAt⟩ := List.map_eq_append_iff.mp frontAt
    have opened : opening = literal "[" :=
      @lowercase_eq_singleton (ascii '[') _ (by decide) openingAt
    have ended : closing = literal "]" :=
      @lowercase_eq_singleton (ascii ']') _ (by decide) closingAt
    refine ⟨middle, ?_, by rw [opened, ended]⟩
    have middles : lowercase middle = lowercase address := middleAt
    rw [← contains_lowercase middle (by decide), middles, contains_lowercase address (by decide)]
    exact closed

def isDecimal (text : Text) : Bool := text.all fun byte => 48 ≤ byte && byte ≤ 57

def withPort (host port : Text) : Text := host ++ literal ":" ++ port

variable {port left right : Text}

private theorem isDecimal_without (decimal : isDecimal port = true)
    (other : (48 ≤ byte && byte ≤ 57) = false) : contains port byte = false := by
  rw [contains, List.any_eq_false]
  intro digit member same
  have within := List.all_eq_true.mp decimal digit member
  rw [beq_iff_eq.mp same, other] at within
  cases within

private theorem splitOnce_append_of_some {separator : UInt8} {parts : Text × Text}
    (found : splitOnce separator text = some parts) (back : Text) :
    splitOnce separator (text ++ back) = some (parts.1, parts.2 ++ back) := by
  induction text generalizing parts with
  | nil => cases found
  | cons head tail ih =>
    unfold splitOnce at found
    rw [List.cons_append, splitOnce]
    cases same : head == separator with
    | true =>
      rw [same] at found
      cases found
      rfl
    | false =>
      rw [same] at found
      obtain ⟨rest, foundRest, rfl⟩ := Option.map_eq_some_iff.mp found
      rw [ih foundRest]
      rfl

theorem normalizeHost_bracketed {address : Text} (closed : contains address (ascii ']') = false)
    (back : Text) : normalizeHost (literal "[" ++ address ++ literal "]" ++ back) = address := by
  unfold normalizeHost
  rw [List.append_assoc, List.append_assoc, stripPrefix_append]
  simp only [Option.bind_some]
  have split := splitOnce_append closed back
  change splitOnce (ascii ']') (address ++ (literal "]" ++ back)) = _ at split
  rw [split]

private theorem splitOnce_bracket_withPort {stripped : Text} (decimal : isDecimal port = true) :
    (splitOnce (ascii ']') (withPort stripped port)).map Prod.fst =
      (splitOnce (ascii ']') stripped).map Prod.fst := by
  unfold withPort
  cases found : splitOnce (ascii ']') stripped with
  | some =>
    rw [List.append_assoc, splitOnce_append_of_some found]
    rfl
  | none =>
    rw [splitOnce_absent]
    rw [contains_append, contains_append, splitOnce_eq_none found,
      isDecimal_without decimal (by decide)]
    rfl

private theorem stripPrefix_withPort (host port : Text) :
    stripPrefix (withPort host port) (literal "[") =
      (stripPrefix host (literal "[")).map fun stripped => withPort stripped port := by
  cases host with
  | nil => rfl
  | cons head =>
    have bracket : literal "[" = [91] := by decide
    rw [bracket]
    by_cases same : head = 91
    · simp [same, stripPrefix, startsWith, withPort]
    · simp [Ne.symm same, stripPrefix, startsWith, withPort]

private theorem normalizeHost_of_split
    (same : ((stripPrefix left (literal "[")).bind (splitOnce (ascii ']'))).map Prod.fst =
      ((stripPrefix right (literal "[")).bind (splitOnce (ascii ']'))).map Prod.fst)
    (leftHost : ((splitOnce (ascii ':') left).map Prod.fst).getD left = host)
    (rightHost : ((splitOnce (ascii ':') right).map Prod.fst).getD right = host) :
    normalizeHost left = normalizeHost right := by
  unfold normalizeHost
  cases foundLeft : (stripPrefix left (literal "[")).bind (splitOnce (ascii ']')) with
  | some =>
    cases foundRight : (stripPrefix right (literal "[")).bind (splitOnce (ascii ']')) with
    | some =>
      rw [foundLeft, foundRight] at same
      exact Option.some.inj same
    | none =>
      rw [foundLeft, foundRight] at same
      cases same
  | none =>
    cases foundRight : (stripPrefix right (literal "[")).bind (splitOnce (ascii ']')) with
    | some =>
      rw [foundLeft, foundRight] at same
      cases same
    | none =>
      have hosts := leftHost.trans rightHost.symm
      cases splitLeft : splitOnce (ascii ':') left <;>
        cases splitRight : splitOnce (ascii ':') right <;>
        rw [splitLeft, splitRight] at hosts <;> exact hosts

theorem normalizeHost_withPort (withoutPort : WithoutPort host) (decimal : isDecimal port = true) :
    normalizeHost (withPort host port) = normalizeHost host := by
  rcases withoutPort with noColon | ⟨address, closed, rfl⟩
  · have brackets :
        ((stripPrefix (withPort host port) (literal "[")).bind
            (splitOnce (ascii ']'))).map Prod.fst =
          ((stripPrefix host (literal "[")).bind (splitOnce (ascii ']'))).map Prod.fst := by
      rw [stripPrefix_withPort]
      cases stripPrefix host (literal "[") with
      | none => rfl
      | some => exact splitOnce_bracket_withPort decimal
    have cut : splitOnce (ascii ':') (withPort host port) = some (host, port) := by
      unfold withPort
      rw [List.append_assoc]
      exact splitOnce_append noColon port
    have whole := splitOnce_absent noColon
    exact @normalizeHost_of_split host _ _ brackets (by rw [cut]; rfl) (by rw [whole]; rfl)
  · have bare := normalizeHost_bracketed closed []
    rw [List.append_nil] at bare
    unfold withPort
    rw [bare, List.append_assoc (literal "[" ++ address ++ literal "]"),
      normalizeHost_bracketed closed]

private theorem hasLetter_drop (plain : hasLetter text = false) (count : Nat) :
    hasLetter (text.drop count) = false := by
  rw [hasLetter, List.any_eq_false] at plain ⊢
  intro byte member
  exact plain byte (List.mem_of_mem_drop member)

private theorem hasLetter_take (plain : hasLetter text = false) (count : Nat) :
    hasLetter (text.take count) = false := by
  rw [hasLetter, List.any_eq_false] at plain ⊢
  intro byte member
  exact plain byte (List.mem_of_mem_take member)

private theorem getElem?_lowercase_beq (text : Text) (index : Nat) (plain : isLetter byte = false) :
    ((lowercase text)[index]? == some byte) = (text[index]? == some byte) := by
  unfold lowercase
  rw [List.getElem?_map]
  cases text[index]? with
  | none => rfl
  | some found =>
    have same := lowercase_beq found plain
    rw [BEq.comm, BEq.comm (a := byte)] at same
    exact same

theorem hostMatches_lowercase {pattern : Text} (plain : hasLetter pattern = false) (host : Text) :
    hostMatches pattern (some (lowercase host)) = hostMatches pattern (some host) := by
  have lengths : (lowercase host).length = host.length := List.length_map _
  unfold hostMatches
  split
  · rfl
  · split
    · rename_i suffix stripped
      have plainSuffix : hasLetter suffix = false := by
        unfold stripPrefix at stripped
        split at stripped
        · cases stripped
          exact hasLetter_drop plain _
        · cases stripped
      simp only [Option.any_some]
      rw [endsWith_lowercase plainSuffix, lengths, getElem?_lowercase_beq host _ (by decide)]
    · split
      · rename_i start stripped
        have plainStart : hasLetter start = false := by
          unfold stripSuffix at stripped
          split at stripped
          · cases stripped
            exact hasLetter_take plain _
          · cases stripped
        simp only [Option.any_some]
        rw [startsWith_lowercase plainStart, lengths, getElem?_lowercase_beq host _ (by decide)]
      · simp only [Option.any_some]
        exact beq_lowercase plain

/-- A name the virtual host is meant for: its own, or one its pattern covers. -/
def VirtualHost.covers (vhost : VirtualHost ρ) (name : Text) : Bool :=
  if isWildcard vhost.host then hostMatches vhost.host (some name) else vhost.host == name

variable {vhost : VirtualHost ρ}

theorem VirtualHost.covers_lowercase (plain : hasLetter vhost.host = false) (name : Text) :
    vhost.covers (lowercase name) = vhost.covers name := by
  unfold covers
  split
  · exact hostMatches_lowercase plain name
  · rw [BEq.comm, beq_lowercase plain, BEq.comm]

/-- Where the hosts of a router come from. -/
structure Router.Lists (router : Router ρ) (routes : List (VirtualHost ρ)) : Prop where
  exact : ∀ name compiled, router.exactHosts.lookup name = some compiled →
    compiled.config ∈ routes ∧ compiled.config.host = name ∧
      isWildcard compiled.config.host = false
  wildcard : ∀ compiled ∈ router.wildcardHosts,
    compiled.config ∈ routes ∧ isWildcard compiled.config.host = true

variable {router : Router ρ} {routes : List (VirtualHost ρ)} {compiled : CompiledVirtualHost ρ}

theorem Router.Lists.insert (lists : router.Lists routes) (member : compiled.config ∈ routes) :
    (router.insert compiled).Lists routes := by
  unfold Router.insert
  cases wildcard : isWildcard compiled.config.host with
  | true =>
    refine ⟨lists.exact, ?_⟩
    intro other found
    rcases List.mem_append.mp found with earlier | newest
    · exact lists.wildcard other earlier
    · rw [List.mem_singleton.mp newest]
      exact ⟨member, wildcard⟩
  | false =>
    refine ⟨?_, lists.wildcard⟩
    intro name other found
    change (router.exactHosts.insert compiled.config.host compiled).lookup name = _ at found
    by_cases same : name = compiled.config.host
    · subst same
      rw [AList.lookup_insert] at found
      cases found
      exact ⟨member, rfl, wildcard⟩
    · rw [AList.lookup_insert_ne same] at found
      exact lists.exact name other found

private theorem compileVirtualHost_config {engine : RegexEngine}
    (ran : compileVirtualHost engine vhost = .ok compiled) : compiled.config = vhost := by
  unfold compileVirtualHost at ran
  split at ran
  · cases ran
  · cases ran
    rfl

theorem Router.Lists.addHost {after : Router ρ} (lists : router.Lists routes)
    (member : vhost ∈ routes) (added : router.addHost vhost = .ok after) : after.Lists routes := by
  unfold Router.addHost at added
  split at added
  · cases added
  · rename_i compiled ran
    cases added
    apply lists.insert
    rw [compileVirtualHost_config ran]
    exact member

theorem Router.Lists.addHosts (remaining : List (VirtualHost ρ)) {after : Router ρ}
    (lists : router.Lists routes) (members : ∀ vhost ∈ remaining, vhost ∈ routes)
    (added : remaining.foldlM Router.addHost router = .ok after) : after.Lists routes := by
  induction remaining generalizing router with
  | nil =>
    cases added
    exact lists
  | cons vhost rest ih =>
    rw [List.foldlM_cons] at added
    cases first : router.addHost vhost with
    | error =>
      rw [first] at added
      cases added
    | ok =>
      rw [first] at added
      exact ih (lists.addHost (members vhost List.mem_cons_self) first)
        (fun later member => members later (List.mem_cons_of_mem vhost member)) added

theorem Router.lists_withRegex {cache : RegexCache}
    (built : withRegex routes cache = .ok router) : router.Lists routes := by
  apply Lists.addHosts routes _ (fun _ member => member) built
  constructor
  · intro name compiled found
    cases found
  · intro compiled member
    cases member

def Request.withHost (request : Request) (host : Text) : Request :=
  { request with hostHeader := some host }

theorem matchRequest_withHost (router : Router ρ) (request : Request) (host : Text) :
    (matchRequest router (request.withHost host)).selection =
      ((router.exactHosts.lookup (normalizeHost host)).bind fun vhost =>
          (tryMatch router.cache request vhost).selection).or
        (router.wildcardHosts.findSome? fun vhost =>
          if hostMatches vhost.config.host (some (normalizeHost host)) then
            (tryMatch router.cache request vhost).selection
          else none) :=
  matchRequest_selection router (request.withHost host)

private theorem matchRequest_withPort (router : Router ρ) (request : Request)
    (withoutPort : WithoutPort host) (decimal : isDecimal port = true) :
    (matchRequest router (request.withHost (withPort host port))).selection =
      (matchRequest router (request.withHost host)).selection := by
  rw [matchRequest_withHost, matchRequest_withHost, normalizeHost_withPort withoutPort decimal]

theorem Router.Lists.exact_name (lists : router.Lists routes) {name other : Text}
    (found : router.exactHosts.lookup name = some compiled)
    (same : compiled.config.covers name = compiled.config.covers other) : name = other := by
  obtain ⟨_, hostAt, plain⟩ := lists.exact name compiled found
  unfold VirtualHost.covers at same
  rw [plain, hostAt] at same
  simp only [Bool.false_eq_true, if_false, beq_self_eq_true] at same
  exact beq_iff_eq.mp same.symm

theorem Router.Lists.exact_lookup (lists : router.Lists routes)
    (same : ∀ vhost ∈ routes, vhost.covers left = vhost.covers right) :
    router.exactHosts.lookup left = router.exactHosts.lookup right := by
  cases foundLeft : router.exactHosts.lookup left with
  | some compiled =>
    have member := (lists.exact left compiled foundLeft).1
    rw [← lists.exact_name foundLeft (same compiled.config member), foundLeft]
  | none =>
    cases foundRight : router.exactHosts.lookup right with
    | none => rfl
    | some compiled =>
      have member := (lists.exact right compiled foundRight).1
      rw [← lists.exact_name foundRight (same compiled.config member).symm, foundRight]
        at foundLeft
      cases foundLeft

private theorem matchRequest_covers (lists : router.Lists routes) (request : Request)
    (same : ∀ vhost ∈ routes,
      vhost.covers (normalizeHost left) = vhost.covers (normalizeHost right)) :
    (matchRequest router (request.withHost left)).selection =
      (matchRequest router (request.withHost right)).selection := by
  have patterns : ∀ vhost ∈ router.wildcardHosts,
      hostMatches vhost.config.host (some (normalizeHost left)) =
        hostMatches vhost.config.host (some (normalizeHost right)) := by
    intro vhost member
    obtain ⟨listed, wildcard⟩ := lists.wildcard vhost member
    have covered := same vhost.config listed
    unfold VirtualHost.covers at covered
    rw [wildcard] at covered
    exact covered
  rw [matchRequest_withHost, matchRequest_withHost, lists.exact_lookup same]
  congr 1
  apply findSome?_congr
  intro vhost member
  rw [patterns vhost member]

/-- The port never matters. The case of letters does not matter as long as the
hosts that spell out letters cover both spellings or neither. -/
theorem host_spelling_immaterial (routes : List (VirtualHost ρ)) (cache : RegexCache)
    (router : Router ρ) (built : Router.withRegex routes cache = .ok router) (request : Request)
    (host respelled port : Text) (withoutPort : WithoutPort host)
    (decimal : isDecimal port = true) (sameLetters : eqIgnoreAsciiCase respelled host = true) :
    (matchRequest router (request.withHost (withPort host port))).selection =
        (matchRequest router (request.withHost host)).selection ∧
      (matchRequest router (request.withHost (withPort respelled port))).selection =
        (matchRequest router (request.withHost respelled)).selection ∧
      ((∀ vhost ∈ routes, hasLetter vhost.host = true →
          vhost.covers (normalizeHost respelled) = vhost.covers (normalizeHost host)) →
        (matchRequest router (request.withHost respelled)).selection =
          (matchRequest router (request.withHost host)).selection) := by
  have lowered : lowercase respelled = lowercase host := beq_iff_eq.mp sameLetters
  refine ⟨matchRequest_withPort router request withoutPort decimal,
    matchRequest_withPort router request (withoutPort.of_lowercase lowered) decimal, ?_⟩
  intro spelledOut
  apply matchRequest_covers (Router.lists_withRegex built)
  intro vhost member
  cases plain : hasLetter vhost.host with
  | true => exact spelledOut vhost member plain
  | false =>
    rw [← vhost.covers_lowercase plain, ← normalizeHost_lowercase, lowered,
      normalizeHost_lowercase, vhost.covers_lowercase plain]

def anyRoute (policy : Nat) : Route Nat :=
  { matcher := { path := .prefixed (literal "/"), method := .any, headers := .none }
    policy := policy }

def namedAndCatchAll : List (VirtualHost Nat) :=
  [{ host := literal "api.test", paths := [anyRoute 0] },
    { host := literal "*", paths := [anyRoute 1] }]

def domainAndCatchAll : List (VirtualHost Nat) :=
  [{ host := literal "*.test", paths := [anyRoute 0] },
    { host := literal "*", paths := [anyRoute 1] }]

def getRoot : Request :=
  { hostHeader := none
    uriPath := literal "/"
    method := literal "GET"
    headers := [] }

def selectedPolicy (routes : List (VirtualHost Nat)) (host : String) : Option Nat :=
  match Router.withRegex routes emptyCache with
  | .ok router =>
    (matchRequest router (getRoot.withHost (literal host))).selection.map
      fun selection => selection.route.policy
  | .error _ => none

theorem host_case_changes_route :
    eqIgnoreAsciiCase (literal "API.test") (literal "api.test") = true ∧
      namedAndCatchAll.Pairwise (fun left right =>
        eqIgnoreAsciiCase left.host right.host = false) ∧
      selectedPolicy namedAndCatchAll "api.test" = some 0 ∧
      selectedPolicy namedAndCatchAll "API.test" = some 1 := by
  decide

theorem host_spelling_immaterial_underDomain :
    ∃ router, Router.withRegex domainAndCatchAll emptyCache = .ok router ∧
      (matchRequest router (getRoot.withHost (literal "Web.test:80"))).selection =
        (matchRequest router (getRoot.withHost (literal "web.test"))).selection := by
  refine ⟨_, rfl, ?_⟩
  obtain ⟨_, withPort, sameCase⟩ := host_spelling_immaterial domainAndCatchAll emptyCache _ rfl
    getRoot (literal "web.test") (literal "Web.test") (literal "80") (.inl (by decide))
    (by decide) (by decide)
  exact withPort.trans (sameCase (by decide))

end Pavis.Routing
