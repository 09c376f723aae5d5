/-
The identity of a client and the principal of a route.

Decoding the certificate is a parameter: what is left of it here are its alternative
names. A prefix principal compares texts.
-/

import Pavis.Config.Runtime

namespace Pavis.Proxy

open ByteText Config

inductive GeneralName where
  | uri (text : Text)
  | other
  deriving DecidableEq

/-- A URI that is no SPIFFE id is passed over, a malformed SPIFFE id is an error. -/
def parseSpiffeUri (uri : Text) : Except Unit (Option Text) :=
  match splitOnceAt (literal "://") uri with
  | none => .ok none
  | some (scheme, rest) =>
    if eqIgnoreAsciiCase scheme (literal "spiffe") = false then .ok none
    else if rest = [] then .error ()
    else
      match splitOnce (ascii '/') rest with
      | none => .error ()
      | some (trustDomain, path) =>
        if trustDomain = [] ∨ path = [] ∨ path.all (fun byte => byte == ascii '/') = true then
          .error ()
        else .ok (some (literal "spiffe://" ++ rest))

def scanNames : Option Text → List GeneralName → Option Text
  | spiffeId, [] => spiffeId
  | spiffeId, .other :: rest => scanNames spiffeId rest
  | spiffeId, .uri uri :: rest =>
    match parseSpiffeUri uri with
    | .ok (some candidate) => if spiffeId.isSome then none else scanNames (some candidate) rest
    | .ok none => scanNames spiffeId rest
    | .error _ => none

/-- The alternative names of a certificate, if it has any. -/
abbrev AlternativeNames := Option (List GeneralName)

def extractSpiffeIdFromCert (names : AlternativeNames) : Option Text :=
  names.bind (scanNames none)

/-- Nothing without TLS, without a certificate or with one that does not decode. -/
def extractClientIdentity (certificate : Option AlternativeNames) : Option Text :=
  certificate.bind extractSpiffeIdFromCert

def isAuthorized (principal : Principal) (clientIdentity : Option Text) : Bool :=
  match principal with
  | .any => true
  | .authenticated spiffe => clientIdentity.any fun identity => identity == spiffe
  | .prefixed start => clientIdentity.any fun identity => startsWith identity start

/-- A trust domain and a path that is more than slashes. -/
def IsSpiffeId (id : Text) : Prop :=
  ∃ trustDomain path, id = literal "spiffe://" ++ (trustDomain ++ ascii '/' :: path) ∧
    trustDomain ≠ [] ∧ contains trustDomain (ascii '/') = false ∧
    path.all (fun byte => byte == ascii '/') = false

theorem parseSpiffeUri_isSpiffeId {uri id : Text} (parsed : parseSpiffeUri uri = .ok (some id)) :
    IsSpiffeId id := by
  unfold parseSpiffeUri at parsed
  split at parsed
  · cases parsed
  · split at parsed
    · cases parsed
    · split at parsed
      · cases parsed
      · split at parsed
        · cases parsed
        · rename_i trustDomain path separated
          split at parsed
          · cases parsed
          · rename_i wellFormed
            cases parsed
            obtain ⟨absent, rfl⟩ := splitOnce_eq_some.mp separated
            simp only [not_or, Bool.not_eq_true] at wellFormed
            exact ⟨trustDomain, path, rfl, wellFormed.1, absent, wellFormed.2.2⟩

private theorem scanNames_isSpiffeId {names : List GeneralName} {spiffeId : Option Text} {id : Text}
    (sofar : ∀ found ∈ spiffeId, IsSpiffeId found) (scanned : scanNames spiffeId names = some id) :
    IsSpiffeId id := by
  induction names generalizing spiffeId with
  | nil => exact sofar id scanned
  | cons name rest ih =>
    cases name with
    | other => exact ih sofar scanned
    | uri =>
      unfold scanNames at scanned
      split at scanned
      · rename_i candidate parsed
        split at scanned
        · cases scanned
        · apply ih _ scanned
          intro found same
          cases same
          exact parseSpiffeUri_isSpiffeId parsed
      · exact ih sofar scanned
      · cases scanned

private theorem parseSpiffeUri_of_isSpiffeId {id : Text} (wellFormed : IsSpiffeId id) :
    parseSpiffeUri id = .ok (some id) := by
  obtain ⟨trustDomain, path, rfl, named, absent, more⟩ := wellFormed
  have scheme : splitOnceAt (literal "://")
      (literal "spiffe://" ++ (trustDomain ++ ascii '/' :: path)) =
        some (literal "spiffe", trustDomain ++ ascii '/' :: path) := rfl
  have nonempty : path ≠ [] := by
    intro empty
    rw [empty] at more
    cases more
  unfold parseSpiffeUri
  rw [scheme]
  dsimp only
  rw [if_neg (by decide), if_neg (by simp), splitOnce_append absent]
  dsimp only
  rw [if_neg (by simp [named, nonempty, more])]

theorem extractClientIdentity_iff (id : Text) :
    (∃ certificate, extractClientIdentity certificate = some id) ↔ IsSpiffeId id := by
  constructor
  · rintro ⟨certificate, extracted⟩
    obtain ⟨names, _, present⟩ := Option.bind_eq_some_iff.mp extracted
    obtain ⟨listed, _, scanned⟩ := Option.bind_eq_some_iff.mp present
    exact scanNames_isSpiffeId (fun found none => absurd none (Option.not_mem_none found)) scanned
  · intro wellFormed
    refine ⟨some (some [.uri id]), ?_⟩
    change scanNames none [.uri id] = some id
    unfold scanNames
    rw [parseSpiffeUri_of_isSpiffeId wellFormed]
    rfl

/-- The id is the text itself, or goes on where a segment of it ends. -/
def ContinuesSegment (start id : Text) : Prop :=
  id = start ∨ (∃ rest, id = start ++ ascii '/' :: rest) ∨ start.getLast? = some (ascii '/')

theorem isAuthorized_prefixed_iff (start : Text) (identity : Option Text) :
    isAuthorized (.prefixed start) identity = true ↔
      ∃ id rest, identity = some id ∧ id = start ++ rest := by
  unfold isAuthorized
  cases identity with
  | none => simp
  | some id =>
    simp only [Option.any_some, startsWith, List.isPrefixOf_iff_prefix, Option.some.injEq]
    constructor
    · rintro ⟨rest, same⟩
      exact ⟨id, rest, rfl, same.symm⟩
    · rintro ⟨_, rest, rfl, rfl⟩
      exact ⟨rest, rfl⟩

theorem not_continuesSegment {start rest : Text} {byte : UInt8} (inside : byte ≠ ascii '/')
    (unended : start.getLast? ≠ some (ascii '/')) :
    ¬ ContinuesSegment start (start ++ byte :: rest) := by
  rintro (same | ⟨later, same⟩ | ends)
  · have lengths := congrArg List.length same
    rw [List.length_append, List.length_cons] at lengths
    omega
  · have tails := List.append_cancel_left same
    exact inside (List.cons.inj tails).1
  · exact unended ends

private theorem scheme_position : ∀ position : Fin 9,
    ((literal "spiffe://").take position).getLast? = some (ascii '/') ∨
      (literal "spiffe://").take position = literal "spiffe:" ∨
      (literal "spiffe://")[position.val]? ≠ some (ascii '/') := by
  decide

private theorem unsafe_of_scheme {start rest body : Text} {byte : UInt8}
    (scheme : literal "spiffe://" = start ++ byte :: rest)
    (unended : start.getLast? ≠ some (ascii '/')) (notScheme : start ≠ literal "spiffe:") :
    ¬ ContinuesSegment start (start ++ byte :: (rest ++ body)) := by
  apply not_continuesSegment _ unended
  have shorter : start.length < 9 := by
    have lengths := congrArg List.length scheme
    rw [List.length_append, List.length_cons] at lengths
    change 9 = _ at lengths
    omega
  have taken : (literal "spiffe://").take start.length = start := by
    rw [scheme, List.take_left]
  have next : (literal "spiffe://")[start.length]? = some byte := by
    rw [scheme, List.getElem?_append_right (Nat.le_refl _), Nat.sub_self]
    rfl
  have placed := scheme_position ⟨start.length, shorter⟩
  dsimp only at placed
  rw [taken, next] at placed
  rcases placed with ends | colon | inside
  · exact absurd ends unended
  · exact absurd colon notScheme
  · exact fun slash => inside (congrArg some slash)

private theorem exists_unsafe_id {inside rest : Text}
    (wellFormed : IsSpiffeId (literal "spiffe://" ++ (inside ++ rest)))
    (nonempty : inside ≠ []) (unended : inside.getLast? ≠ some (ascii '/')) :
    ∃ later, IsSpiffeId (literal "spiffe://" ++ (inside ++ ascii 'x' :: later)) := by
  obtain ⟨trustDomain, path, same, named, absent, _⟩ := wellFormed
  have body := List.append_cancel_left same
  cases separated : splitOnce (ascii '/') inside with
  | none =>
    -- The text ends within the trust domain.
    refine ⟨literal "/a", inside ++ [ascii 'x'], literal "a", by simp [literal], by simp, ?_,
      by decide⟩
    have plain := splitOnce_eq_none separated
    rw [contains] at plain ⊢
    rw [List.any_append, plain]
    decide
  | some parts =>
    -- It ends within the path, behind something that is no slash.
    obtain ⟨plain, rfl⟩ := splitOnce_eq_some.mp separated
    have split := splitOnce_append plain (parts.2 ++ rest)
    rw [List.append_assoc, List.cons_append] at body
    rw [body, splitOnce_append absent] at split
    have domain : trustDomain = parts.1 := congrArg Prod.fst (Option.some.inj split)
    refine ⟨[], parts.1, parts.2 ++ [ascii 'x'], by simp, domain ▸ named, plain, ?_⟩
    rw [List.all_append]
    simp only [List.all_cons, List.all_nil]
    exact Bool.and_eq_false_imp.mpr fun _ => by decide

theorem prefixed_segments_iff (start : Text) :
    (∀ id, IsSpiffeId id → isAuthorized (.prefixed start) (some id) = true →
        ContinuesSegment start id) ↔
      start.getLast? = some (ascii '/') ∨ start = literal "spiffe:" ∨
        ∀ id, IsSpiffeId id → isAuthorized (.prefixed start) (some id) = false := by
  have admits : ∀ rest, isAuthorized (.prefixed start) (some (start ++ rest)) = true := fun rest =>
    (isAuthorized_prefixed_iff start _).mpr ⟨_, rest, rfl, rfl⟩
  constructor
  · intro segments
    by_cases ended : start.getLast? = some (ascii '/')
    · exact Or.inl ended
    by_cases scheme : start = literal "spiffe:"
    · exact Or.inr (Or.inl scheme)
    refine Or.inr (Or.inr ?_)
    intro id wellFormed
    rw [← Bool.not_eq_true]
    intro admitted
    obtain ⟨_, rest, same, spelled⟩ := (isAuthorized_prefixed_iff start _).mp admitted
    cases same
    have continues := segments id wellFormed admitted
    obtain ⟨trustDomain, path, parts, valid⟩ := wellFormed
    rcases List.append_eq_append_iff.mp (spelled.symm.trans parts) with
      ⟨inside, within, later⟩ | ⟨inside, beyond, later⟩
    · cases inside with
      | nil =>
        rw [List.append_nil] at within
        rw [← within] at ended
        exact absurd rfl ended
      | cons =>
        rw [spelled, later, List.cons_append] at continues
        exact unsafe_of_scheme within ended scheme continues
    · have nonempty : inside ≠ [] := by
        rintro rfl
        rw [beyond, List.append_nil] at ended
        exact absurd rfl ended
      have unended : inside.getLast? ≠ some (ascii '/') := by
        rw [beyond, List.getLast?_append] at ended
        cases last : inside.getLast? with
        | none => simp
        | some =>
          rw [last] at ended
          exact ended
      obtain ⟨more, another⟩ := exists_unsafe_id
        (show IsSpiffeId (literal "spiffe://" ++ (inside ++ rest)) from
          ⟨trustDomain, path, by rw [later], valid⟩) nonempty unended
      rw [← List.append_assoc, ← beyond] at another
      exact not_continuesSegment (by decide) ended (segments _ another (admits _))
  · rintro (ended | rfl | refused) id wellFormed admitted
    · exact Or.inr (Or.inr ended)
    · obtain ⟨trustDomain, path, rfl, _⟩ := wellFormed
      exact Or.inr (Or.inl ⟨_, rfl⟩)
    · rw [refused id wellFormed] at admitted
      cases admitted

end Pavis.Proxy
