/-
The rewritten path of a request.

What follows the matched prefix is put behind the replacement, byte for byte, and the
query behind that. The validator takes prefixes without a trailing slash, so the slash
after the prefix is part of what follows it.
-/

import Mathlib.Data.List.TakeWhile
import Pavis.Config.Accepted
import Pavis.Library.Segments

namespace Pavis.Proxy

open ByteText Config Segments
open Routing (PathMatch RegexEngine wordEngine)

structure Uri where
  path : Text
  query : Option Text
  deriving DecidableEq

def splitQuery (text : Text) : Text × Option Text :=
  match splitOnce (ascii '?') text with
  | some (path, query) => (path, some query)
  | none => (text, none)

/-- The HTTP library on a path with a query. It stops at a fragment and reads an empty
path as "/". Which texts it takes is the parameter. -/
def Uri.ofPathAndQuery (takes : Text → Bool) (text : Text) : Option Uri :=
  if takes text then
    let parts := splitQuery (text.takeWhile fun byte => byte != ascii '#')
    some { path := if parts.1.isEmpty then literal "/" else parts.1, query := parts.2 }
  else none

/-- The path and the query of a request as they come out of the parser. -/
structure RequestTarget where
  path : Text
  query : Option Text
  pathPlain : contains path (ascii '?') = false ∧ contains path (ascii '#') = false
  queryPlain : ∀ text, query = some text → contains text (ascii '#') = false

def newPath (matcher : PathMatch) (replacement uriPath : Text) : Option Text :=
  match matcher with
  | .prefixed path => (stripPrefix uriPath path).map fun suffix => replacement ++ suffix
  | .exact path => if uriPath = path then some replacement else none
  | .regex _ => none

def withQuery (path : Text) (query : Option Text) : Text :=
  match query with
  | some query => path ++ ascii '?' :: query
  | none => path

def calculatePathRewrite (takes : Text → Bool) (route : Route) (uriPath : Text)
    (uriQuery : Option Text) : Option Uri :=
  match route.policy.rewrite.path with
  | .disabled => none
  | .prefixed _ replacement =>
    match newPath route.matcher.path replacement uriPath with
    | some path => Uri.ofPathAndQuery takes (withQuery path uriQuery)
    | none => none

def pathSegments (path : Text) : List Text := segments (ascii '/') path

/-- The path is absolute, the query is kept, and the segments are those of the
replacement and then those of the request behind the segments of the route's path. -/
structure SegmentsPreserved (route : Route) (replacement : Text) (target : RequestTarget)
    (uri : Uri) : Prop where
  absolute : startsWith uri.path (literal "/") = true
  query : uri.query = target.query
  segments : pathSegments uri.path = pathSegments replacement ++
    (pathSegments target.path).drop (pathSegments (routePath route)).length

/-- Replacement and rest do not run into each other: there is no rest, it starts with a
slash, or the slash that the prefix "/" took is at the end of the replacement. -/
def SeamKept (path replacement suffix : Text) : Prop :=
  suffix = [] ∨ startsWith suffix (literal "/") = true ∨
    path = literal "/" ∧ endsWith replacement (literal "/") = true

structure PlainReplacement (replacement : Text) : Prop where
  noQuery : contains replacement (ascii '?') = false
  noFragment : contains replacement (ascii '#') = false

/-- The condition on the route and the path of the request. An exact route leaves no
rest. -/
def Rewritable (matcher : PathMatch) (replacement uriPath : Text) : Prop :=
  PlainReplacement replacement ∧
    match matcher with
    | .prefixed path => SeamKept path replacement (uriPath.drop path.length)
    | .exact _ => True
    | .regex _ => True

variable {text path replacement : Text} {target : RequestTarget} {takes : Text → Bool} {uri : Uri}

private theorem takeWhile_plain (plain : contains text (ascii '#') = false) :
    text.takeWhile (fun byte => byte != ascii '#') = text := by
  rw [List.takeWhile_eq_self_iff]
  intro byte member
  rw [bne_iff_ne]
  rintro rfl
  exact contains_eq_false.mp plain member

theorem splitQuery_withQuery (plain : contains path (ascii '?') = false) (query : Option Text) :
    splitQuery (withQuery path query) = (path, query) := by
  cases query with
  | none => rw [withQuery, splitQuery, splitOnce_absent plain]
  | some => rw [withQuery, splitQuery, splitOnce_append plain]

private theorem withQuery_plain (plain : contains path (ascii '#') = false) :
    contains (withQuery path target.query) (ascii '#') = false := by
  cases given : target.query with
  | none => exact plain
  | some query =>
    have inPath := contains_eq_false.mp plain
    have inQuery := contains_eq_false.mp (target.queryPlain query given)
    have other : ascii '#' ≠ ascii '?' := by decide
    rw [withQuery, contains_eq_false]
    simp [inPath, inQuery, other]

private theorem ofPathAndQuery_withQuery (present : path ≠ []) (plain : PlainReplacement path)
    (parsed : Uri.ofPathAndQuery takes (withQuery path target.query) = some uri) :
    uri = { path := path, query := target.query } := by
  unfold Uri.ofPathAndQuery at parsed
  split at parsed
  · rw [takeWhile_plain (withQuery_plain plain.noFragment), splitQuery_withQuery plain.noQuery]
      at parsed
    cases parsed
    simp [present]
  · cases parsed

private theorem splitQuery_fst_plain (text : Text) :
    ascii '?' ∉ (splitQuery text).1 ∧ ∀ byte ∈ (splitQuery text).1, byte ∈ text := by
  unfold splitQuery
  split
  · rename_i path query split
    obtain ⟨plain, whole⟩ := splitOnce_eq_some.mp split
    refine ⟨contains_eq_false.mp plain, fun byte member => ?_⟩
    rw [whole]
    exact List.mem_append_left _ member
  · rename_i split
    exact ⟨contains_eq_false.mp (splitOnce_eq_none split), fun _ member => member⟩

private theorem ofPathAndQuery_path_plain (parsed : Uri.ofPathAndQuery takes text = some uri) :
    ascii '?' ∉ uri.path ∧ ascii '#' ∉ uri.path := by
  unfold Uri.ofPathAndQuery at parsed
  split at parsed
  · cases parsed
    obtain ⟨noQuery, inside⟩ := splitQuery_fst_plain
      (text.takeWhile fun byte => byte != ascii '#')
    have noFragment : ascii '#' ∉
        (splitQuery (text.takeWhile fun byte => byte != ascii '#')).1 := by
      intro member
      have dropped := List.mem_takeWhile_imp (inside _ member)
      simp at dropped
    dsimp only
    split
    · decide
    · exact ⟨noQuery, noFragment⟩
  · cases parsed

/-! ### The seam -/

theorem startsWith_slash {head : UInt8} {rest : Text} :
    startsWith (head :: rest) (literal "/") = true ↔ head = ascii '/' := by
  have slash : literal "/" = [ascii '/'] := rfl
  rw [startsWith, slash, List.isPrefixOf_iff_prefix, List.cons_prefix_cons]
  exact ⟨fun both => both.1.symm, fun same => ⟨same.symm, List.nil_prefix⟩⟩

theorem endsWith_slash {front : Text} {last : UInt8} :
    endsWith (front ++ [last]) (literal "/") = true ↔ last = ascii '/' := by
  have slash : literal "/" = [ascii '/'] := rfl
  rw [endsWith, slash, List.isSuffixOf_iff_suffix]
  constructor
  · rintro ⟨other, same⟩
    exact (List.cons.inj (List.append_inj' same rfl).2).1.symm
  · rintro rfl
    exact List.suffix_append front _

theorem normalized_cases (normalized : IsNormalized path) :
    path = literal "/" ∨ ∃ front last, last ≠ ascii '/' ∧ path = front ++ [last] := by
  obtain ⟨starts, notTrailing⟩ := normalized
  rcases List.eq_nil_or_concat' path with rfl | ⟨front, last, rfl⟩
  · cases starts
  · by_cases slash : last = ascii '/'
    · left
      have short : ¬ (front ++ [last]).length > 1 :=
        fun long => notTrailing ⟨long, endsWith_slash.mpr slash⟩
      rw [List.length_append, List.length_singleton] at short
      rw [List.eq_nil_of_length_eq_zero (by omega : front.length = 0), slash]
      rfl
    · exact .inr ⟨front, last, slash, rfl⟩

section

variable {path replacement rest : Text} {head : UInt8}

theorem segments_root_iff (present : replacement ≠ []) (opening : head ≠ ascii '/') :
    pathSegments (replacement ++ head :: rest) =
        pathSegments replacement ++ pathSegments (head :: rest) ↔
      endsWith replacement (literal "/") = true := by
  obtain ⟨front, last, rfl⟩ := (List.eq_nil_or_concat' replacement).resolve_left present
  rw [endsWith_slash]
  unfold pathSegments
  by_cases slash : last = ascii '/'
  · subst slash
    have whole : front ++ [ascii '/'] ++ head :: rest = front ++ ascii '/' :: head :: rest := by
      simp
    have closed := segments_separated (ascii '/') front []
    rw [segments_nil, List.append_nil] at closed
    rw [whole, segments_separated, closed]
    exact ⟨fun _ => rfl, fun _ => rfl⟩
  · obtain ⟨pieces, closing, first, others, _, _, frontSegments, backSegments, glued⟩ :=
      segments_glued (ascii '/') front rest slash opening
    rw [glued, frontSegments, backSegments]
    constructor
    · intro same
      have lengths := congrArg List.length same
      simp at lengths
    · intro same
      exact absurd same slash

private theorem segments_inside_ne (present : replacement ≠ []) {front : Text} {last : UInt8}
    (closing : last ≠ ascii '/') (opening : head ≠ ascii '/') :
    pathSegments (replacement ++ head :: rest) ≠
      pathSegments replacement ++ (pathSegments (front ++ [last] ++ head :: rest)).drop
        (pathSegments (front ++ [last])).length := by
  unfold pathSegments
  obtain ⟨pieces, ending, first, others, _, nonempty, pathOwn, restOwn, together⟩ :=
    segments_glued (ascii '/') front rest closing opening
  have left : (segments (ascii '/') (front ++ [last] ++ head :: rest)).drop
      (segments (ascii '/') (front ++ [last])).length = others := by
    rw [together, pathOwn, List.length_append, List.length_singleton, ← List.drop_drop,
      List.drop_left]
    rfl
  rw [left]
  obtain ⟨before, final, rfl⟩ := (List.eq_nil_or_concat' replacement).resolve_left present
  by_cases slash : final = ascii '/'
  · have root : segments (ascii '/') (before ++ [final] ++ head :: rest) =
        segments (ascii '/') (before ++ [final]) ++ segments (ascii '/') (head :: rest) :=
      (segments_root_iff present opening).mpr (endsWith_slash.mpr slash)
    rw [root, restOwn]
    intro same
    have lengths := congrArg List.length same
    simp at lengths
  · obtain ⟨ownPieces, ownLast, ownFirst, ownRest, _, _, own, restAgain, glued⟩ :=
      segments_glued (ascii '/') before rest slash opening
    rw [restOwn] at restAgain
    cases restAgain
    rw [glued, own]
    intro same
    have sides : ownLast ++ first = ownLast := by
      have joined := List.append_cancel_left (same.trans (List.append_assoc _ _ _))
      exact (List.cons.inj joined).1
    exact nonempty (List.append_right_eq_self.mp sides)

end

private theorem segments_seam_iff (normalized : IsNormalized path) (present : replacement ≠ [])
    (suffix : Text) :
    pathSegments (replacement ++ suffix) =
        pathSegments replacement ++
          (pathSegments (path ++ suffix)).drop (pathSegments path).length ↔
      SeamKept path replacement suffix := by
  unfold SeamKept
  cases suffix with
  | nil => simp
  | cons head rest =>
    rw [startsWith_slash]
    by_cases slash : head = ascii '/'
    · subst slash
      simp [pathSegments, segments_separated]
    · rcases normalized_cases normalized with rfl | ⟨front, last, closing, rfl⟩
      · have root : pathSegments (literal "/") = [] := by decide
        have opened : pathSegments (literal "/" ++ head :: rest) = pathSegments (head :: rest) :=
          segments_cons_separator (ascii '/') (head :: rest)
        rw [root, opened, List.length_nil, List.drop_zero, segments_root_iff present slash]
        simp [slash]
      · have other : front ++ [last] ≠ literal "/" := by
          intro same
          have ends := List.append_inj' (same.trans (List.nil_append _).symm) rfl
          exact closing (List.cons.inj ends.2).1
        constructor
        · intro same
          exact absurd same (segments_inside_ne present closing slash)
        · intro kept
          simp [slash, other] at kept

private theorem plainReplacement_of_preserved {route : Route}
    (parsed : Uri.ofPathAndQuery takes text = some uri)
    (preserved : SegmentsPreserved route replacement target uri) :
    PlainReplacement replacement := by
  obtain ⟨noQuery, noFragment⟩ := ofPathAndQuery_path_plain parsed
  have cut : ∀ byte, byte ≠ ascii '/' → byte ∉ uri.path → contains replacement byte = false := by
    intro byte inside missing
    rw [contains_eq_false]
    intro member
    obtain ⟨piece, listed, held⟩ := exists_segment (ascii '/') member inside
    refine missing (mem_of_mem_segments (ascii '/') ?_ held)
    have kept := preserved.segments
    unfold pathSegments at kept
    rw [kept]
    exact List.mem_append_left _ listed
  exact ⟨cut _ (by decide) noQuery, cut _ (by decide) noFragment⟩

private theorem newPath_split {route : Route} {uriPath : Text}
    (found : newPath route.matcher.path replacement uriPath = some text) :
    (matchKey route.matcher.path).1 ≠ .regex ∧ ∃ suffix,
      uriPath = routePath route ++ suffix ∧ text = replacement ++ suffix ∧
        (Rewritable route.matcher.path replacement uriPath ↔
          PlainReplacement replacement ∧ SeamKept (routePath route) replacement suffix) := by
  unfold routePath
  cases matcher : route.matcher.path with
  | prefixed =>
    rw [matcher] at found
    obtain ⟨suffix, stripped, rfl⟩ := Option.map_eq_some_iff.mp found
    have whole := eq_append_of_stripPrefix stripped
    refine ⟨by simp [matchKey], suffix, whole, rfl, ?_⟩
    rw [whole, Rewritable]
    simp only [List.drop_left, matchKey]
  | exact path =>
    have unfolded : newPath (.exact path) replacement uriPath =
        if uriPath = path then some replacement else none := rfl
    rw [matcher, unfolded] at found
    split at found
    · rename_i same
      cases found
      refine ⟨by simp [matchKey], [], ?_, (List.append_nil _).symm, ?_⟩
      · rw [same, List.append_nil]
        rfl
      · simp [Rewritable, SeamKept]
    · cases found
  | regex =>
    rw [matcher] at found
    cases found

/-- Where a rewrite of a validated route yields a path, the segments are preserved
exactly if the replacement has neither query nor fragment and the seam is kept. -/
theorem calculatePathRewrite_preserves_iff {engine : RegexEngine} {upstreamNames : List Text}
    {host : Text} {scan after : RouteScan engine} {route : Route}
    (validated : validateRoute upstreamNames host scan route = .ok after)
    {source replacement : Text}
    (rewrites : route.policy.rewrite.path = .prefixed source replacement)
    (absolute : startsWith replacement (literal "/") = true)
    {takes : Text → Bool} {target : RequestTarget} {uri : Uri}
    (returned : calculatePathRewrite takes route target.path target.query = some uri) :
    SegmentsPreserved route replacement target uri ↔
      Rewritable route.matcher.path replacement target.path := by
  have present : replacement ≠ [] := by
    rintro rfl
    cases absolute
  simp only [calculatePathRewrite, rewrites] at returned
  cases found : newPath route.matcher.path replacement target.path with
  | none =>
    rw [found] at returned
    cases returned
  | some =>
    rw [found] at returned
    obtain ⟨noRegex, suffix, whole, rfl, condition⟩ := newPath_split found
    have normalized := (validateRoute_ok validated).1.normalized noRegex
    -- with a plain replacement the parser gives back what was put together
    have parsed : PlainReplacement replacement →
        uri = { path := replacement ++ suffix, query := target.query } := by
      intro plain
      have suffixPlain := target.pathPlain
      simp only [whole, contains_append, Bool.or_eq_false_iff] at suffixPlain
      refine ofPathAndQuery_withQuery (List.append_ne_nil_of_left_ne_nil present suffix) ?_
        returned
      constructor
      · rw [contains_append, plain.noQuery, suffixPlain.1.2]
        rfl
      · rw [contains_append, plain.noFragment, suffixPlain.2.2]
        rfl
    have seam := segments_seam_iff normalized present suffix
    rw [← whole] at seam
    rw [condition]
    constructor
    · intro preserved
      have plain := plainReplacement_of_preserved returned preserved
      have kept := preserved.segments
      rw [parsed plain] at kept
      exact ⟨plain, seam.mp kept⟩
    · rintro ⟨plain, kept⟩
      rw [parsed plain]
      refine ⟨?_, rfl, seam.mpr kept⟩
      obtain ⟨head, rest, rfl⟩ := List.exists_cons_of_ne_nil present
      exact startsWith_slash.mpr (startsWith_slash.mp absolute)

def movedRoute (path : Text) : Route :=
  { matcher := { path := .prefixed path, method := .any, headers := .none }
    policy :=
      { timeout := .disabled
        retry := .disabled
        requestHeaders := .disabled
        responseHeaders := .disabled
        rewrite := { path := .prefixed path (literal "/v1"), host := .disabled }
        action := .direct 200 []
        principal := .any } }

def firstScan : RouteScan wordEngine := { seen := [], cache := .empty wordEngine }

def fooUnderApi : RequestTarget :=
  { path := literal "/api/foo"
    query := some (literal "a=1")
    pathPlain := by decide
    queryPlain := fun _ given => by
      cases given
      decide }

theorem api_segments_preserved :
    SegmentsPreserved (movedRoute (literal "/api")) (literal "/v1") fooUnderApi
      { path := literal "/v1/foo", query := some (literal "a=1") } := by
  have validated : validateRoute [] [] firstScan (movedRoute (literal "/api")) =
      .ok { seen := [(.prefixed, literal "/api")], cache := .empty wordEngine } := rfl
  have returned : calculatePathRewrite (fun _ => true) (movedRoute (literal "/api"))
      fooUnderApi.path fooUnderApi.query =
        some { path := literal "/v1/foo", query := some (literal "a=1") } := by decide
  refine (calculatePathRewrite_preserves_iff validated rfl rfl returned).mpr ?_
  exact ⟨⟨by decide, by decide⟩, .inr (.inl (by decide))⟩

/-- A request for "/foo" is sent on as "/v1foo". -/
theorem root_glued :
    validateRoute [] [] firstScan (movedRoute (literal "/")) =
        .ok { seen := [(.prefixed, literal "/")], cache := .empty wordEngine } ∧
      calculatePathRewrite (fun _ => true) (movedRoute (literal "/")) (literal "/foo") none =
        some { path := literal "/v1foo", query := none } ∧
      pathSegments (literal "/v1foo") ≠ pathSegments (literal "/v1") ++
        (pathSegments (literal "/foo")).drop
          (pathSegments (routePath (movedRoute (literal "/")))).length := by
  exact ⟨rfl, by decide, by decide⟩

end Pavis.Proxy
