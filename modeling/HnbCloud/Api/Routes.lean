import Mathlib.Data.List.Find
import HnbCloud.Iam.Authorization
import HnbCloud.Lib.Uuid

set_option autoImplicit false

/-! # The two route matchers of the platform API

`platform-api/internal/api/server.go`: `NewServer` registers a handler for every pattern with the mux
of `net/http`, and `platformRoutes` declares for the same patterns the permission that a request
needs. The mux matches segment by segment. `matchRoute`, which finds the declared permission, takes
the first entry of the method whose text up to the first brace is a prefix of the path.

A request that the mux dispatches is compared with the entry that `matchRoute` finds for it: the two
agree on every pattern but two. -/

namespace HnbCloud.Api

open Iam List

/-! ## Requests -/

inductive Method where
  | get
  | head
  | post
  | put
  | patch
  | delete
  | other (text : String)
deriving DecidableEq, Repr

/-- A request, as far as routing reads it. The mux splits the escaped path at its slashes and decodes
    each segment, so a segment may hold a slash of its own. -/
structure Request where
  method : Method
  segments : List String
  /-- The path ends with a slash after these segments. -/
  trailingSlash : Bool
  /-- The escaped path is what `cleanPath` makes of it; another one is redirected. -/
  clean : Bool
deriving DecidableEq, Repr

def pathText (segments : List (List Char)) : List Char := segments.flatMap fun s => '/' :: s

theorem pathText_cons (segment : List Char) (segments : List (List Char)) :
    pathText (segment :: segments) = '/' :: segment ++ pathText segments := rfl

/-- `r.URL.Path`: the decoded path. -/
def Request.path (request : Request) : List Char :=
  pathText (request.segments.map String.toList) ++ if request.trailingSlash then ['/'] else []

/-! ## Patterns -/

/-- The character that starts a wildcard. -/
def openBrace : Char := '\x7b'

/-- The parts of a path between its slashes. -/
def splitPath (path : List Char) : List (List Char) :=
  (path.foldr (fun c parts =>
    if c = '/' then [] :: parts
    else match parts with
      | [] => [[c]]
      | part :: rest => (c :: part) :: rest) []).tail

inductive PatternSegment where
  | literal (text : List Char)
  | wildcard
deriving DecidableEq, Repr

/-- The segments of a pattern, as the mux parses it. -/
def parsePattern (pattern : String) : List PatternSegment :=
  (splitPath pattern.toList).map fun part =>
    if part.head? = some openBrace then .wildcard else .literal part

/-- The segments match, with the values of the wildcards. A wildcard takes any segment but that of
    a trailing slash; no segment of a clean path is empty. -/
def matchSegments : List PatternSegment → List String → Option (List String)
  | [], [] => some []
  | .literal text :: pattern, segment :: segments =>
    if segment.toList = text then matchSegments pattern segments else none
  | .wildcard :: pattern, segment :: segments =>
    if segment = "" ∨ segment = "/" then none
    else (matchSegments pattern segments).map (segment :: ·)
  | _, _ => none

/-! ## The mux -/

inductive Handler where
  | health | livez | startupz | readyz
  | submitIntent | createRuntimeIntentBatch | registerSecret | consoleBootstrap
  | submitOperation | listOperations | getOperation | approve | reject | cancel
  | createRuntimeTarget | listRuntimeTargets | getRuntimeTarget | deleteRuntimeTarget
  | createCluster | getClusters | getCluster | updateCluster | deleteCluster
  | updateClusterDescription | issueClusterKubeconfig | heartbeatCluster
  | saveManifest | getManifest | deleteManifest | saveCompatibility | checkCompatibility
deriving DecidableEq, Repr

/-- A call of `HandleFunc`. -/
structure Registration where
  method : Method
  pattern : String
  handler : Handler
deriving DecidableEq, Repr

open Registration

/-- The registrations of `NewServer`. -/
def registrations : List Registration :=
  [⟨.get, "/healthz", .health⟩, ⟨.get, "/livez", .livez⟩, ⟨.get, "/startupz", .startupz⟩,
   ⟨.get, "/readyz", .readyz⟩,
   ⟨.post, "/v1/intents", .submitIntent⟩,
   ⟨.post, "/v1/runtime-intent-batches", .createRuntimeIntentBatch⟩,
   ⟨.post, "/v1/secrets:register", .registerSecret⟩,
   ⟨.get, "/v1/console/bootstrap", .consoleBootstrap⟩,
   ⟨.get, "/v1/session/bootstrap", .consoleBootstrap⟩,
   ⟨.post, "/v1/operations", .submitOperation⟩,
   ⟨.get, "/v1/operations", .listOperations⟩,
   ⟨.get, "/v1/operations/\x7bid\x7d", .getOperation⟩,
   ⟨.post, "/v1/operations/\x7bid\x7d/approve", .approve⟩,
   ⟨.post, "/v1/operations/\x7bid\x7d/reject", .reject⟩,
   ⟨.post, "/v1/operations/\x7bid\x7d/cancel", .cancel⟩,
   ⟨.post, "/v1/targets", .createRuntimeTarget⟩,
   ⟨.get, "/v1/targets", .listRuntimeTargets⟩,
   ⟨.get, "/v1/targets/\x7bid\x7d", .getRuntimeTarget⟩,
   ⟨.delete, "/v1/targets/\x7bid\x7d", .deleteRuntimeTarget⟩,
   ⟨.post, "/v1/clusters", .createCluster⟩,
   ⟨.get, "/v1/clusters", .getClusters⟩,
   ⟨.get, "/v1/clusters/\x7bid\x7d", .getCluster⟩,
   ⟨.put, "/v1/clusters/\x7bid\x7d", .updateCluster⟩,
   ⟨.delete, "/v1/clusters/\x7bid\x7d", .deleteCluster⟩,
   ⟨.patch, "/v1/clusters/\x7bid\x7d/description", .updateClusterDescription⟩,
   ⟨.post, "/v1/clusters/\x7bid\x7d/kubeconfig:issue", .issueClusterKubeconfig⟩,
   ⟨.put, "/api/v1/clusters/\x7bid\x7d/heartbeat", .heartbeatCluster⟩,
   ⟨.post, "/v1/providers/\x7bid\x7d/manifest", .saveManifest⟩,
   ⟨.get, "/v1/providers/\x7bid\x7d/manifest", .getManifest⟩,
   ⟨.delete, "/v1/providers/\x7bid\x7d/manifest", .deleteManifest⟩,
   ⟨.post, "/v1/compatibility", .saveCompatibility⟩,
   ⟨.get, "/v1/compatibility", .checkCompatibility⟩]

/-- A pattern for `GET` takes `HEAD` as well. -/
def Registration.accepts (registration : Registration) (method : Method) : Bool :=
  registration.method == method || (registration.method == .get && method == .head)

/-- The values of the wildcards, if the registration matches the request. -/
def Registration.match? (registration : Registration) (request : Request) : Option (List String) :=
  if registration.accepts request.method ∧ request.trailingSlash = false ∧ request.clean = true then
    matchSegments (parsePattern registration.pattern) request.segments
  else none

/-- The mux: the registration that matches, and `r.PathValue("id")`. No two registrations match one
    request (`match?_unique`), so precedence plays no role. -/
def dispatch (request : Request) : Option (Registration × String) :=
  registrations.findSome? fun registration =>
    (registration.match? request).map fun values => (registration, values.headD "")

/-! ## The declared permissions -/

structure PlatformRoute where
  method : Method
  (pattern resourceKind : String)
  action : Action
  resourceIdParam : String
  isPublic : Bool
deriving DecidableEq, Repr

def platformRoutes : List PlatformRoute :=
  [⟨.get, "/healthz", "", .other "", "", true⟩, ⟨.get, "/livez", "", .other "", "", true⟩,
   ⟨.get, "/startupz", "", .other "", "", true⟩,
   ⟨.get, "/readyz", "", .other "", "", true⟩,
   ⟨.post, "/v1/intents", "intent", .create, "", false⟩,
   ⟨.post, "/v1/runtime-intent-batches", "cluster", .delete, "", false⟩,
   ⟨.post, "/v1/secrets:register", "secret", .create, "", false⟩,
   ⟨.get, "/v1/console/bootstrap", "consoleBootstrap", .other "", "", true⟩,
   ⟨.get, "/v1/session/bootstrap", "consoleBootstrap", .other "", "", true⟩,
   ⟨.post, "/v1/operations", "operation", .execute, "", false⟩,
   ⟨.get, "/v1/operations", "operation", .list, "", false⟩,
   ⟨.get, "/v1/operations/\x7bid\x7d", "operation", .read, "id", false⟩,
   ⟨.post, "/v1/operations/\x7bid\x7d/approve", "operation", .approve, "id", false⟩,
   ⟨.post, "/v1/operations/\x7bid\x7d/reject", "operation", .reject, "id", false⟩,
   ⟨.post, "/v1/operations/\x7bid\x7d/cancel", "operation", .cancel, "id", false⟩,
   ⟨.post, "/v1/targets", "runtimeTarget", .create, "", false⟩,
   ⟨.get, "/v1/targets", "runtimeTarget", .list, "", false⟩,
   ⟨.get, "/v1/targets/\x7bid\x7d", "runtimeTarget", .read, "id", false⟩,
   ⟨.delete, "/v1/targets/\x7bid\x7d", "runtimeTarget", .delete, "id", false⟩,
   ⟨.post, "/v1/clusters", "cluster", .create, "", false⟩,
   ⟨.get, "/v1/clusters", "cluster", .list, "", false⟩,
   ⟨.get, "/v1/clusters/\x7bid\x7d", "cluster", .read, "id", false⟩,
   ⟨.put, "/v1/clusters/\x7bid\x7d", "cluster", .execute, "id", false⟩,
   ⟨.delete, "/v1/clusters/\x7bid\x7d", "cluster", .delete, "id", false⟩,
   ⟨.patch, "/v1/clusters/\x7bid\x7d/description", "cluster", .update, "id", false⟩,
   ⟨.post, "/v1/clusters/\x7bid\x7d/kubeconfig:issue", "cluster", .read, "id", false⟩,
   ⟨.put, "/api/v1/clusters/\x7bid\x7d/heartbeat", "cluster", .execute, "", false⟩,
   ⟨.post, "/v1/providers/\x7bid\x7d/manifest", "provider", .execute, "", false⟩,
   ⟨.get, "/v1/providers/\x7bid\x7d/manifest", "provider", .read, "", false⟩,
   ⟨.delete, "/v1/providers/\x7bid\x7d/manifest", "provider", .delete, "", false⟩,
   ⟨.post, "/v1/compatibility", "provider", .execute, "", false⟩,
   ⟨.get, "/v1/compatibility", "provider", .read, "", false⟩]

namespace PlatformRoute

variable (route : PlatformRoute)

/-- The pattern has a wildcard. -/
def isPrefixed : Bool := route.pattern.toList.any fun c => c == openBrace || c == '*'

/-- The text of the pattern up to its first brace. -/
def literal : List Char := route.pattern.toList.takeWhile (· != openBrace)

/-- The test that `matchRoute` makes for the path. -/
def matchesPath (path : List Char) : Bool :=
  if route.isPrefixed then route.literal.isPrefixOf path else path == route.pattern.toList

end PlatformRoute

def matchRoute (routes : List PlatformRoute) (method : Method) (path : List Char) :
    Option PlatformRoute :=
  routes.find? fun route => route.method == method && route.matchesPath path

/-! ## Segments that match a pattern -/

/-- The segments match the pattern, with these values of its wildcards. -/
inductive Matches : List PatternSegment → List String → List String → Prop where
  | nil : Matches [] [] []
  | literal {pattern : List PatternSegment} {segments values : List String} (segment : String)
      (rest : Matches pattern segments values) :
      Matches (.literal segment.toList :: pattern) (segment :: segments) values
  | wildcard {pattern : List PatternSegment} {segments values : List String} {segment : String}
      (nonempty : segment ≠ "") (rest : Matches pattern segments values) :
      Matches (.wildcard :: pattern) (segment :: segments) (segment :: values)

/-- The text of a pattern up to its first wildcard, with the slash before it. -/
def leading : List PatternSegment → List Char
  | [] => []
  | .literal text :: pattern => '/' :: text ++ leading pattern
  | .wildcard :: _ => ['/']

section Segments

variable {pattern : List PatternSegment} {segments values : List String}

theorem matches_of_matchSegments (h : matchSegments pattern segments = some values) :
    Matches pattern segments values := by
  fun_induction matchSegments generalizing values with
  | case1 =>
    cases h
    exact .nil
  | case2 _ segment _ ih => exact .literal segment (ih h)
  | case5 _ _ _ hsegment ih =>
    obtain ⟨values', hvalues, rfl⟩ := Option.map_eq_some_iff.1 h
    exact .wildcard (fun hempty => hsegment (.inl hempty)) (ih hvalues)
  | _ => simp at h

variable (h : Matches pattern segments values)

include h

theorem length_values : values.length = pattern.count .wildcard := by
  induction h with
  | nil => rfl
  | literal _ _ ih => rw [ih, count_cons_of_ne (by simp)]
  | wildcard _ _ ih => rw [length_cons, ih, count_cons_self]

theorem ne_empty_of_mem_values : ∀ value ∈ values, value ≠ "" := by
  induction h with
  | nil => simp
  | literal _ _ ih => exact ih
  | wildcard hsegment _ ih => exact forall_mem_cons.2 ⟨hsegment, ih⟩

theorem leading_isPrefix : leading pattern <+: pathText (segments.map String.toList) := by
  induction h with
  | nil => exact nil_prefix
  | literal _ _ ih =>
    obtain ⟨tail, htail⟩ := ih
    exact ⟨tail, by rw [map_cons, pathText_cons, leading, append_assoc, htail]⟩
  | wildcard => exact ⟨_, rfl⟩

theorem pathText_eq_leading (hpattern : .wildcard ∉ pattern) :
    pathText (segments.map String.toList) = leading pattern := by
  induction h with
  | nil => rfl
  | literal _ _ ih =>
    rw [map_cons, pathText_cons, leading, ih fun hmem => hpattern (mem_cons_of_mem _ hmem)]
  | wildcard => exact absurd mem_cons_self hpattern

omit h

theorem literal_isSuffix {text : List Char} (h : Matches (pattern ++ [.literal text]) segments values) :
    '/' :: text <:+ pathText (segments.map String.toList) := by
  induction pattern generalizing segments values with
  | nil =>
    cases h with
    | literal _ hrest =>
      cases hrest
      simp [pathText]
  | cons _ _ ih =>
    cases h with
    | literal _ hrest | wildcard _ hrest => exact (ih hrest).trans (suffix_append _ _)

end Segments

/-! ## Where the matchers agree -/

/-- What follows the leading text of a pattern has no influence on the test of an entry: the entry's
    own text ends within it or parts from it. -/
def PlatformRoute.isSettledBy (route : PlatformRoute) (pattern : List PatternSegment) : Bool :=
  if route.isPrefixed then
    route.literal.length ≤ (leading pattern).length || !(leading pattern).isPrefixOf route.literal
  else !(leading pattern).isPrefixOf route.pattern.toList

variable {values : List String} {registration : Registration} {request : Request}

theorem matchesPath_eq_leading {route : PlatformRoute} {pattern : List PatternSegment}
    {segments : List String} (h : Matches pattern segments values)
    (hroute : .wildcard ∈ pattern → route.isSettledBy pattern) :
    route.matchesPath (pathText (segments.map String.toList)) = route.matchesPath (leading pattern) := by
  by_cases hpattern : .wildcard ∈ pattern
  · have hsettled := hroute hpattern
    obtain ⟨rest, hrest⟩ := leading_isPrefix h
    rw [← hrest]
    unfold PlatformRoute.isSettledBy at hsettled
    unfold PlatformRoute.matchesPath
    split at hsettled
    · next hprefixed =>
      rw [if_pos hprefixed, if_pos hprefixed, Bool.eq_iff_iff, isPrefixOf_iff_prefix,
        isPrefixOf_iff_prefix]
      refine ⟨fun hleft => ?_, fun hleft => hleft.trans (prefix_append _ _)⟩
      simp only [Bool.or_eq_true, decide_eq_true_eq, Bool.not_eq_true',
        ← Bool.not_eq_true, isPrefixOf_iff_prefix] at hsettled
      rcases prefix_or_prefix_of_prefix hleft (prefix_append _ rest) with hshort | hlong
      · exact hshort
      · rcases hsettled with hlength | hparts
        · exact (prefix_of_prefix_length_le hleft (prefix_append _ rest) hlength)
        · exact absurd hlong hparts
    · next hexact =>
      rw [if_neg hexact, if_neg hexact]
      have hne : ∀ path, leading pattern <+: path → (path == route.pattern.toList) = false := by
        intro path hpath
        rw [beq_eq_false_iff_ne]
        rintro rfl
        simp [List.isPrefixOf_iff_prefix.2 hpath] at hsettled
      rw [hne _ (prefix_append _ _), hne _ prefix_rfl]
  · rw [pathText_eq_leading h hpattern]

theorem registrations_settled : ∀ registration ∈ registrations,
    .wildcard ∈ parsePattern registration.pattern → ∀ route ∈ platformRoutes,
      route.isSettledBy (parsePattern registration.pattern) := by
  decide +kernel

/-- The entry that is declared for the pattern of a registration. -/
def declaredRoute (registration : Registration) : Option PlatformRoute :=
  platformRoutes.find? fun route =>
    route.method == registration.method && route.pattern == registration.pattern

theorem Registration.of_match? (h : registration.match? request = some values) :
    registration.accepts request.method ∧ request.trailingSlash = false
      ∧ Matches (parsePattern registration.pattern) request.segments values := by
  unfold match? at h
  split_ifs at h with hcond
  exact ⟨hcond.1, hcond.2.1, matches_of_matchSegments h⟩

/-- The entry that is found for a request that a registration matches depends on its pattern only. -/
theorem matchRoute_of_match?
    (hmem : registration ∈ registrations) (h : registration.match? request = some values) :
    matchRoute platformRoutes request.method request.path
      = matchRoute platformRoutes request.method (leading (parsePattern registration.pattern)) := by
  obtain ⟨-, hslash, hsegments⟩ := of_match? h
  have hpath : request.path = pathText (request.segments.map String.toList) := by
    rw [Request.path, hslash]
    simp
  rw [hpath]
  refine find?_congr fun route hroute => ?_
  rw [matchesPath_eq_leading hsegments
    fun hwild => registrations_settled registration hmem hwild route hroute]

/-- The entry found for a pattern is the one declared for it, but for `reject` and `cancel` of an
    operation: these two come after `approve` in the table, and have the same text up to the id. -/
theorem matchRoute_leading : ∀ registration ∈ registrations,
    matchRoute platformRoutes registration.method (leading (parsePattern registration.pattern))
      = if registration.handler = .reject ∨ registration.handler = .cancel
        then declaredRoute ⟨.post, "/v1/operations/\x7bid\x7d/approve", .approve⟩
        else declaredRoute registration := by
  decide +kernel

theorem exists_match?_of_dispatch {id : String}
    (h : dispatch request = some (registration, id)) : registration ∈ registrations
      ∧ ∃ values, registration.match? request = some values ∧ id = values.headD "" := by
  obtain ⟨found, hmem, hfound⟩ := exists_of_findSome?_eq_some h
  obtain ⟨values, hmatch, heq⟩ := Option.map_eq_some_iff.1 hfound
  cases heq
  exact ⟨hmem, values, hmatch, rfl⟩

/-! ## Precedence -/

/-- No segments match both patterns: at some place they have different texts. -/
def disjoint : List PatternSegment → List PatternSegment → Bool
  | [], [] => false
  | .literal a :: p, .literal b :: q => a != b || disjoint p q
  | _ :: p, _ :: q => disjoint p q
  | _, _ => true

theorem not_match_of_disjoint {p q : List PatternSegment} {segments values' : List String}
    (hdisjoint : disjoint p q) (hp : Matches p segments values) (hq : Matches q segments values') :
    False := by
  induction hp generalizing q values' with
  | nil =>
    cases hq
    simp [disjoint] at hdisjoint
  | literal _ _ ih | wildcard _ _ ih =>
    cases hq with
    | literal _ hq | wildcard _ hq => exact ih (by simpa [disjoint] using hdisjoint) hq

theorem registrations_disjoint : ∀ a ∈ registrations, ∀ b ∈ registrations, a.method = b.method →
    a ≠ b → disjoint (parsePattern a.pattern) (parsePattern b.pattern) := by
  decide +kernel

theorem match?_unique {a b : Registration} {values' : List String}
    (ha : a ∈ registrations) (hb : b ∈ registrations) (hmatch : a.match? request = some values)
    (hmatch' : b.match? request = some values') : a = b := by
  by_contra hne
  obtain ⟨haccepts, -, hsegments⟩ := of_match? hmatch
  obtain ⟨haccepts', -, hsegments'⟩ := of_match? hmatch'
  have hhead : ∀ registration ∈ registrations, registration.method ≠ .head := by decide
  have hmethod : a.method = b.method := by
    simp only [accepts, Bool.or_eq_true, Bool.and_eq_true, beq_iff_eq] at haccepts haccepts'
    rcases haccepts with h | h <;> rcases haccepts' with h' | h'
    · rw [h, h']
    · exact absurd (h.trans h'.2) (hhead a ha)
    · exact absurd (h'.trans h.2) (hhead b hb)
    · rw [h.1, h'.1]
  exact not_match_of_disjoint (registrations_disjoint a ha b hb hmethod hne) hsegments hsegments'

/-- At most one registration matches a request. -/
theorem match?_pairwise : registrations.Pairwise fun a b =>
    a.match? request = none ∨ b.match? request = none := by
  have hnodup : registrations.Nodup := by decide
  refine hnodup.imp_of_mem fun ha hb hne => ?_
  by_contra h
  simp only [not_or, Option.ne_none_iff_exists'] at h
  obtain ⟨⟨_, h⟩, _, h'⟩ := h
  exact hne (match?_unique ha hb h h')

end HnbCloud.Api
