import HnbCloud.ClusterAgent.Allowlist

set_option autoImplicit false

/-! # Requests to the Kubernetes API

`proxyToKubeAPI` of the cluster agent, and `proxyRequestPayload` of the apiserver from which the
requests come. The agent asks its allowlist about the whole path of a request, but it builds a URL from
the path, in which a `?` or a `#` ends the path. What the API server gets is the part before the mark,
and that part may be a resource the list does not have.

The address of the API is scheme, host and port; `url.Parse` and the rest of `net/url` are those of
`HnbCloud.Lib.Url`. An error text of theirs does not quote the URL. The answer of the API and
redirects are left out. -/

namespace HnbCloud.ClusterAgent

open Url

open Url (slash question hash unescape)

structure RequestPayload where
  method : String
  path : Bytes
  rawQuery : Bytes := []
  headers : List (String × String) := []
  body : Bytes := []

/-- What of `config.Config` is used; `client` is what comes of reading the CA file. -/
structure AgentConfig where
  (kubeApi kubeToken : String)
  client : Except String Unit := .ok ()

/-- A request as it is handed to the HTTP client. -/
structure KubeRequest where
  (method host : String)
  requestUri : Bytes
  headers : List (String × String)
  body : Bytes

/-! ## Headers and methods -/

/-- A character of a token. -/
def isTokenChar (c : Char) : Bool :=
  ('a' ≤ c && c ≤ 'z') || ('A' ≤ c && c ≤ 'Z') || ('0' ≤ c && c ≤ '9')
    || "!#$%&'*+-.^_`|~".toList.contains c

def validMethod (method : String) : Bool :=
  !method.toList.isEmpty && method.toList.all isTokenChar

/-- A letter at the start of a word or in it. -/
def titleCase : Bool → List Char → List Char
  | _, [] => []
  | first, c :: rest => (if first then upperChar c else lowerChar c) :: titleCase (c == '-') rest

def canonicalHeaderKey (name : String) : String :=
  if name.toList.all isTokenChar then String.ofList (titleCase true name.toList) else name

/-- `Header.Set`. -/
def setHeader (headers : List (String × String)) (name value : String) : List (String × String) :=
  headers.filter (fun h => h.1 != canonicalHeaderKey name) ++ [(canonicalHeaderKey name, value)]

/-- `Header.Get`. -/
def getHeader (headers : List (String × String)) (name : String) : String :=
  (headers.lookup (canonicalHeaderKey name)).getD ""

def kubeHeaders (cfg : AgentConfig) (req : RequestPayload) : List (String × String) :=
  let authorized :=
    if cfg.kubeToken ≠ "" then setHeader [] "Authorization" ("Bearer " ++ cfg.kubeToken) else []
  let passed := req.headers.foldl (fun headers h =>
    if canonicalHeaderKey h.1 = "Authorization" ∨ canonicalHeaderKey h.1 = "Host" then headers
    else setHeader headers h.1 h.2) authorized
  let accepting :=
    if getHeader passed "Accept" = "" then setHeader passed "Accept" "application/json" else passed
  if req.body ≠ [] ∧ getHeader accepting "Content-Type" = "" then
    setHeader accepting "Content-Type" "application/json"
  else accepting

/-! ## The request to the API -/

/-- The method of a request; a request without one is a `GET`. -/
def RequestPayload.kubeMethod (req : RequestPayload) : String :=
  if req.method = "" then "GET" else req.method

/-- `strings.TrimPrefix(path, "/")`. -/
def trimSlash : Bytes → Bytes
  | [] => []
  | b :: rest => if b = slash then rest else b :: rest

/-- `proxyToKubeAPI` up to the request it sends, or the status and the text it answers with. -/
def buildKubeRequest (cfg : AgentConfig) (req : RequestPayload) :
    Except (Nat × String) KubeRequest :=
  let method := req.kubeMethod
  if kubeProxyAllowed method req.path = false then
    .error (403, "kubernetes resource and method are not allowed")
  else if cfg.kubeApi = "" then .error (502, "kube-api is not configured")
  else
  match parse (slash :: trimSlash req.path) with
  | .error err => .error (502, "parse kube request URL: " ++ err)
  | .ok target =>
  if validMethod method = false then
    .error (502, "build kube request: net/http: invalid method " ++ quoted method)
  else
  -- `http.NewRequest` parses the text of the URL again.
  match parse { target with rawQuery := req.rawQuery }.text with
  | .error err => .error (502, "build kube request: " ++ err)
  | .ok url =>
  match cfg.client with
  | .error err => .error (502, err)
  | .ok () => .ok
      { method, host := cfg.kubeApi, requestUri := url.requestUri, headers := kubeHeaders cfg req
        body := req.body }

/-- Method and path, as the API server reads them, are on the list. -/
def KubeRequest.permitted (sent : KubeRequest) : Bool :=
  match readPath sent.requestUri with
  | none => false
  | some path => allowsSegments sent.method (serverSegments path)

/-! ## The apiserver -/

/-- A request to the apiserver; `escapedPath` is what stands for the rest of the path in its route. -/
structure ProxyCall where
  method : String
  escapedPath : Bytes
  rawQuery : Bytes := []
  headers : List (String × String) := []
  body : Bytes := []

def ProxyCall.pathValue (call : ProxyCall) : Bytes :=
  (unescape call.escapedPath).getD call.escapedPath

def proxyHeaders (source : List (String × String)) : List (String × String) :=
  (["Content-Type", "Accept", "If-Match", "Idempotency-Key", "X-Correlation-ID",
      "traceparent"].map fun name => (name, getHeader source name)).filter fun h => h.2 != ""

def proxyRequestPayload (call : ProxyCall) : RequestPayload :=
  { method := call.method, path := call.pathValue, rawQuery := call.rawQuery
    headers := proxyHeaders call.headers, body := call.body }

/-! ## What is sent -/

/-- The part of a path that is sent: what stands before its first mark. -/
def sentPart (path : Bytes) : Bytes := before question (before hash path)

/-- The list permits the part of the path that is sent. -/
def sentPartPermitted (method : String) (path : Bytes) : Bool :=
  (unescape (sentPart path)).any fun read => allowsSegments method (serverSegments read)

variable (path : Bytes)

theorem slash_cons_trimSlash :
    slash :: trimSlash path = path ∨ slash :: trimSlash path = slash :: path := by
  rcases path with _ | ⟨b, rest⟩
  · exact .inr rfl
  by_cases hb : b = slash
  · subst hb
    exact .inl (by simp [trimSlash])
  · exact .inr (by rw [trimSlash, if_neg hb])

theorem sentPart_slash_cons : sentPart (slash :: path) = slash :: sentPart path := by
  unfold sentPart
  rw [show slash :: path = [slash] ++ path from rfl, before_append (by decide),
    before_append (by decide)]
  rfl

theorem sentPartPermitted_trimSlash (method : String) (path : Bytes) :
    sentPartPermitted method (slash :: trimSlash path) = sentPartPermitted method path := by
  rcases slash_cons_trimSlash path with h | h
  · rw [h]
  rw [h]
  unfold sentPartPermitted
  rw [sentPart_slash_cons, unescape_cons (by decide)]
  cases unescape (sentPart path) <;> simp

/-- The request is sent with the method it came with, and the API server reads the part of its path
    before the first mark. -/
theorem permitted_of_build {cfg : AgentConfig} {req : RequestPayload} {sent : KubeRequest}
    (h : buildKubeRequest cfg req = .ok sent) :
    sent.permitted = sentPartPermitted req.kubeMethod req.path := by
  unfold buildKubeRequest at h
  dsimp only at h
  split at h
  · simp at h
  split at h
  · simp at h
  split at h
  · simp at h
  next target htarget =>
  split_ifs at h
  split at h
  · simp at h
  next url hurl =>
  split at h
  · simp at h
  cases h
  have hpath : unescape (sentPart (slash :: trimSlash req.path)) = some url.path.plain := by
    have hsame := parse_text_path hurl
    exact (parse_path htarget).trans (congrArg some hsame.symm)
  have hne : url.path.plain ≠ [] := by
    intro hnil
    rw [hnil, sentPart_slash_cons, unescape_cons (by decide)] at hpath
    obtain ⟨_, -, hcons⟩ := Option.map_eq_some_iff.1 hpath
    simp at hcons
  rw [← sentPartPermitted_trimSlash]
  unfold KubeRequest.permitted sentPartPermitted
  rw [readPath_requestUri hne, hpath]
  rfl

/-- What makes the agent send a request. -/
structure Sendable (cfg : AgentConfig) (req : RequestPayload) : Prop where
  allowed : kubeProxyAllowed req.kubeMethod req.path = true
  configured : cfg.kubeApi ≠ ""
  client : cfg.client = .ok ()
  method : validMethod req.kubeMethod = true
  path : hasControl (before hash req.path) = false
  query : hasControl (before hash req.rawQuery) = false
  /-- The part of the query behind a `#` is read as a fragment. -/
  fragment : (unescape (after hash req.rawQuery)).isSome

theorem isSome_unescape_parts {text : Bytes} (h : (unescape text).isSome) :
    (unescape (sentPart text)).isSome ∧ (unescape (after hash text)).isSome := by
  have cut : ∀ {m : UInt8} {part : Bytes}, hexValue m = none → m ≠ percent →
      (unescape part).isSome →
      (unescape (before m part)).isSome ∧ (unescape (after m part)).isSome := by
    intro m part hm hm' hpart
    by_cases hmem : m ∈ part
    · rw [eq_before_append hmem] at hpart
      exact isSome_unescape_cut hm hm' hpart
    · rw [before_of_notMem hmem, after_of_notMem hmem]
      exact ⟨hpart, rfl⟩
  have hhash := cut (m := hash) (by decide) (by decide) h
  exact ⟨(cut (m := question) (by decide) (by decide) hhash.1).1, hhash.2⟩

theorem hasControl_trimSlash :
    hasControl (before hash (slash :: trimSlash path)) = hasControl (before hash path) := by
  rcases slash_cons_trimSlash path with h | h
  · rw [h]
  · rw [h, show slash :: path = [slash] ++ path from rfl, before_append (by decide)]
    rfl

theorem isSome_unescape_trimSlash {path : Bytes} (h : (unescape path).isSome) :
    (unescape (slash :: trimSlash path)).isSome := by
  rcases slash_cons_trimSlash path with hpath | hpath
  · rw [hpath]
    exact h
  · rw [hpath, unescape_cons (by decide), Option.isSome_map]
    exact h

theorem exists_buildKubeRequest_iff (cfg : AgentConfig) (req : RequestPayload) :
    (∃ sent, buildKubeRequest cfg req = .ok sent) ↔ Sendable cfg req := by
  constructor
  · rintro ⟨sent, h⟩
    unfold buildKubeRequest at h
    dsimp only at h
    split at h
    · simp at h
    next hallowed =>
    split at h
    · simp at h
    next hconfigured =>
    split at h
    · simp at h
    next target htarget =>
    split_ifs at h with hmethod
    split at h
    · simp at h
    next url hurl =>
    split at h
    · simp at h
    next hclient =>
    have hcontrol := ((exists_parse_iff _).1 ⟨target, htarget⟩).1
    rw [hasControl_trimSlash] at hcontrol
    obtain ⟨hquery, hfragment⟩ := (Url.Parsed.exists_parse_text_iff _).1 ⟨url, hurl⟩
    exact ⟨by simpa using hallowed, hconfigured, hclient, by simpa using hmethod, hcontrol, hquery,
      hfragment⟩
  · intro hsend
    obtain ⟨read, hread, -⟩ := kubeProxyAllowed_server hsend.allowed
    have hparts := isSome_unescape_parts
      (isSome_unescape_trimSlash (Option.isSome_iff_exists.2 ⟨read, hread⟩))
    obtain ⟨target, htarget⟩ := (exists_parse_iff (slash :: trimSlash req.path)).2
      ⟨(hasControl_trimSlash _).trans hsend.path, hparts⟩
    obtain ⟨url, hurl⟩ := ({ target with rawQuery := req.rawQuery } : Url.Parsed)
      |>.exists_parse_text_iff.2 ⟨hsend.query, hsend.fragment⟩
    unfold buildKubeRequest
    dsimp only
    rw [if_neg (by simp [hsend.allowed]), if_neg hsend.configured, htarget]
    dsimp only
    rw [if_neg (by simp [hsend.method]), hurl]
    dsimp only
    rw [hsend.client]
    exact ⟨_, rfl⟩

theorem sentPartPermitted_of_noMarks {method : String} {path : Bytes} (hquestion : question ∉ path)
    (hhash : hash ∉ path) (h : kubeProxyAllowed method path = true) :
    sentPartPermitted method path = true := by
  obtain ⟨read, hread, hallowed⟩ := kubeProxyAllowed_server h
  unfold sentPartPermitted sentPart
  rw [before_of_notMem hhash, before_of_notMem hquestion, hread]
  exact hallowed

/-- Every request the agent sends is on the list exactly if the part of its path before the first `?`
    or `#` is, unless nothing is sent. -/
theorem sent_permitted_iff (cfg : AgentConfig) (req : RequestPayload) :
    (∀ sent, buildKubeRequest cfg req = .ok sent → sent.permitted = true)
      ↔ (Sendable cfg req → sentPartPermitted req.kubeMethod req.path = true) := by
  constructor
  · intro h hsend
    obtain ⟨sent, hsent⟩ := (exists_buildKubeRequest_iff cfg req).2 hsend
    rw [← permitted_of_build hsent]
    exact h sent hsent
  · intro h sent hsent
    rw [permitted_of_build hsent]
    exact h ((exists_buildKubeRequest_iff cfg req).1 ⟨sent, hsent⟩)

section Sample

def sampleConfig : AgentConfig := { kubeApi := "https://kubernetes.default.svc", kubeToken := "t" }

/-- A request to the apiserver to delete the pods of a namespace, with a question mark behind the name
    of the namespace. -/
def sampleCall : ProxyCall :=
  { method := "DELETE", escapedPath := ascii "api/v1/namespaces/foo%3F/pods" }

/-- The namespace is deleted, which the list does not permit. -/
theorem namespace_deleted :
    ∃ sent, buildKubeRequest sampleConfig (proxyRequestPayload sampleCall) = .ok sent
      ∧ sent.method = "DELETE" ∧ sent.requestUri = ascii "/api/v1/namespaces/foo"
      ∧ sent.permitted = false := by
  have hsent : (buildKubeRequest sampleConfig (proxyRequestPayload sampleCall)).toOption.map
      (fun sent => (sent.method, sent.requestUri, sent.permitted))
      = some ("DELETE", ascii "/api/v1/namespaces/foo", false) := by
    decide +kernel
  rcases hbuild : buildKubeRequest sampleConfig (proxyRequestPayload sampleCall) with err | sent
  · rw [hbuild] at hsent
    simp [Except.toOption] at hsent
  rw [hbuild] at hsent
  obtain ⟨hmethod, hrest⟩ := Prod.mk.inj (Option.some.inj hsent)
  obtain ⟨huri, hpermitted⟩ := Prod.mk.inj hrest
  exact ⟨sent, rfl, hmethod, huri, hpermitted⟩

/-- A request without marks. -/
def samplePods : RequestPayload :=
  { method := "DELETE", path := ascii "api/v1/namespaces/foo/pods" }

theorem sent_permitted_of_pods : (∃ sent, buildKubeRequest sampleConfig samplePods = .ok sent)
      ∧ ∀ sent, buildKubeRequest sampleConfig samplePods = .ok sent → sent.permitted = true := by
  refine ⟨(exists_buildKubeRequest_iff sampleConfig samplePods).2 ?_,
    (sent_permitted_iff sampleConfig samplePods).2 ?_⟩
  · refine ⟨?_, ?_, rfl, ?_, ?_, ?_, rfl⟩
    all_goals decide +kernel
  intro hsend
  exact sentPartPermitted_of_noMarks (by decide +kernel) (by decide +kernel) hsend.allowed

end Sample

end HnbCloud.ClusterAgent
