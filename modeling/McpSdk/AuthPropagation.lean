/-
How the token of a request gets to the runtime of its session: from the
middleware, through the extensions of the request, to a new or an existing
session.
-/
import McpSdk.AuthMiddleware
import McpSdk.HttpPost

namespace McpSdk.AuthPropagation

open List Option

universe u v w x

variable {ι : Type u} {β : Type v} {ε : Type w} {γ : Type x}

inductive Method where
  | get
  | post
  | delete
  | other
deriving Repr, DecidableEq

/-- A request, with its query parameter `sessionId` and its token. -/
structure Request (γ : Type x) where
  method : Method
  headers : HeaderMap
  sessionIdParam : Option Str
  body : Str
  authInfo : Option (AuthInfo γ)

def Request.take (self : Request γ) : Request γ × Option (AuthInfo γ) :=
  ({ self with authInfo := none }, self.authInfo)

structure ServerRuntime (γ : Type x) where
  authInfo : Option (AuthInfo γ)

def shouldUpdate : Option (AuthInfo γ) → Option (AuthInfo γ) → Bool
  | none, some _ => true
  | some old, some new => old.tokenUniqueId ≠ new.tokenUniqueId
  | some _, none => true
  | none, none => false

def ServerRuntime.updateAuthInfo (self : ServerRuntime γ)
    (newAuthInfo : Option (AuthInfo γ)) : ServerRuntime γ :=
  if shouldUpdate self.authInfo newAuthInfo then ⟨newAuthInfo⟩ else self

abbrev Sessions (γ : Type x) := AList fun _ : Str => ServerRuntime γ

/-- Handlers change the sessions; their responses are left out. -/
abbrev RequestHandler (γ : Type x) := Request γ → Sessions γ → Sessions γ

abbrev Middleware (γ : Type x) :=
  Request γ → Sessions γ → RequestHandler γ → Sessions γ

/-- The first middleware is the outermost. -/
def compose (middlewares : List (Middleware γ))
    (finalHandler : RequestHandler γ) : RequestHandler γ :=
  middlewares.foldr
    (fun middleware next request sessions => middleware request sessions next)
    finalHandler

def authMiddleware (provider : AuthProvider γ) (now : Nat) : Middleware γ :=
  fun request sessions next =>
    match AuthMiddleware.validate provider now request.headers with
    | .ok authInfo => next { request with authInfo := some authInfo } sessions
    | .error _ => sessions

/-- The server, with the middlewares around the authentication. -/
structure Server (ι : Type u) (β : Type v) (ε : Type w) (γ : Type x) where
  checks : HttpChecks
  messages : IncomingPost.Server ι β ε
  isInitialize : β → Bool
  before : List (Middleware γ)
  after : List (Middleware γ)

inductive Endpoint where
  | sse
  | message
  | streamableHttp
deriving Repr, DecidableEq

/-- A request that comes in, the provider at that time, and the id of a new
session, if one can be made. -/
structure Incoming (γ : Type x) where
  endpoint : Endpoint
  request : Request γ
  provider : AuthProvider γ
  now : Nat
  newSessionId : Option Str

/-- A new session is stored with the token of the request that makes it. -/
def createSession (newSessionId : Option Str) (authInfo : Option (AuthInfo γ))
    (sessions : Sessions γ) : Sessions γ :=
  match newSessionId with
  | some sessionId => sessions.insert sessionId ⟨authInfo⟩
  | none => sessions

def updateSession (sessionId : Str) (authInfo : Option (AuthInfo γ))
    (sessions : Sessions γ) : Sessions γ :=
  match sessions.lookup sessionId with
  | some runtime => sessions.insert sessionId (runtime.updateAuthInfo authInfo)
  | none => sessions

/-- The session for which a GET calls `create_standalone_stream`. -/
def getSession (checks : HttpChecks) (headers : HeaderMap) : Option Str :=
  if !acceptsEventStream headers then none
  else match validateMcpProtocolVersionHeader checks headers with
  | .error _ => none
  | .ok () =>
    match parseSessionIdHeader headers mcpSessionIdHeader,
      parseSessionIdHeader headers mcpLastEventIdHeader with
    | .ok sessionId, .ok _ => sessionId
    | _, _ => none

def deletedSession (checks : HttpChecks) (headers : HeaderMap) : Option Str :=
  match validateMcpProtocolVersionHeader checks headers with
  | .error _ => none
  | .ok () =>
    match parseSessionIdHeader headers mcpSessionIdHeader with
    | .ok sessionId => sessionId
    | .error _ => none

def postOutcome (server : Server ι β ε γ) (headers : HeaderMap) (body : Str) : HttpPost.Outcome :=
  HttpPost.handleHttpPost server.checks server.messages server.isInitialize
    headers body

/-- The token is taken out of the request before the middlewares see it. -/
def handleSseConnection (middlewares : List (Middleware γ))
    (newSessionId : Option Str) : RequestHandler γ :=
  fun request sessions =>
    let (request, authInfo) := request.take
    compose middlewares
      (fun _ sessions => createSession newSessionId authInfo sessions) request
      sessions

/-- The message goes to the transport of the session. -/
def internalHandleSseMessage : RequestHandler γ :=
  fun _ sessions => sessions

def internalHandleStreamableHttp (server : Server ι β ε γ)
    (newSessionId : Option Str) : RequestHandler γ :=
  fun request sessions =>
    let (request, authInfo) := request.take
    match request.method with
    | .get =>
      match getSession server.checks request.headers with
      | some sessionId => updateSession sessionId authInfo sessions
      | none => sessions
    | .post =>
      match postOutcome server request.headers request.body with
      | .incoming sessionId _ => updateSession sessionId authInfo sessions
      | .startNewSession _ => createSession newSessionId authInfo sessions
      | .error _ _ => sessions
    | .delete =>
      match deletedSession server.checks request.headers with
      | some sessionId => sessions.erase sessionId
      | none => sessions
    | .other => sessions

def process (server : Server ι β ε γ) (incoming : Incoming γ) : Sessions γ → Sessions γ :=
  let middlewares := server.before ++ authMiddleware incoming.provider incoming.now :: server.after
  match incoming.endpoint with
  | .sse =>
    handleSseConnection middlewares incoming.newSessionId incoming.request
  | .message => compose middlewares internalHandleSseMessage incoming.request
  | .streamableHttp =>
    compose middlewares
      (internalHandleStreamableHttp server incoming.newSessionId)
      incoming.request

/-- Requests one after the other, on a server without sessions. -/
def processAll (server : Server ι β ε γ) (incomings : List (Incoming γ)) : Sessions γ :=
  incomings.foldl (fun sessions incoming => process server incoming sessions) ∅

def Incoming.Starts (server : Server ι β ε γ) (self : Incoming γ) : Prop :=
  self.request.method = .post ∧ ∃ payload,
    postOutcome server self.request.headers self.request.body = .startNewSession payload

/-- The session that a request of the four kinds makes or uses. -/
def usedSession (server : Server ι β ε γ) (incoming : Incoming γ)
    (sessions : Sessions γ) : Option Str :=
  let present := fun sessionId => decide (sessionId ∈ sessions)
  match incoming.endpoint with
  | .sse => incoming.newSessionId
  | .message => incoming.request.sessionIdParam.filter present
  | .streamableHttp =>
    match incoming.request.method with
    | .get =>
      (getSession server.checks incoming.request.headers).filter present
    | .post =>
      match postOutcome server incoming.request.headers
        incoming.request.body with
      | .incoming sessionId _ => (some sessionId).filter present
      | .startNewSession _ => incoming.newSessionId
      | .error _ _ => none
    | _ => none

/-- A middleware that sends the request on as it is. -/
def PassesOn (middleware : Middleware γ) (request : Request γ) : Prop :=
  ∀ authInfo sessions next,
    middleware { request with authInfo } sessions next = next { request with authInfo } sessions

/-- The request is admitted, with this token. -/
def Admitted (server : Server ι β ε γ) (incoming : Incoming γ) (authInfo : AuthInfo γ) : Prop :=
  (∀ middleware ∈ server.before ++ server.after, PassesOn middleware incoming.request) ∧
    AuthMiddleware.validate incoming.provider incoming.now
      incoming.request.headers = .ok authInfo

/-- Then the runtime of its session has the token validated for the request. -/
def Propagates (server : Server ι β ε γ) (incoming : Incoming γ) (sessions : Sessions γ) : Prop :=
  ∀ authInfo sessionId, Admitted server incoming authInfo →
    usedSession server incoming sessions = some sessionId →
      ∃ runtime,
        (process server incoming sessions).lookup sessionId = some runtime ∧
          runtime.authInfo = some authInfo

/-- The SSE connection or the session has the token already, and the session of
another request has no other token with its unique id. -/
def Carries (server : Server ι β ε γ) (incoming : Incoming γ)
    (sessions : Sessions γ) (sessionId : Str) (authInfo : AuthInfo γ) : Prop :=
  match incoming.endpoint with
  | .sse => incoming.request.authInfo = some authInfo
  | .message => ∃ runtime, sessions.lookup sessionId = some runtime ∧
      runtime.authInfo = some authInfo
  | .streamableHttp => incoming.Starts server ∨
      ∀ runtime old, sessions.lookup sessionId = some runtime →
        runtime.authInfo = some old → old.tokenUniqueId = authInfo.tokenUniqueId → old = authInfo

theorem updateAuthInfo_eq_iff {self : ServerRuntime γ} {authInfo : AuthInfo γ} :
    (self.updateAuthInfo (some authInfo)).authInfo = some authInfo ↔
      ∀ old, self.authInfo = some old →
        old.tokenUniqueId = authInfo.tokenUniqueId → old = authInfo := by
  obtain ⟨current⟩ := self
  cases current with
  | none => simp [ServerRuntime.updateAuthInfo, shouldUpdate]
  | some old =>
    by_cases hid : old.tokenUniqueId = authInfo.tokenUniqueId
    · simp [ServerRuntime.updateAuthInfo, shouldUpdate, hid]
    · simp [ServerRuntime.updateAuthInfo, shouldUpdate, hid]

variable {sessions : Sessions γ} {sessionId : Str}

theorem compose_of_passesOn {middlewares : List (Middleware γ)} {request : Request γ}
    (hpass : ∀ middleware ∈ middlewares, PassesOn middleware request)
    (finalHandler : RequestHandler γ) (authInfo : Option (AuthInfo γ)) (sessions : Sessions γ) :
    compose middlewares finalHandler { request with authInfo } sessions =
      finalHandler { request with authInfo } sessions := by
  induction middlewares with
  | nil => rfl
  | cons middleware middlewares ih =>
    rw [forall_mem_cons] at hpass
    change middleware _ _ (compose middlewares finalHandler) = _
    rw [hpass.1, ih hpass.2]

theorem compose_of_admitted {server : Server ι β ε γ} {incoming : Incoming γ}
    {authInfo : AuthInfo γ} (hadmitted : Admitted server incoming authInfo)
    (finalHandler : RequestHandler γ) (carried : Option (AuthInfo γ)) (sessions : Sessions γ) :
    compose (server.before ++
        authMiddleware incoming.provider incoming.now :: server.after)
          finalHandler { incoming.request with authInfo := carried } sessions =
      finalHandler { incoming.request with authInfo := some authInfo }
        sessions := by
  obtain ⟨hpass, hvalid⟩ := hadmitted
  rw [forall_mem_append] at hpass
  rw [compose, foldr_append]
  refine (compose_of_passesOn hpass.1 _ _ _).trans ?_
  change authMiddleware _ _ _ _ (compose server.after finalHandler) = _
  simp only [authMiddleware, hvalid]
  exact compose_of_passesOn hpass.2 finalHandler (some authInfo) sessions

theorem process_of_admitted {server : Server ι β ε γ} {incoming : Incoming γ}
    {authInfo : AuthInfo γ} (hadmitted : Admitted server incoming authInfo)
    (sessions : Sessions γ) :
    process server incoming sessions =
      match incoming.endpoint with
      | .sse => createSession incoming.newSessionId incoming.request.authInfo
          sessions
      | .message => sessions
      | .streamableHttp =>
        internalHandleStreamableHttp server incoming.newSessionId
          { incoming.request with authInfo := some authInfo } sessions := by
  unfold process
  cases incoming.endpoint with
  | sse => exact compose_of_admitted hadmitted _ none sessions
  | message | streamableHttp =>
    exact compose_of_admitted hadmitted _ incoming.request.authInfo sessions

theorem updateSession_iff (hmem : sessionId ∈ sessions) (authInfo : AuthInfo γ) :
    (∃ runtime, (updateSession sessionId (some authInfo) sessions).lookup
          sessionId = some runtime ∧ runtime.authInfo = some authInfo) ↔
      ∀ runtime old, sessions.lookup sessionId = some runtime → runtime.authInfo = some old →
          old.tokenUniqueId = authInfo.tokenUniqueId → old = authInfo := by
  obtain ⟨runtime, hruntime⟩ := isSome_iff_exists.mp (AList.lookup_isSome.mpr hmem)
  simp only [updateSession, hruntime, AList.lookup_insert, some.injEq,
    exists_eq_left', updateAuthInfo_eq_iff]
  constructor
  · rintro hold other old rfl
    exact hold old
  · intro hold old
    exact hold runtime old rfl

theorem createSession_iff {carried : Option (AuthInfo γ)} {authInfo : AuthInfo γ} :
    (∃ runtime, (createSession (some sessionId) carried sessions).lookup
          sessionId = some runtime ∧ runtime.authInfo = some authInfo) ↔
      carried = some authInfo := by
  simp [createSession]

theorem process_iff_carries {server : Server ι β ε γ} {incoming : Incoming γ}
    {authInfo : AuthInfo γ} (hadmitted : Admitted server incoming authInfo)
    (hused : usedSession server incoming sessions = some sessionId) :
    (∃ runtime, (process server incoming sessions).lookup sessionId = some runtime ∧
          runtime.authInfo = some authInfo) ↔
      Carries server incoming sessions sessionId authInfo := by
  rw [process_of_admitted hadmitted]
  unfold usedSession at hused
  unfold Carries
  cases hendpoint : incoming.endpoint with
  | sse =>
    simp only [hendpoint] at hused
    rw [hused]
    exact createSession_iff
  | message => rfl
  | streamableHttp =>
    simp only [hendpoint, internalHandleStreamableHttp, Request.take, Incoming.Starts] at hused ⊢
    cases hmethod : incoming.request.method with
    | get =>
      simp only [hmethod, filter_eq_some_iff, decide_eq_true_eq] at hused
      simp only [hused.1, reduceCtorEq, false_and, false_or]
      exact updateSession_iff hused.2 authInfo
    | post =>
      simp only [hmethod] at hused
      cases houtcome : postOutcome server incoming.request.headers
          incoming.request.body with
      | error status body =>
        rw [houtcome] at hused
        cases hused
      | incoming target payload =>
        simp only [houtcome, filter_eq_some_iff, decide_eq_true_eq, some.injEq] at hused
        obtain ⟨rfl, hmem⟩ := hused
        simp only [reduceCtorEq, exists_false, and_false, false_or]
        exact updateSession_iff hmem authInfo
      | startNewSession payload =>
        simp only [houtcome] at hused
        rw [hused]
        simp only [createSession_iff, HttpPost.Outcome.startNewSession.injEq, exists_eq', and_self,
          true_or]
    | delete | other =>
      rw [hmethod] at hused
      cases hused

/-- For every sequence of requests: each leaves its token with the runtime of
its session exactly when each carries it. -/
theorem processAll_propagates_iff (server : Server ι β ε γ) (incomings : List (Incoming γ)) :
    (∀ before incoming after, incomings = before ++ incoming :: after →
        Propagates server incoming (processAll server before)) ↔
      ∀ before incoming after, incomings = before ++ incoming :: after →
        ∀ authInfo sessionId, Admitted server incoming authInfo →
          usedSession server incoming (processAll server before) = some sessionId →
          Carries server incoming (processAll server before) sessionId authInfo := by
  constructor
  · intro hall before incoming after hsplit authInfo sessionId hadmitted hused
    exact (process_iff_carries hadmitted hused).mp
      (hall before incoming after hsplit authInfo sessionId hadmitted hused)
  · intro hall before incoming after hsplit authInfo sessionId hadmitted hused
    exact (process_iff_carries hadmitted hused).mpr
      (hall before incoming after hsplit authInfo sessionId hadmitted hused)

namespace AuthPropagationWitness

def server : Server Nat Bool Unit Unit where
  checks := ⟨fun _ => .ok (), fun _ => .ok ()⟩
  messages :=
    { runtime := ⟨fun _ params => .ok params, fun _ => .ok (), fun _ => .ok (), false⟩
      parse := fun _ => some .null
      clientMessage := fun _ => some (.request 1 true)
      enableJsonResponse := false
      maxLineLength := 1000 }
  isInitialize := id
  before := []
  after := []

def authInfo (scopes : List Str) : AuthInfo Unit :=
  ⟨"t", some scopes, some 100, ()⟩

def provider (scopes : List Str) : AuthProvider Unit :=
  ⟨fun _ => .ok (authInfo scopes), none⟩

def headers (sessionId : List Str) : HeaderMap :=
  ⟨[(acceptHeader, some "application/json, text/event-stream".toList),
      (HttpPost.contentTypeHeader, some "application/json"),
      (AuthMiddleware.authorizationHeader, some "Bearer t")] ++
    sessionId.map fun id => (mcpSessionIdHeader, some id)⟩

def incoming (endpoint : Endpoint) (method : Method) (sessionId : List Str)
    (scopes : List Str) : Incoming Unit where
  endpoint
  request := ⟨method, headers sessionId, sessionId.head?, [], none⟩
  provider := provider scopes
  now := 50
  newSessionId := some "s"

def sse : List (Incoming Unit) :=
  [incoming .sse .get [] [], incoming .message .post ["s"] []]

/-- A session whose token is granted fewer scopes when it is refreshed. -/
def refreshed : List (Incoming Unit) :=
  [incoming .streamableHttp .post [] ["read", "write"],
    incoming .streamableHttp .post ["s"] ["read"]]

theorem admitted_incoming (endpoint : Endpoint) (method : Method) (sessionId : List Str)
    (scopes : List Str) :
    Admitted server (incoming endpoint method sessionId scopes) (authInfo scopes) :=
  ⟨forall_mem_nil _, rfl⟩

/-- An SSE session never gets the token, and a refreshed one is not taken. -/
theorem not_propagates :
    (¬ Propagates server (incoming .sse .get [] []) (processAll server [])) ∧
      (¬ Propagates server (incoming .message .post ["s".toList] [])
        (processAll server (sse.take 1))) ∧
      ¬ Propagates server
        (incoming .streamableHttp .post ["s".toList] ["read".toList])
        (processAll server (refreshed.take 1)) := by
  refine ⟨fun hpropagates => ?_, fun hpropagates => ?_, fun hpropagates => ?_⟩
  · obtain ⟨runtime, hruntime, hinfo⟩ := hpropagates (authInfo []) "s".toList
      (admitted_incoming ..) rfl
    cases hruntime
    cases hinfo
  · obtain ⟨runtime, hruntime, hinfo⟩ := hpropagates (authInfo []) "s".toList
      (admitted_incoming ..) rfl
    cases hruntime
    cases hinfo
  · obtain ⟨runtime, hruntime, hinfo⟩ := hpropagates
      (authInfo ["read".toList]) "s".toList (admitted_incoming ..) rfl
    cases hruntime
    cases hinfo

end AuthPropagationWitness

end McpSdk.AuthPropagation
