/-
The token store of an auth client. A response replaces all that was stored,
`get_token` clears the store before its last request, and a response takes the
moment at which it is asked for that of its issue.
-/
import McpSdk.ClientAuth
import McpSdk.Lts

namespace McpSdk.ClientAuth

universe u v

section Kept

variable {ω : Type u} {α : Type v} {config : McpAuthConfig}
  {outside : Outside ω} {property : ω → Prop} {client next : McpAuthClient ω}

/-- No question to a server changes what the property says. -/
structure Outside.Keeps (outside : Outside ω) (property : ω → Prop) :
    Prop where
  tryFetchMetadata : ∀ world url, property world → property (outside.tryFetchMetadata world url).2
  fetchProtectedResourceMetadata : ∀ world url, property world →
    property (outside.fetchProtectedResourceMetadata world url).2
  probe : ∀ world url, property world → property (outside.probe world url).2
  postRegistration : ∀ world request, property world →
    property (outside.postRegistration world request).2
  postToken : ∀ world request, property world → property (outside.postToken world request).2

theorem fetchFirst_keeps {fetch : ω → Str → Option α × ω}
    (hfetch : ∀ world url, property world → property (fetch world url).2) (urls : List Str)
    {world : ω} (hworld : property world) : property (fetchFirst fetch world urls).2 := by
  induction urls generalizing world with
  | nil => exact hworld
  | cons url urls ih =>
    have hnext := hfetch world url hworld
    rw [fetchFirst]
    split
    · rename_i hfound
      rw [hfound] at hnext
      exact hnext
    · rename_i hnone
      rw [hnone] at hnext
      exact ih hnext

theorem Outside.Keeps.discoverFromResource (hkeeps : outside.Keeps property)
    (hclient : property client.world) :
    property (ClientAuth.discoverFromResource config outside client).2.world := by
  have hprobed : property
      (probeForResourceMetadata config outside client).2.world := by
    have hprobe := hkeeps.probe client.world config.serverUrl hclient
    rw [probeForResourceMetadata]
    split
    · rename_i hnone
      rw [hnone] at hprobe
      exact hprobe
    · rename_i hsome
      rw [hsome] at hprobe
      exact hprobe
  rw [ClientAuth.discoverFromResource]
  split
  rename_i explicitPrm probed hprobe
  rw [hprobe] at hprobed
  have hprm := fetchFirst_keeps hkeeps.fetchProtectedResourceMetadata
    (prmUrlCandidates outside.parseUrl config.serverUrl explicitPrm) hprobed
  split
  · rename_i hnone
    rw [hnone] at hprm
    exact hprm
  · rename_i prm world hsome
    rw [hsome] at hprm
    exact fetchFirst_keeps hkeeps.tryFetchMetadata _ hprm

theorem Outside.Keeps.discoverMetadata (hkeeps : outside.Keeps property)
    (hclient : property client.world) :
    property (ClientAuth.discoverMetadata config outside client).2.world := by
  rw [ClientAuth.discoverMetadata]
  split
  · exact hclient
  · split
    · exact hclient
    · have hfetched := fetchFirst_keeps hkeeps.tryFetchMetadata
        (metadataUrlFallbacks outside.parseUrl config.serverUrl) hclient
      split
      · rename_i hfound
        rw [hfound] at hfetched
        exact hfetched
      · rename_i world hnone
        rw [hnone] at hfetched
        have hresource : property (ClientAuth.discoverFromResource config
            outside (client.withWorld world)).2.world :=
          hkeeps.discoverFromResource hfetched
        split
        · rename_i hfound
          rw [hfound] at hresource
          exact hresource
        · rename_i hmissing
          rw [hmissing] at hresource
          exact hresource

theorem Outside.Keeps.register (hkeeps : outside.Keeps property) (hclient : property client.world) :
    property (ClientAuth.register config outside client).2.world := by
  rw [ClientAuth.register]
  split
  · exact hclient
  · have hdiscovered : property (ClientAuth.discoverMetadata config outside client).2.world :=
      hkeeps.discoverMetadata hclient
    split
    · rename_i hfailed
      rw [hfailed] at hdiscovered
      exact hdiscovered
    · rename_i metadata found hfound
      rw [hfound] at hdiscovered
      split
      · exact hdiscovered
      · split
        · exact hdiscovered
        · rename_i endpoint hendpoint
          have hposted := hkeeps.postRegistration found.world ⟨endpoint,
            "rust-mcp-client", resolvedScope config found,
            ["client_credentials"]⟩ hdiscovered
          rw [ClientAuth.postRegistration]
          split
          rename_i reply world hreply
          rw [hreply] at hposted
          split
          · exact hposted
          · exact hposted

theorem Outside.Keeps.exchangeToken (hkeeps : outside.Keeps property)
    (hclient : property client.world) {grantType : GrantType}
    {result : Except ClientError TokenResponse}
    (hexchange : ClientAuth.exchangeToken config outside grantType client = (result, next)) :
    match result with
    | .error _ => property next.world
    | .ok token => ∃ world, property world ∧
        next.world = outside.setTokens world token := by
  have hdiscovered : property (ClientAuth.discoverMetadata config outside client).2.world :=
    hkeeps.discoverMetadata hclient
  rw [ClientAuth.exchangeToken] at hexchange
  split at hexchange
  · rename_i hfailed
    rw [hfailed] at hdiscovered
    cases hexchange
    exact hdiscovered
  · rename_i metadata found hfound
    rw [hfound] at hdiscovered
    have hregistered : property (ClientAuth.register config outside found).2.world :=
      hkeeps.register hdiscovered
    split at hexchange
    · rename_i hfailed
      rw [hfailed] at hregistered
      cases hexchange
      exact hregistered
    · rename_i registration registered hregister
      rw [hregister] at hregistered
      rw [sendTokenRequest] at hexchange
      have hposted := hkeeps.postToken registered.world
        (tokenRequest config outside metadata grantType registration
          (resolvedScope config registered)) hregistered
      split at hexchange
      rename_i reply world hreply
      rw [hreply] at hposted
      split at hexchange
      · cases hexchange
        exact hposted
      · cases hexchange
        exact ⟨world, hposted, rfl⟩

end Kept

def u64Max : Nat :=
  Nat.pow 2 64 - 1

def saturatingAdd (left right : Nat) : Nat :=
  min (left + right) u64Max

structure CachedToken where
  accessToken : Str
  refreshToken : Option Str
  expiresAtSecs : Option Nat
deriving Repr, DecidableEq

structure InMemoryTokenStore where
  inner : Option CachedToken
deriving Repr, DecidableEq

/-- When the response expires; the moment of its issue is not kept. -/
def TokenResponse.expiresAtSecs (token : TokenResponse) (issuedAtSecs : Nat) : Option Nat :=
  token.expiresIn.map (saturatingAdd issuedAtSecs)

/-- The clock is read twice, for the moment of the issue and for the present. -/
def TokenResponse.isExpired (token : TokenResponse) (issuedAtSecs nowSecs : Nat) : Bool :=
  ((token.expiresAtSecs issuedAtSecs).map fun exp =>
    decide (exp ≤ saturatingAdd nowSecs 30)).getD false

def CachedToken.isExpired (cached : CachedToken) (nowSecs : Nat) : Bool :=
  (cached.expiresAtSecs.map fun exp =>
    decide (exp ≤ saturatingAdd nowSecs 30)).getD false

def TokenResponse.cached (token : TokenResponse) (nowSecs : Nat) : CachedToken :=
  ⟨token.accessToken, token.refreshToken, token.expiresAtSecs nowSecs⟩

namespace InMemoryTokenStore

def new : InMemoryTokenStore :=
  ⟨none⟩

def getAccessToken (store : InMemoryTokenStore) (nowSecs : Nat) : Option Str :=
  match store.inner with
  | some ct => if ct.isExpired nowSecs then none else some ct.accessToken
  | none => none

def getRefreshToken (store : InMemoryTokenStore) : Option Str :=
  store.inner.bind CachedToken.refreshToken

def setTokens (_store : InMemoryTokenStore) (nowSecs : Nat)
    (tokenResponse : TokenResponse) : InMemoryTokenStore :=
  ⟨some (tokenResponse.cached nowSecs)⟩

def clear (_store : InMemoryTokenStore) : InMemoryTokenStore :=
  ⟨none⟩

@[simp] theorem getRefreshToken_setTokens (store : InMemoryTokenStore)
    (nowSecs : Nat) (tokenResponse : TokenResponse) :
    (store.setTokens nowSecs tokenResponse).getRefreshToken = tokenResponse.refreshToken := rfl

end InMemoryTokenStore

/-- The store of the client, and the state of the servers and the clock. -/
structure World (σ : Type u) where
  store : InMemoryTokenStore
  servers : σ

/-- The servers, the clock and the crates, which know nothing of the store. -/
structure Servers (σ : Type u) where
  parseUrl : Str → Option ParsedUrl
  base64Encode : Str → Str
  nowSecs : σ → Nat × σ
  tryFetchMetadata : σ → Str → Option AuthorizationServerMetadata × σ
  fetchProtectedResourceMetadata : σ → Str → Option OauthProtectedResourceMetadata × σ
  probe : σ → Str → Option Str × σ
  postRegistration : σ → RegistrationRequest → Reply RegistrationResponse × σ
  postToken : σ → TokenRequest → Reply TokenResponse × σ

section Store

variable {σ : Type u} {α : Type v} {config : McpAuthConfig}
  {servers : Servers σ} {client next : McpAuthClient (World σ)}

def World.ask (world : World σ) (question : σ → α × σ) : α × World σ :=
  ((question world.servers).1, ⟨world.store, (question world.servers).2⟩)

/-- What is outside a client whose token store is the one in memory. -/
def Servers.outside (servers : Servers σ) : Outside (World σ) where
  parseUrl := servers.parseUrl
  base64Encode := servers.base64Encode
  tryFetchMetadata := fun world url =>
    world.ask fun state => servers.tryFetchMetadata state url
  fetchProtectedResourceMetadata := fun world url =>
    world.ask fun state => servers.fetchProtectedResourceMetadata state url
  probe := fun world url => world.ask fun state => servers.probe state url
  postRegistration := fun world request =>
    world.ask fun state => servers.postRegistration state request
  postToken := fun world request =>
    world.ask fun state => servers.postToken state request
  getAccessToken := fun world =>
    match world.ask servers.nowSecs with
    | (now, next) => (world.store.getAccessToken now, next)
  getRefreshToken := fun world => (world.store.getRefreshToken, world)
  setTokens := fun world tokenResponse =>
    match world.ask servers.nowSecs with
    | (now, next) => ⟨world.store.setTokens now tokenResponse, next.servers⟩
  clear := fun world => ⟨world.store.clear, world.servers⟩

theorem Servers.keeps (servers : Servers σ) (store : InMemoryTokenStore) :
    servers.outside.Keeps fun world => world.store = store :=
  ⟨fun _ _ hstore => hstore, fun _ _ hstore => hstore,
    fun _ _ hstore => hstore, fun _ _ hstore => hstore,
    fun _ _ hstore => hstore⟩

variable {error : ClientError}

theorem store_of_exchangeToken_ok {grantType : GrantType} {token : TokenResponse}
    (hexchange : exchangeToken config servers.outside grantType client = (.ok token, next)) :
    ∃ now, next.world.store = client.world.store.setTokens now token := by
  obtain ⟨world, -, hnext⟩ := (servers.keeps client.world.store).exchangeToken rfl hexchange
  refine ⟨(servers.nowSecs world.servers).1, ?_⟩
  rw [hnext]
  rfl

/-- The client after an exchange, whatever it returned. -/
def exchange (config : McpAuthConfig) (outside : Outside (World σ))
    (client : McpAuthClient (World σ)) (grantType : GrantType) : Option (McpAuthClient (World σ)) :=
  some (exchangeToken config outside grantType client).2

structure RefreshedWithout (config : McpAuthConfig)
    (outside : Outside (World σ)) (client : McpAuthClient (World σ))
    (grantType : GrantType) (next : McpAuthClient (World σ)) : Prop where
  refresh : ∃ refreshToken, grantType = .refreshToken refreshToken
  response : ∃ token, exchangeToken config outside grantType client =
    (.ok token, next) ∧ token.refreshToken = none

/-- The stored refresh token is still stored after such a refresh. -/
def Retains (config : McpAuthConfig) (outside : Outside (World σ))
    (client : McpAuthClient (World σ)) (grantType : GrantType) : Prop :=
  ∀ next, RefreshedWithout config outside client grantType next →
    next.world.store.getRefreshToken = client.world.store.getRefreshToken

/-- No refresh token was stored before such a refresh. -/
def NothingToRetain (config : McpAuthConfig) (outside : Outside (World σ))
    (client : McpAuthClient (World σ)) (grantType : GrantType) : Prop :=
  ∀ next, RefreshedWithout config outside client grantType next →
    client.world.store.getRefreshToken = none

theorem retains_iff (client : McpAuthClient (World σ)) (grantType : GrantType) :
    Retains config servers.outside client grantType ↔
      NothingToRetain config servers.outside client grantType := by
  refine forall_congr' fun next => ?_
  refine forall_congr' fun hrefreshed => ?_
  obtain ⟨token, hexchange, hnone⟩ := hrefreshed.response
  obtain ⟨now, hstore⟩ := store_of_exchangeToken_ok hexchange
  rw [hstore, InMemoryTokenStore.getRefreshToken_setTokens, hnone]
  exact eq_comm

/-- For every sequence of exchanges: each refresh without a refresh token in its
response keeps the stored one exactly when none was stored before. -/
theorem refreshToken_retained_iff (config : McpAuthConfig) (servers : Servers σ)
    (client : McpAuthClient (World σ)) (grants : List GrantType) :
    Lts.Along (exchange config servers.outside) (Retains config servers.outside) client grants ↔
      Lts.Along (exchange config servers.outside)
        (NothingToRetain config servers.outside) client grants := by
  refine Lts.along_congr (fun _ _ => trivial) ?_ trivial grants
  intro state _ grantType
  exact retains_iff state grantType

theorem reauthenticate_error_store
    (hfailed : reauthenticate config servers.outside client = (.error error, next)) :
    next.world.store = .new := by
  rw [reauthenticate, authenticate] at hfailed
  split at hfailed
  · rename_i hexchange
    cases hfailed
    exact (servers.keeps .new).exchangeToken rfl hexchange
  · cases hfailed

theorem getToken_error_store
    (hfailed : getToken config servers.outside client = (.error error, next)) :
    next.world.store = .new := by
  rw [getToken] at hfailed
  split at hfailed
  · cases hfailed
  · split at hfailed
    · exact reauthenticate_error_store hfailed
    · split at hfailed
      · cases hfailed
      · exact reauthenticate_error_store hfailed

/-- A `get_token` that fails leaves the store as it was exactly when it was empty. -/
theorem getToken_error_store_eq_iff {error : ClientError}
    (hfailed : getToken config servers.outside client = (.error error, next)) :
    next.world.store = client.world.store ↔ client.world.store = .new := by
  rw [getToken_error_store hfailed]
  exact eq_comm

end Store

section Expiry

theorem min_le_saturatingAdd_iff (left right : Nat) :
    min left u64Max ≤ saturatingAdd right 30 ↔ min left u64Max ≤ right + 30 := by
  unfold saturatingAdd
  omega

theorem CachedToken.isExpired_cached_iff {token : TokenResponse} {expiresIn : Nat}
    (hexpires : token.expiresIn = some expiresIn) (stored now : Nat) :
    (token.cached stored).isExpired now = true ↔ saturatingAdd stored expiresIn ≤ now + 30 := by
  rw [CachedToken.isExpired, TokenResponse.cached, TokenResponse.expiresAtSecs, hexpires]
  exact decide_eq_true_iff.trans (min_le_saturatingAdd_iff _ _)

theorem TokenResponse.isExpired_iff {token : TokenResponse} {expiresIn : Nat}
    (hexpires : token.expiresIn = some expiresIn) (now : Nat) :
    token.isExpired now now = true ↔ expiresIn ≤ 30 ∨ u64Max ≤ now + 30 := by
  rw [TokenResponse.isExpired, TokenResponse.expiresAtSecs, hexpires]
  refine (decide_eq_true_iff.trans (min_le_saturatingAdd_iff _ _)).trans ?_
  omega

/-- For every response stored in the second of its issue: response and store
judge its expiry from there exactly when it lives for at most thirty seconds, or
has not expired, or the clock is at its end. -/
theorem isExpired_from_issue_iff {token : TokenResponse} {expiresIn : Nat}
    (hexpires : token.expiresIn = some expiresIn) {issued now : Nat} (hlater : issued ≤ now) :
    ((token.isExpired now now = true ↔ saturatingAdd issued expiresIn ≤ now + 30) ∧
        ((token.cached issued).isExpired now = true ↔ saturatingAdd issued expiresIn ≤ now + 30)) ↔
      expiresIn ≤ 30 ∨ now + 30 < saturatingAdd issued expiresIn ∨ u64Max ≤ now + 30 := by
  rw [and_iff_left (CachedToken.isExpired_cached_iff hexpires issued now),
    TokenResponse.isExpired_iff hexpires]
  unfold saturatingAdd
  omega

end Expiry

namespace TokenStoreWitness

def machine : McpAuthConfig where
  serverUrl := "s"
  clientId := some "c"
  clientSecret := none
  scope := none
  redirectUri := none
  metadata := some ⟨"a", "t", none, none, none⟩
  resource := none
  clientMetadataUrl := none

def issued (refreshToken : Option Str) : TokenResponse :=
  ⟨"x", "bearer", some 100, refreshToken, none⟩

/-- A server with these answers, which is then not reached any more. -/
def answering (now : Nat) : Servers (List TokenResponse) where
  parseUrl := fun _ => none
  base64Encode := fun text => text
  nowSecs := fun answers => (now, answers)
  tryFetchMetadata := fun answers _ => (none, answers)
  fetchProtectedResourceMetadata := fun answers _ => (none, answers)
  probe := fun answers _ => (none, answers)
  postRegistration := fun answers _ => (.failed "down", answers)
  postToken := fun answers _ =>
    match answers with
    | [] => (.failed "down", [])
    | token :: rest => (.answered 200 [] (.ok token), rest)

def holding (inner : Option CachedToken) (answers : List TokenResponse) :
    McpAuthClient (World (List TokenResponse)) :=
  .new ⟨⟨inner⟩, answers⟩

/-- The client has a refresh token, and loses it with the first refresh. -/
theorem refreshToken_lost :
    ∃ first second,
      exchangeToken machine (answering 0).outside .clientCredentials
          (holding none [issued (some "r".toList), issued none]) =
        (.ok (issued (some "r".toList)), first) ∧
      exchangeToken machine (answering 0).outside
          (.refreshToken "r".toList) first = (.ok (issued none), second) ∧
      first.world.store.getRefreshToken = some "r".toList ∧
      second.world.store.getRefreshToken = none :=
  ⟨_, _, rfl, rfl, rfl, rfl⟩

def stale : CachedToken :=
  (issued (some "r")).cached 0

def failed (inner : Option CachedToken) : McpAuthClient (World (List TokenResponse)) :=
  (getToken machine (answering 100).outside (holding inner [])).2

/-- A server that is down takes the refresh token of the client with it. -/
theorem getToken_error_clears :
    getToken machine (answering 100).outside (holding (some stale) []) =
        (.error (.http "down".toList), failed (some stale)) ∧
      (holding (some stale) []).world.store.getRefreshToken = some "r".toList ∧
      (failed (some stale)).world.store = .new :=
  ⟨rfl, rfl, rfl⟩

theorem getToken_error_keeps_empty :
    getToken machine (answering 100).outside (holding none []) =
        (.error (.http "down"), failed none) ∧
      (failed none).world.store = (holding none []).world.store := by
  have hfailed : getToken machine (answering 100).outside (holding none []) =
      (.error (.http "down"), failed none) := rfl
  exact ⟨hfailed, (getToken_error_store_eq_iff hfailed).mpr rfl⟩

/-- The token is a hundred seconds old and expired, and not by its response. -/
theorem issued_never_expires :
    saturatingAdd 0 100 ≤ 100 + 30 ∧ ((issued none).cached 0).isExpired 100 = true ∧
      (issued none).isExpired 100 100 = false := by
  decide

theorem issued_not_expired_at_ten :
    ((issued none).isExpired 10 10 = true ↔ saturatingAdd 0 100 ≤ 10 + 30) ∧
      (((issued none).cached 0).isExpired 10 = true ↔ saturatingAdd 0 100 ≤ 10 + 30) :=
  (isExpired_from_issue_iff rfl (Nat.zero_le 10)).mpr (.inr (.inl (by decide)))

end TokenStoreWitness

end McpSdk.ClientAuth
