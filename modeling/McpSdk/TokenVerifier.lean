/-
The generic token verifier: by a key set, an introspection endpoint, a userinfo
endpoint, or a key set and one of the two, which is then not asked again for a
while.
-/
import McpSdk.JsonWebKeySet
import McpSdk.JwtCache

namespace McpSdk

open JsonWebKeySet

universe u v

variable {κ : Type u} {ε : Type v}

namespace TokenVerifier

inductive VerificationStrategies where
  | introspection (introspectionUri clientId clientSecret : Str)
      (useBasicAuth : Bool) (extraParams : Option (List (Str × Str)))
  | jwks (jwksUri : Str)
  | userInfo (userinfoUri : Str)
deriving Repr, DecidableEq

structure TokenVerifierOptions where
  strategies : List VerificationStrategies
  validateAudience : Option Audience
  validateIssuer : Option Str
  cacheCapacity : Option Nat
deriving Repr, DecidableEq

structure StrategiesOptions where
  introspectionUri : Option Str
  introspectionBasicAuth : Bool
  introspectExtraParams : Option (List (Str × Str))
  clientId : Option Str
  clientSecret : Option Str
  jwksUri : Option Str
  userinfoUri : Option Str
deriving Repr, DecidableEq

def StrategiesOptions.default : StrategiesOptions :=
  ⟨none, false, none, none, none, none, none⟩

/-- The loop of `unpack`; of one kind the last strategy counts. -/
def unpackFrom (parseUrl : Str → Except Str Str) (result : StrategiesOptions)
    (hasJwks hasOther : Bool) : List VerificationStrategies →
      Except AuthenticationError (StrategiesOptions × Bool)
  | [] => .ok (result, hasJwks && hasOther)
  | .introspection introspectionUri clientId clientSecret useBasicAuth
      extraParams :: strategies =>
      match parseUrl introspectionUri with
      | .error err =>
        .error (.parsingError ("Invalid introspection uri: " ++ err))
      | .ok url =>
        unpackFrom parseUrl
          { result with
            introspectionUri := some url
            clientId := some clientId
            clientSecret := some clientSecret
            introspectionBasicAuth := useBasicAuth
            introspectExtraParams := extraParams }
          hasJwks true strategies
  | .jwks jwksUri :: strategies =>
    match parseUrl jwksUri with
    | .error err =>
      .error (.parsingError ("Invalid jwks uri: " ++ err))
    | .ok url =>
      unpackFrom parseUrl { result with jwksUri := some url } true hasOther
        strategies
  | .userInfo userinfoUri :: strategies =>
    match parseUrl userinfoUri with
    | .error err =>
      .error (.parsingError ("Invalid userinfo uri: " ++ err))
    | .ok url =>
      unpackFrom parseUrl { result with userinfoUri := some url } hasJwks
        true strategies

def unpack (parseUrl : Str → Except Str Str) (strategies : List VerificationStrategies) :
    Except AuthenticationError (StrategiesOptions × Bool) :=
  unpackFrom parseUrl .default false false strategies

/-- Durations and instants are in nanoseconds. -/
def jwksRefreshTime : Nat := 24 * 60 * 60 * nanosPerSec

def remoteVerificationInterval : Nat := 15 * 60 * nanosPerSec

def jwtCacheCapacity : Nat := 1000

/-- The part of a verifier that does not change. -/
structure GenericOauthTokenVerifier where
  validateAudience : Option Audience
  validateIssuer : Option Str
  allowedAlgorithms : List Algorithm
  introspectionUri : Option Str
  introspectionBasicAuth : Bool
  introspectExtraParams : Option (List (Str × Str))
  clientId : Option Str
  clientSecret : Option Str
  jwksUri : Option Str
  userinfoUri : Option Str
deriving Repr, DecidableEq

structure JwksCache (κ : Type u) where
  lastUpdated : Option Nat
  jwks : List (Jwk κ)
deriving DecidableEq

/-- What the verifier remembers between two calls. -/
structure State (κ : Type u) where
  jwtCache : Option JwtCache
  jsonWebKeySet : Option (JwksCache κ)
deriving DecidableEq

def GenericOauthTokenVerifier.new (parseUrl : Str → Except Str Str)
    (options : TokenVerifierOptions) :
    Except AuthenticationError (GenericOauthTokenVerifier × State κ) :=
  match unpack parseUrl options.strategies with
  | .error error => .error error
  | .ok (strategyOptions, cacheable) =>
    .ok
      ({ validateAudience := options.validateAudience
         validateIssuer := options.validateIssuer.map (RustStr.trimEndMatches '/')
         allowedAlgorithms := defaultJwksAlgorithms
         introspectionUri := strategyOptions.introspectionUri
         introspectionBasicAuth := strategyOptions.introspectionBasicAuth
         introspectExtraParams := strategyOptions.introspectExtraParams
         clientId := strategyOptions.clientId
         clientSecret := strategyOptions.clientSecret
         jwksUri := strategyOptions.jwksUri
         userinfoUri := strategyOptions.userinfoUri },
        { jwtCache :=
            if cacheable then
              some (JwtCache.new remoteVerificationInterval
                (options.cacheCapacity.getD jwtCacheCapacity))
            else none
          jsonWebKeySet := none })

def GenericOauthTokenVerifier.withAllowedAlgorithms (self : GenericOauthTokenVerifier)
    (algorithms : List Algorithm) : GenericOauthTokenVerifier :=
  { self with allowedAlgorithms := algorithms }

/-- An error, or a response with its status, a message to report, and its body read as JSON. -/
inductive Reply (β : Type v) where
  | failed (error : Str)
  | answered (status : Nat) (message : Option Str) (json : Except Str β)

def isSuccess (status : Nat) : Bool :=
  200 ≤ status && status < 300

structure IntrospectionRequest where
  uri : Str
  form : AList fun _ : Str => Str
  basicAuth : Option (Str × Option Str)

/-- The endpoints; the body of a userinfo response is its object, if any. -/
structure Remote (κ : Type u) (ε : Type v) where
  introspect : IntrospectionRequest → Reply IntrospectionResponse
  userInfo : Str → Str → Reply (Option ε)
  fetchJwks : Str → Except Str (List (Jwk κ))

/-- The readings of a call: system times for key sets and expiry, then instants. -/
structure Clock where
  aged : Nat
  populated : Nat
  decoded : Nat
  recent : Nat
  purged : Nat
  stamp : Nat
deriving Repr, DecidableEq

/-- The result of a verification; nothing if it panics. -/
abbrev Verified (ε : Type v) :=
  Option (Except AuthenticationError (AuthInfo (TokenClaims ε)))

section Endpoints

variable (crate : JwtCrate κ) (remote : Remote κ ε)
  (self : GenericOauthTokenVerifier)

def userInfoId (token : Str) (tokenUniqueId : Option Str) : Except AuthenticationError Str :=
  match tokenUniqueId with
  | some id => .ok id
  | none =>
    match decodeTokenHeader crate token with
    | .error error => .error error
    | .ok header => .ok (header.kid.getD token)

/-- A success whose body is no JSON is a panic. -/
def verifyUserInfo (token : Str) (tokenUniqueId : Option Str)
    (userInfoEndpoint : Str) : Verified ε :=
  match userInfoId crate token tokenUniqueId with
  | .error error => some (.error error)
  | .ok id =>
    match remote.userInfo userInfoEndpoint token with
    | .failed error => some (.error (.jwks error))
    | .answered status message json =>
      if !isSuccess status then
        some (.error (.tokenVerificationFailed (message.getD "Unauthorized!") (some status)))
      else match json with
        | .error _ => none
        | .ok extra =>
          some (.ok
            { tokenUniqueId := id
              scopes := none
              expiresAt := none
              claims := ⟨none, none, none, extra⟩ })

/-- The form of an introspection; an extra parameter replaces one of its name. -/
def introspectionForm (token : Str) : AList fun _ : Str => Str :=
  let form : AList fun _ : Str => Str := AList.singleton "token" token
  let form := if self.introspectionBasicAuth then form else
    let form := self.clientId.elim form fun clientId =>
      form.insert "client_id" clientId
    self.clientSecret.elim form fun clientSecret =>
      form.insert "client_secret" clientSecret
  (self.introspectExtraParams.getD []).foldl
    (fun form param => form.insert param.1 param.2) form

def introspectionRequest (token introspectionEndpoint : Str) : IntrospectionRequest :=
  { uri := introspectionEndpoint
    form := introspectionForm self token
    basicAuth :=
      if self.introspectionBasicAuth then
        some (self.clientId.getD [], self.clientSecret)
      else none }

def checkAudience (response : IntrospectionResponse) : Except AuthenticationError Unit :=
  match self.validateAudience with
  | none => .ok ()
  | some validateAudience =>
    match response.audience with
    | none =>
      .error (.invalidToken "Audience attribute (aud) is missing.")
    | some tokenAudience =>
      if !tokenAudience.eq validateAudience then
        .error (.tokenVerificationFailed
          (("None of the provided audiences are allowed. " ++
            "Expected $").toList ++ validateAudience.display ++
            ", got: $" ++ tokenAudience.display) (some 401))
      else .ok ()

def checkIssuer (response : IntrospectionResponse) : Except AuthenticationError Unit :=
  match self.validateIssuer with
  | none => .ok ()
  | some validateIssuer =>
    match response.issuer with
    | none => .error (.invalidToken "Issuer (iss) is missing.")
    | some tokenIssuer =>
      if tokenIssuer ≠ validateIssuer then
        .error (.tokenVerificationFailed
          ("Issuer is not allowed. Expected $" ++ validateIssuer ++
            ", got: $" ++ tokenIssuer) (some 401))
      else .ok ()

def verifyIntrospection (token introspectionEndpoint : Str) : Verified ε :=
  match remote.introspect
      (introspectionRequest self token introspectionEndpoint) with
  | .failed error => some (.error (.jwks error))
  | .answered status message json =>
    if !isSuccess status then
      some (.error (.tokenVerificationFailed (message.getD "Unauthorized!") (some status)))
    else match json with
      | .error err => some (.error (.jwks err))
      | .ok response =>
        if !response.active then some (.error .inactiveToken)
        else match checkAudience self response with
          | .error error => some (.error error)
          | .ok () =>
            match checkIssuer self response with
            | .error error => some (.error error)
            | .ok () =>
              (AuthInfo.fromIntrospectionResponse token response none).map .ok

end Endpoints

/-- The key set that is used as it is, because it is young enough. -/
def State.usableKeys (state : State κ) (now : Nat) : Option (List (Jwk κ)) :=
  state.jsonWebKeySet.bind fun cache =>
    cache.lastUpdated.bind fun lastUpdated =>
      if now - lastUpdated < jwksRefreshTime then some cache.jwks else none

section Calls

variable (crate : JwtCrate κ) (remote : Remote κ ε) (clock : Clock)
  (self : GenericOauthTokenVerifier)

/-- The verification with a key set. -/
def verifyWith (token : Str) (keys : List (Jwk κ)) : Verified ε :=
  match verify crate (clock.decoded / nanosPerSec) keys token
      self.allowedAlgorithms self.validateAudience self.validateIssuer with
  | .error error => some (.error error)
  | .ok tokenInfo => (AuthInfo.fromTokenData token tokenInfo none).map .ok

/-- `verify_jwks`, with `populate_jwks` if the key set is too old. -/
def verifyJwks (state : State κ) (token jwksUri : Str) : Verified ε × State κ :=
  match state.usableKeys clock.aged with
  | some keys => (verifyWith crate clock self token keys, state)
  | none =>
    match remote.fetchJwks jwksUri with
    | .error err => (some (.error (.jwks err)), state)
    | .ok keys =>
      (verifyWith crate clock self token keys,
        { state with
          jsonWebKeySet := some ⟨some clock.populated, keys⟩ })

/-- The remote check, if there is an endpoint; userinfo is asked only without introspection. -/
def verifyRemote (token : Str) (authInfo : AuthInfo (TokenClaims ε)) : Option (Verified ε) :=
  match self.introspectionUri with
  | some introspectionEndpoint =>
    some (verifyIntrospection remote self token introspectionEndpoint)
  | none =>
    self.userinfoUri.map fun userInfoEndpoint =>
      (verifyUserInfo crate remote token (some authInfo.tokenUniqueId)
        userInfoEndpoint).map fun answer =>
          answer.map fun fresh =>
            { authInfo with
              claims := { authInfo.claims with extra := fresh.claims.extra } }

/-- A remote check that succeeds is recorded. -/
def State.record (state : State κ) (cache : JwtCache)
    (authInfo : AuthInfo (TokenClaims ε)) : State κ :=
  { state with
    jwtCache := some (cache.record authInfo.tokenUniqueId clock.purged clock.stamp) }

def verifyToken (state : State κ) (accessToken : Str) : Verified ε × State κ :=
  match self.jwksUri with
  | some jwksEndpoint =>
    match verifyJwks crate remote clock self state accessToken
        jwksEndpoint with
    | (some (.ok authInfo), state) =>
      match state.jwtCache with
      | none => (some (.ok authInfo), state)
      | some jwtCache =>
        if jwtCache.isRecent authInfo.tokenUniqueId clock.recent then
          (some (.ok authInfo), state)
        else
          match verifyRemote crate remote self accessToken authInfo with
          | some (some (.ok fresh)) =>
            (some (.ok fresh), state.record clock jwtCache fresh)
          | some refused => (refused, state)
          | none => (some (.ok authInfo), state)
    | (refused, state) => (refused, state)
  | none =>
    match self.introspectionUri with
    | some introspectionEndpoint =>
      (verifyIntrospection remote self accessToken introspectionEndpoint, state)
    | none =>
      match self.userinfoUri with
      | some userInfoEndpoint =>
        (verifyUserInfo crate remote accessToken none userInfoEndpoint, state)
      | none =>
        (some (.error (.invalidToken "Invalid token verification strategy!")), state)

end Calls

theorem unpackFrom_ok {parseUrl : Str → Except Str Str} {result final : StrategiesOptions}
    {hasJwks hasOther cacheable : Bool} {strategies : List VerificationStrategies}
    (hok : unpackFrom parseUrl result hasJwks hasOther strategies = .ok (final, cacheable))
    (hjwks : hasJwks = result.jwksUri.isSome)
    (hother : hasOther = (result.introspectionUri.isSome || result.userinfoUri.isSome)) :
    cacheable = (final.jwksUri.isSome &&
      (final.introspectionUri.isSome || final.userinfoUri.isSome)) := by
  induction strategies generalizing result hasJwks hasOther with
  | nil =>
    cases hok
    rw [hjwks, hother]
  | cons strategy strategies ih =>
    cases strategy with
    | introspection introspectionUri clientId clientSecret useBasicAuth
        extraParams =>
        rw [unpackFrom] at hok
        split at hok
        · cases hok
        · exact ih hok hjwks (by simp)
    | jwks jwksUri =>
      rw [unpackFrom] at hok
      split at hok
      · cases hok
      · exact ih hok (by simp) hother
    | userInfo userinfoUri =>
      rw [unpackFrom] at hok
      split at hok
      · cases hok
      · exact ih hok hjwks (by simp)

/-- What `new` makes from the options; the algorithms may be set later. -/
def Configured (parseUrl : Str → Except Str Str) (options : TokenVerifierOptions)
    (verifier : GenericOauthTokenVerifier) (initial : State κ) : Prop :=
  ∃ built algorithms,
    GenericOauthTokenVerifier.new parseUrl options = .ok (built, initial) ∧
      verifier = built.withAllowedAlgorithms algorithms

/-- There is a cache exactly with a key set and an endpoint besides. -/
def Fits (verifier : GenericOauthTokenVerifier) (state : State κ) : Prop :=
  state.jwtCache.isSome = (verifier.jwksUri.isSome &&
    (verifier.introspectionUri.isSome || verifier.userinfoUri.isSome))

structure Configured.Spec (options : TokenVerifierOptions)
    (verifier : GenericOauthTokenVerifier) (initial : State κ) : Prop where
  audience : verifier.validateAudience = options.validateAudience
  issuer : verifier.validateIssuer = options.validateIssuer.map (RustStr.trimEndMatches '/')
  fits : Fits verifier initial

theorem Configured.spec {parseUrl : Str → Except Str Str} {options : TokenVerifierOptions}
    {verifier : GenericOauthTokenVerifier} {initial : State κ}
    (hconfigured : Configured parseUrl options verifier initial) :
    Configured.Spec options verifier initial := by
  obtain ⟨built, algorithms, hnew, rfl⟩ := hconfigured
  unfold GenericOauthTokenVerifier.new at hnew
  split at hnew
  · cases hnew
  · next strategyOptions cacheable hunpack =>
    cases hnew
    refine ⟨rfl, rfl, ?_⟩
    rw [Fits, unpackFrom_ok hunpack rfl rfl]
    split
    · next htrue => exact htrue.symm
    · next hfalse => exact (Bool.eq_false_iff.mpr hfalse).symm

/-- One call of `verify_token`, with the answers it gets and its clock. -/
structure Call (κ : Type u) (ε : Type v) where
  remote : Remote κ ε
  clock : Clock
  accessToken : Str

/-- One call of `verify_token`. -/
def step (crate : JwtCrate κ) (verifier : GenericOauthTokenVerifier)
    (state : State κ) (call : Call κ ε) : Option (State κ) :=
  some (verifyToken crate call.remote call.clock verifier state call.accessToken).2

theorem verifyJwks_jwtCache (crate : JwtCrate κ) (remote : Remote κ ε) (clock : Clock)
    (verifier : GenericOauthTokenVerifier) (state : State κ) (token jwksUri : Str) :
    (verifyJwks crate remote clock verifier state token jwksUri).2.jwtCache = state.jwtCache := by
  unfold verifyJwks
  split
  · rfl
  · split
    · rfl
    · rfl

theorem verifyToken_jwtCache (crate : JwtCrate κ) (remote : Remote κ ε) (clock : Clock)
    (verifier : GenericOauthTokenVerifier) (state : State κ) (token : Str) :
    (verifyToken crate remote clock verifier state token).2.jwtCache.isSome =
      state.jwtCache.isSome := by
  unfold verifyToken
  split
  · next jwksEndpoint hjwks =>
    have hcache := verifyJwks_jwtCache crate remote clock verifier state token jwksEndpoint
    split
    · next authInfo next heq =>
      rw [heq] at hcache
      rw [← hcache]
      split
      · rfl
      · next jwtCache hsome =>
        -- only a success of the remote check changes the cache
        split
        · rfl
        · split
          · rw [hsome]
            rfl
          · rfl
          · rfl
    · next refused next hrefused heq =>
      rw [heq] at hcache
      rw [hcache]
  · split
    · rfl
    · split
      · rfl
      · rfl

/-- The caches fit the verifier after any run. -/
theorem Fits.run {crate : JwtCrate κ} {verifier : GenericOauthTokenVerifier}
    {initial state : State κ} {calls : List (Call κ ε)} (hinitial : Fits verifier initial)
    (hrun : Lts.run (step crate verifier) initial calls = some state) : Fits verifier state := by
  refine Lts.run_keeps ?_ hinitial hrun
  intro before next call hbefore hstep
  cases hstep
  rw [Fits, verifyToken_jwtCache]
  exact hbefore

section Specs

variable {crate : JwtCrate κ} {remote : Remote κ ε} {clock : Clock}
  {verifier : GenericOauthTokenVerifier} {token : Str}
  {authInfo : AuthInfo (TokenClaims ε)}

/-- What a successful introspection has been answered. -/
structure Introspected (remote : Remote κ ε)
    (verifier : GenericOauthTokenVerifier) (token endpoint : Str)
    (response : IntrospectionResponse) : Prop where
  answered : ∃ status message,
    remote.introspect (introspectionRequest verifier token endpoint) =
      .answered status message (.ok response) ∧ isSuccess status = true
  active : response.active = true
  audience : checkAudience verifier response = .ok ()
  issuer : checkIssuer verifier response = .ok ()

variable {endpoint : Str}

theorem Introspected.verifyIntrospection {response : IntrospectionResponse}
    (hresponse : Introspected remote verifier token endpoint response) :
    verifyIntrospection remote verifier token endpoint =
      (AuthInfo.fromIntrospectionResponse token response (none : Option ε)).map .ok := by
  obtain ⟨⟨status, message, hreply, hsuccess⟩, hactive, haudience, hissuer⟩ := hresponse
  unfold TokenVerifier.verifyIntrospection
  simp only [hreply, hsuccess, hactive, haudience, hissuer, Bool.not_true,
    Bool.false_eq_true, if_false]

theorem verifyIntrospection_eq_ok_iff :
    verifyIntrospection remote verifier token endpoint = some (.ok authInfo) ↔
      ∃ response, Introspected remote verifier token endpoint response ∧
        AuthInfo.fromIntrospectionResponse token response none = some authInfo := by
  constructor
  · intro hok
    unfold verifyIntrospection at hok
    -- the checks in their order; each one that fails ends with its own error
    split at hok
    · cases hok
    · next status message json hreply =>
      split at hok
      · cases hok
      · next hsuccess =>
        split at hok
        · cases hok
        · next response =>
          split at hok
          · cases hok
          · next hactive =>
            split at hok
            · cases hok
            · next haudience =>
              split at hok
              · cases hok
              · next hissuer =>
                refine ⟨response, ⟨⟨status, message, hreply, ?_⟩, ?_, haudience, hissuer⟩, ?_⟩
                · simpa using hsuccess
                · simpa using hactive
                · simpa using hok
  · rintro ⟨response, hresponse, hinfo⟩
    rw [hresponse.verifyIntrospection, hinfo]
    rfl

def userAuthInfo (id : Str) (extra : Option ε) : AuthInfo (TokenClaims ε) :=
  { tokenUniqueId := id
    scopes := none
    expiresAt := none
    claims := ⟨none, none, none, extra⟩ }

theorem verifyUserInfo_eq_ok_iff {tokenUniqueId : Option Str} :
    verifyUserInfo crate remote token tokenUniqueId endpoint = some (.ok authInfo) ↔
      ∃ id extra status message, userInfoId crate token tokenUniqueId = .ok id ∧
          remote.userInfo endpoint token = .answered status message (.ok extra) ∧
          isSuccess status = true ∧ authInfo = userAuthInfo id extra := by
  constructor
  · intro hok
    unfold verifyUserInfo at hok
    split at hok
    · cases hok
    · next id hid =>
      split at hok
      · cases hok
      · next status message json hreply =>
        split at hok
        · cases hok
        · next hsuccess =>
          split at hok
          · cases hok
          · next extra =>
            cases hok
            exact ⟨id, extra, status, message, hid, hreply, by simpa using hsuccess, rfl⟩
  · rintro ⟨id, extra, status, message, hid, hreply, hsuccess, rfl⟩
    unfold verifyUserInfo
    simp only [hid, hreply, hsuccess, Bool.not_true, Bool.false_eq_true, if_false]
    rfl

theorem verifyUserInfo_of_answered {id : Str} {extra : Option ε} {status : Nat}
    {message : Option Str}
    (hreply : remote.userInfo endpoint token = .answered status message (.ok extra))
    (hsuccess : isSuccess status = true) :
    verifyUserInfo crate remote token (some id) endpoint = some (.ok (userAuthInfo id extra)) :=
  verifyUserInfo_eq_ok_iff.mpr ⟨id, extra, status, message, rfl, hreply, hsuccess, rfl⟩

/-- A token that a key set verifies, with its claims. -/
def Signed (crate : JwtCrate κ) (clock : Clock) (verifier : GenericOauthTokenVerifier) (token : Str)
    (keys : List (Jwk κ)) (claims : AuthClaims) : Prop :=
  verify crate (clock.decoded / nanosPerSec) keys token
    verifier.allowedAlgorithms verifier.validateAudience
    verifier.validateIssuer = .ok claims

theorem verifyWith_eq_ok_iff {keys : List (Jwk κ)} :
    verifyWith crate clock verifier token keys = some (.ok authInfo) ↔
      ∃ claims, Signed crate clock verifier token keys claims ∧
        AuthInfo.fromTokenData token claims none = some authInfo := by
  unfold verifyWith
  constructor
  · intro hok
    split at hok
    · cases hok
    · next claims hverified =>
      exact ⟨claims, hverified, by simpa using hok⟩
  · rintro ⟨claims, hverified, hinfo⟩
    rw [show verify crate _ keys token _ _ _ = _ from hverified]
    simp [hinfo]

/-- The keys that `verify_jwks` uses in a state. -/
def keysFor (remote : Remote κ ε) (clock : Clock) (state : State κ)
    (jwksUri : Str) : Except Str (List (Jwk κ)) :=
  match state.usableKeys clock.aged with
  | some keys => .ok keys
  | none => remote.fetchJwks jwksUri

variable {state : State κ}

theorem verifyJwks_eq_ok_iff {jwksUri : Str} :
    (verifyJwks crate remote clock verifier state token jwksUri).1 = some (.ok authInfo) ↔
      ∃ keys claims, keysFor remote clock state jwksUri = .ok keys ∧
        Signed crate clock verifier token keys claims ∧
        AuthInfo.fromTokenData token claims none = some authInfo := by
  unfold verifyJwks keysFor
  cases state.usableKeys clock.aged with
  | some keys => simp [verifyWith_eq_ok_iff]
  | none =>
    cases remote.fetchJwks jwksUri with
    | error err => simp
    | ok keys => simp [verifyWith_eq_ok_iff]

theorem fromTokenData_of_verifyJwks {jwksUri : Str} {claims : AuthClaims}
    (hclaims : crate.claims token = .ok claims)
    (hverified : (verifyJwks crate remote clock verifier state token jwksUri).1 =
      some (.ok authInfo)) :
    AuthInfo.fromTokenData token claims none = some authInfo := by
  obtain ⟨keys, read, -, hsigned, hdata⟩ := verifyJwks_eq_ok_iff.mp hverified
  cases hclaims.symm.trans (verify_ok hsigned).1
  exact hdata

/-- The token was checked remotely a short time ago. -/
def State.isRecent (state : State κ) (clock : Clock) (authInfo : AuthInfo (TokenClaims ε)) : Bool :=
  state.jwtCache.any fun cache =>
    cache.isRecent authInfo.tokenUniqueId clock.recent

theorem verifyToken_of_jwksUri_none (hjwks : verifier.jwksUri = none) :
    (verifyToken crate remote clock verifier state token).1 =
      match verifier.introspectionUri with
      | some endpoint => verifyIntrospection remote verifier token endpoint
      | none =>
        match verifier.userinfoUri with
        | some endpoint => verifyUserInfo crate remote token none endpoint
        | none =>
          some (.error (.invalidToken
            "Invalid token verification strategy!")) := by
  unfold verifyToken
  rw [hjwks]
  cases verifier.introspectionUri with
  | some endpoint => rfl
  | none =>
    cases verifier.userinfoUri with
    | some endpoint => rfl
    | none => rfl

/-- With a key set, nothing is accepted that it does not verify. -/
theorem verifyJwks_ok_of_verifyToken {jwksUri : Str} (hjwks : verifier.jwksUri = some jwksUri)
    (hok : (verifyToken crate remote clock verifier state token).1 = some (.ok authInfo)) :
    ∃ verified, (verifyJwks crate remote clock verifier state token
      jwksUri).1 = some (.ok verified) := by
  unfold verifyToken at hok
  rw [hjwks] at hok
  simp only at hok
  split at hok
  · next verified next heq => exact ⟨verified, by rw [heq]⟩
  · next refused next hrefused heq => exact (hrefused authInfo hok).elim

/-- What the key set verifies is the result if it is recent or cannot be
checked; otherwise the remote check decides. -/
theorem verifyToken_of_verifyJwks {jwksUri : Str} (hjwks : verifier.jwksUri = some jwksUri)
    (hverified : (verifyJwks crate remote clock verifier state token jwksUri).1 =
      some (.ok authInfo))
    (hfits : Fits verifier state) :
    (verifyToken crate remote clock verifier state token).1 =
      if state.isRecent clock authInfo then some (.ok authInfo)
      else (verifyRemote crate remote verifier token authInfo).getD
        (some (.ok authInfo)) := by
  have hcache := verifyJwks_jwtCache crate remote clock verifier state token jwksUri
  unfold verifyToken State.isRecent
  rw [hjwks]
  simp only
  generalize verifyJwks crate remote clock verifier state token jwksUri = pair
    at hverified hcache
  obtain ⟨answer, ⟨jwtCache, keySet⟩⟩ := pair
  simp only at hverified hcache
  subst hverified
  rw [← hcache]
  cases jwtCache with
  | none =>
    -- without a cache there is no endpoint to ask
    rw [Fits, ← hcache, hjwks] at hfits
    obtain ⟨hintrospection, huserinfo⟩ :
        verifier.introspectionUri = none ∧ verifier.userinfoUri = none := by
      simpa using hfits
    simp [verifyRemote, hintrospection, huserinfo]
  | some cache =>
    simp only [Option.any_some]
    split
    · rfl
    · split
      · next hremote => rw [hremote, Option.getD_some]
      · next hremote => rw [hremote, Option.getD_some]
      · next hremote => rw [hremote, Option.getD_none]

end Specs

namespace TokenVerifierWitness

def jwksUri : Str := "https://a/jwks"

def userinfoUri : Str := "https://a/me"

def jwks : VerificationStrategies := .jwks jwksUri

def introspection : VerificationStrategies :=
  .introspection "https://a/introspect" "c" "s" true none

def userInfo : VerificationStrategies := .userInfo userinfoUri

def verifier (validateAudience : Option Audience) (validateIssuer : Option Str)
    (strategyOptions : StrategiesOptions) : GenericOauthTokenVerifier :=
  { validateAudience
    validateIssuer := validateIssuer.map (RustStr.trimEndMatches '/')
    allowedAlgorithms := defaultJwksAlgorithms
    introspectionUri := strategyOptions.introspectionUri
    introspectionBasicAuth := strategyOptions.introspectionBasicAuth
    introspectExtraParams := strategyOptions.introspectExtraParams
    clientId := strategyOptions.clientId
    clientSecret := strategyOptions.clientSecret
    jwksUri := strategyOptions.jwksUri
    userinfoUri := strategyOptions.userinfoUri }

def initial (cacheable : Bool) : State Unit :=
  ⟨if cacheable then some (JwtCache.new remoteVerificationInterval
    jwtCacheCapacity) else none, none⟩

theorem configured {strategies : List VerificationStrategies} {strategyOptions : StrategiesOptions}
    {cacheable : Bool} (hunpack : unpack .ok strategies = .ok (strategyOptions, cacheable))
    (validateAudience : Option Audience) (validateIssuer : Option Str) :
    Configured .ok ⟨strategies, validateAudience, validateIssuer, none⟩
      (verifier validateAudience validateIssuer strategyOptions) (initial cacheable) := by
  refine ⟨verifier validateAudience validateIssuer strategyOptions, defaultJwksAlgorithms, ?_, rfl⟩
  unfold GenericOauthTokenVerifier.new
  simp only
  rw [hunpack]
  rfl

def alone : GenericOauthTokenVerifier :=
  verifier none none ⟨none, false, none, none, none, none, some userinfoUri⟩

theorem configured_alone : Configured .ok ⟨[userInfo], none, none, none⟩ alone (initial false) :=
  configured rfl none none

def userClaims : AuthClaims :=
  ⟨none, some "u", none, some 100, none, none, none, none, none⟩

def keyCrate : JwtCrate Unit where
  decodeHeader _ := .ok ⟨.rs256, some "k"⟩
  fromJwk _ := .ok ()
  checkSignature _ _ _ := .ok ()
  claims _ := .ok userClaims
  checkRequired validation claims :=
    if expClaim ∈ validation.requiredSpecClaims ∧ claims.expiration = none then
      .error (.missingRequiredClaim expClaim)
    else .ok ()
  checkExpiration _ claims nowSecs :=
    if claims.expiration.any (fun exp => exp.toInt < (nowSecs : Int)) then .error .expiredSignature
    else .ok ()
  checkIssuer validation claims :=
    match claims.issuer, validation.iss with
    | some issuer, some correct => if issuer ∈ correct then .ok () else .error .invalidIssuer
    | _, _ => .ok ()
  checkAudience validation claims :=
    match validation.validateAud, claims.audience, validation.aud with
    | true, some audience, some correct =>
      if ∃ value ∈ audience.toVec, value ∈ correct then .ok () else .error .invalidAudience
    | _, _, _ => .ok ()

theorem keyCrate_lawful : keyCrate.Lawful where
  required := by
    intro validation claims hok hrequired
    by_contra hnone
    rw [Bool.not_eq_true, Option.isSome_eq_false_iff, Option.isNone_iff_eq_none] at hnone
    simp [keyCrate, hrequired, hnone] at hok
  issuer := by
    intro validation claims issuer correct hissuer hcorrect
    simp [keyCrate, hissuer, hcorrect]
  audience := by
    intro validation claims audience correct hvalidate haudience hcorrect
    simp [keyCrate, hvalidate, haudience, hcorrect]

def clock : Clock := ⟨0, 0, 0, 0, 0, 0⟩

def token : Str := "t"

def userRemote (body : Option Str) : Remote Unit Str where
  introspect _ := .failed []
  userInfo _ _ := .answered 200 none (.ok body)
  fetchJwks _ := .ok [⟨some "k", ()⟩]

end TokenVerifierWitness

end TokenVerifier

end McpSdk
