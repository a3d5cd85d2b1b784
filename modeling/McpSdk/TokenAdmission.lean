/-
The middleware with a generic token verifier as its provider. A token that all
endpoints accept is admitted only if an expiry of it is known at the end.
-/
import McpSdk.TokenVerifier

namespace McpSdk

open Option AuthMiddleware

universe u v

variable {κ : Type u} {ε : Type v}

namespace TokenVerifier

open JsonWebKeySet (Jwk JwtCrate)

/-- `AuthMiddleware::validate` with the verifier as provider. -/
def validate (crate : JwtCrate κ) (remote : Remote κ ε) (clock : Clock)
    (verifier : GenericOauthTokenVerifier) (state : State κ) (requiredScopes : Option (List Str))
    (now : Nat) (headers : HeaderMap) : Verified ε :=
  match bearerToken headers with
  | .error error => some (.error error)
  | .ok token =>
    (verifyToken crate remote clock verifier state token).1.map fun answer =>
      AuthMiddleware.validate ⟨fun _ => answer, requiredScopes⟩ now headers

/-- An `exp`, if there is one, is later than now. -/
def NotExpired (exp : Option Int64) (now : Nat) : Prop :=
  ∀ v, exp = some v → (now : Int) < v.toInt * nanosPerSec

/-- The keys that are served verify the token, introspection says active, the
userinfo is given, and nobody says that it has expired. -/
structure Accepts (crate : JwtCrate κ) (remote : Remote κ ε) (clock : Clock)
    (verifier : GenericOauthTokenVerifier) (token : Str) (now : Nat) :
    Prop where
  jwks : ∀ endpoint, verifier.jwksUri = some endpoint →
    ∃ keys claims, remote.fetchJwks endpoint = .ok keys ∧
      Signed crate clock verifier token keys claims ∧
      NotExpired claims.expiration now
  introspection : ∀ endpoint, verifier.introspectionUri = some endpoint →
    ∃ response, Introspected remote verifier token endpoint response ∧
      NotExpired response.expiration now
  userInfo : ∀ endpoint, verifier.userinfoUri = some endpoint →
    ∃ status message extra, remote.userInfo endpoint token =
        .answered status message (.ok extra) ∧ isSuccess status = true

/-- The introspection endpoint tells when the token expires. -/
def TellsExpiry (remote : Remote κ ε) (verifier : GenericOauthTokenVerifier) (token : Str) : Prop :=
  ∃ endpoint response, verifier.introspectionUri = some endpoint ∧
    Introspected remote verifier token endpoint response ∧
    response.expiration.isSome = true

/-- An expiry is known: that of the claims, if the keys in use verify the token
and no introspection takes its place, or that of the introspection. -/
def Admits (crate : JwtCrate κ) (remote : Remote κ ε) (clock : Clock)
    (verifier : GenericOauthTokenVerifier) (state : State κ) (token : Str) : Prop :=
  match verifier.jwksUri with
  | some endpoint =>
    ∃ keys claims, keysFor remote clock state endpoint = .ok keys ∧
      Signed crate clock verifier token keys claims ∧
      (verifier.introspectionUri = none ∨
        (state.jwtCache.any fun cache =>
          cache.isRecent (claims.jwtId.getD token) clock.recent) = true ∨
        TellsExpiry remote verifier token)
  | none => TellsExpiry remote verifier token

section Admission

variable {crate : JwtCrate κ} {remote : Remote κ ε} {clock : Clock}
  {verifier : GenericOauthTokenVerifier} {state : State κ} {token : Str}
  {authInfo : AuthInfo (TokenClaims ε)} {now : Nat}

theorem validate_eq_ok_iff {requiredScopes : Option (List Str)} {headers : HeaderMap}
    (hscopes : requiredScopes.getD [] = []) (hbearer : bearerToken headers = .ok token) :
    validate crate remote clock verifier state requiredScopes now headers = some (.ok authInfo) ↔
      (verifyToken crate remote clock verifier state token).1 =
          some (.ok authInfo) ∧ Unexpired authInfo now := by
  unfold validate
  rw [hbearer]
  simp only [map_eq_some_iff, validate_ok_iff, hscopes]
  constructor
  · rintro ⟨answer, hanswer, ⟨_, -, rfl⟩, hexpiry, -⟩
    exact ⟨hanswer, hexpiry⟩
  · rintro ⟨hanswer, hexpiry⟩
    exact ⟨.ok authInfo, hanswer, ⟨token, hbearer, rfl⟩, hexpiry, .inr (List.forall_mem_nil _)⟩

theorem NotExpired.expiryOf {exp : Option Int64} (hexp : NotExpired exp now) :
    ∃ expiry, expiryOf exp = some expiry ∧
      ((∃ expiresAt, expiry = some expiresAt ∧ now < expiresAt) ↔ exp.isSome = true) := by
  cases exp with
  | none => exact ⟨none, rfl, by simp⟩
  | some v =>
    have hlater := hexp v rfl
    have hnonneg : 0 ≤ v.toInt := by
      unfold nanosPerSec at hlater
      omega
    refine ⟨_, expiryOf_of_nonneg hnonneg, ?_⟩
    simp only [some.injEq, exists_eq_left', isSome_some, iff_true]
    unfold nanosPerSec at hlater ⊢
    omega

theorem NotExpired.fromTokenData {claims : AuthClaims}
    (hexp : NotExpired claims.expiration now) (token : Str) :
    ∃ authInfo : AuthInfo (TokenClaims ε),
      AuthInfo.fromTokenData token claims none = some authInfo ∧ (Unexpired authInfo now ↔
          claims.expiration.isSome = true) := by
  obtain ⟨expiry, hexpiry, hlater⟩ := hexp.expiryOf
  unfold AuthInfo.fromTokenData
  rw [hexpiry]
  exact ⟨_, rfl, hlater⟩

theorem NotExpired.fromIntrospectionResponse {response : IntrospectionResponse}
    (hexp : NotExpired response.expiration now) (token : Str) :
    ∃ authInfo : AuthInfo (TokenClaims ε),
      AuthInfo.fromIntrospectionResponse token response none = some authInfo ∧
        (Unexpired authInfo now ↔ response.expiration.isSome = true) := by
  obtain ⟨expiry, hexpiry, hlater⟩ := hexp.expiryOf
  unfold AuthInfo.fromIntrospectionResponse
  rw [hexpiry]
  exact ⟨_, rfl, hlater⟩

/-- A verification gives a token that has not expired. -/
def Passes (answer : Verified ε) (now : Nat) : Prop :=
  ∃ authInfo, answer = some (.ok authInfo) ∧ Unexpired authInfo now

theorem Introspected.unique {endpoint : Str} {response other : IntrospectionResponse}
    (hresponse : Introspected remote verifier token endpoint response)
    (hother : Introspected remote verifier token endpoint other) : response = other := by
  obtain ⟨status, message, hreply, -⟩ := hresponse.answered
  obtain ⟨_, _, hsame, -⟩ := hother.answered
  cases hreply.symm.trans hsame
  rfl

theorem State.isRecent_of_fromTokenData {claims : AuthClaims}
    (hinfo : AuthInfo.fromTokenData token claims none = some authInfo)
    (state : State κ) (clock : Clock) :
    state.isRecent clock authInfo = state.jwtCache.any fun cache =>
      cache.isRecent (claims.jwtId.getD token) clock.recent := by
  obtain ⟨expiry, -, rfl⟩ := map_eq_some_iff.mp hinfo
  rfl

section Accepted

variable (haccepts : Accepts crate remote clock verifier token now)
include haccepts

/-- An introspection that accepts the token has to tell the expiry. -/
theorem Accepts.passes_verifyIntrospection {endpoint : Str}
    (hendpoint : verifier.introspectionUri = some endpoint) :
    Passes (verifyIntrospection remote verifier token endpoint) now ↔
      TellsExpiry remote verifier token := by
  obtain ⟨response, hresponse, hexp⟩ := haccepts.introspection endpoint hendpoint
  obtain ⟨authInfo, hinfo, hunexpired⟩ := hexp.fromIntrospectionResponse token
  rw [hresponse.verifyIntrospection, hinfo]
  constructor
  · rintro ⟨_, hsame, hvalid⟩
    cases hsame
    exact ⟨endpoint, response, hendpoint, hresponse, hunexpired.mp hvalid⟩
  · rintro ⟨other, told, hother, htold, hsome⟩
    cases hendpoint.symm.trans hother
    cases hresponse.unique htold
    exact ⟨authInfo, rfl, hunexpired.mpr hsome⟩

/-- Without a key set only an introspection can tell the expiry. -/
theorem Accepts.passes_of_jwksUri_none (hjwks : verifier.jwksUri = none) :
    Passes (verifyToken crate remote clock verifier state token).1 now ↔
      TellsExpiry remote verifier token := by
  rw [verifyToken_of_jwksUri_none hjwks]
  cases hintrospection : verifier.introspectionUri with
  | some endpoint => exact haccepts.passes_verifyIntrospection hintrospection
  | none =>
    -- a userinfo has no expiry
    constructor
    · rintro ⟨authInfo, hok, expiresAt, hexpires, -⟩
      cases huserinfo : verifier.userinfoUri with
      | none =>
        rw [huserinfo] at hok
        cases hok
      | some endpoint =>
        rw [huserinfo] at hok
        obtain ⟨id, extra, status, message, -, -, -, rfl⟩ := verifyUserInfo_eq_ok_iff.mp hok
        cases hexpires
    · rintro ⟨endpoint, response, hendpoint, -⟩
      cases hintrospection.symm.trans hendpoint

/-- What any key set verifies expires, and later than now. -/
theorem Accepts.unexpired_of_signed (hcrate : crate.Lawful) (haudience : verifier.validateAudience = none)
    (hissuer : verifier.validateIssuer = none) {endpoint : Str}
    (hjwks : verifier.jwksUri = some endpoint) {keys : List (Jwk κ)} {claims : AuthClaims}
    (hsigned : Signed crate clock verifier token keys claims) :
    ∃ authInfo : AuthInfo (TokenClaims ε),
      AuthInfo.fromTokenData token claims none = some authInfo ∧ Unexpired authInfo now := by
  obtain ⟨served, read, -, hserved, hexp⟩ := haccepts.jwks endpoint hjwks
  obtain ⟨hclaims, algorithm, hrequired⟩ := JsonWebKeySet.verify_ok hsigned
  cases hclaims.symm.trans (JsonWebKeySet.verify_ok hserved).1
  rw [haudience, hissuer] at hrequired
  -- without an audience and an issuer the expiry is required
  have hexpires := hcrate.required hrequired (List.mem_singleton_self _)
  obtain ⟨authInfo, hinfo, hunexpired⟩ := hexp.fromTokenData token
  exact ⟨authInfo, hinfo, hunexpired.mpr hexpires⟩

/-- After the key set, an introspection that is made has to tell the
expiry. -/
theorem Accepts.passes_of_verifyJwks (hfits : Fits verifier state) {endpoint : Str}
    (hjwks : verifier.jwksUri = some endpoint)
    (hverified : (verifyJwks crate remote clock verifier state token endpoint).1 =
      some (.ok authInfo)) (hunexpired : Unexpired authInfo now) :
    Passes (verifyToken crate remote clock verifier state token).1 now ↔
      verifier.introspectionUri = none ∨ state.isRecent clock authInfo = true ∨
        TellsExpiry remote verifier token := by
  rw [verifyToken_of_verifyJwks hjwks hverified hfits]
  by_cases hrecent : state.isRecent clock authInfo = true
  · rw [if_pos hrecent]
    exact iff_of_true ⟨authInfo, rfl, hunexpired⟩ (.inr (.inl hrecent))
  rw [if_neg hrecent]
  unfold verifyRemote
  cases hintrospection : verifier.introspectionUri with
  | some introspectionEndpoint =>
    rw [getD_some, haccepts.passes_verifyIntrospection hintrospection]
    simp [hrecent]
  | none =>
    refine iff_of_true ?_ (.inl rfl)
    cases huserinfo : verifier.userinfoUri with
    | none => exact ⟨authInfo, rfl, hunexpired⟩
    | some userInfoEndpoint =>
      obtain ⟨status, message, extra, hreply, hsuccess⟩ :=
        haccepts.userInfo userInfoEndpoint huserinfo
      rw [map_some, verifyUserInfo_of_answered hreply hsuccess]
      exact ⟨_, rfl, hunexpired⟩

theorem Accepts.passes_iff (hcrate : crate.Lawful) (hfits : Fits verifier state)
    (haudience : verifier.validateAudience = none) (hissuer : verifier.validateIssuer = none) :
    Passes (verifyToken crate remote clock verifier state token).1 now ↔
      Admits crate remote clock verifier state token := by
  unfold Admits
  cases hjwks : verifier.jwksUri with
  | none => exact haccepts.passes_of_jwksUri_none hjwks
  | some endpoint =>
    constructor
    · rintro ⟨fresh, hok, hunexpired⟩
      obtain ⟨verified, hverified⟩ := verifyJwks_ok_of_verifyToken hjwks hok
      obtain ⟨keys, claims, hkeys, hsigned, hdata⟩ := verifyJwks_eq_ok_iff.mp hverified
      obtain ⟨authInfo, hinfo, hlater⟩ :=
        haccepts.unexpired_of_signed hcrate haudience hissuer hjwks hsigned
      cases hdata.symm.trans hinfo
      refine ⟨keys, claims, hkeys, hsigned, ?_⟩
      rw [← State.isRecent_of_fromTokenData hdata]
      exact (haccepts.passes_of_verifyJwks hfits hjwks hverified hlater).mp ⟨fresh, hok, hunexpired⟩
    · rintro ⟨keys, claims, hkeys, hsigned, hknown⟩
      obtain ⟨authInfo, hinfo, hlater⟩ :=
        haccepts.unexpired_of_signed hcrate haudience hissuer hjwks hsigned
      have hverified := verifyJwks_eq_ok_iff.mpr ⟨keys, claims, hkeys, hsigned, hinfo⟩
      rw [← State.isRecent_of_fromTokenData hinfo] at hknown
      exact (haccepts.passes_of_verifyJwks hfits hjwks hverified hlater).mpr hknown

end Accepted

end Admission

namespace TokenAdmissionWitness

open TokenVerifierWitness

def headers : HeaderMap :=
  ⟨[(authorizationHeader, some "Bearer t")]⟩

def keySet : GenericOauthTokenVerifier :=
  verifier none none ⟨none, false, none, none, none, some jwksUri, none⟩

theorem configured_keySet : Configured .ok ⟨[jwks], none, none, none⟩ keySet (initial false) :=
  configured rfl none none

theorem accepts_keySet : Accepts keyCrate (userRemote none) clock keySet token 0 where
  jwks := by
    rintro endpoint -
    refine ⟨[⟨some "k", ()⟩], userClaims, rfl, rfl, ?_⟩
    rintro v hv
    cases hv
    decide
  introspection := by
    rintro endpoint hendpoint
    cases hendpoint
  userInfo := by
    rintro endpoint hendpoint
    cases hendpoint

end TokenAdmissionWitness

end TokenVerifier

end McpSdk
