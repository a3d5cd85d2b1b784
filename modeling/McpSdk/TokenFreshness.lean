/-
A token that a key set has verified is checked remotely once in a while. In
between, `verify_token` returns what its claims say.
-/
import McpSdk.TokenVerifier

namespace McpSdk

open Option

universe u v

variable {κ : Type u} {ε : Type v}

namespace TokenVerifier

open JsonWebKeySet (JwtCrate)

/-- An introspection response says the same as the claims of the token. -/
structure SameInfo (token : Str) (claims : AuthClaims)
    (response : IntrospectionResponse) : Prop where
  jwtId : response.jwtId.getD token = claims.jwtId.getD token
  clientId : response.clientId = claims.authorizedParty.or (claims.clientId.or claims.applicationId)
  subject : response.subject = claims.subject
  scope : splitScopes response.scope = splitScopes claims.scope
  expiration : expiryOf response.expiration = expiryOf claims.expiration
  audience : response.audience = claims.audience

/-- The remote answer is what the claims say, or a userinfo that is no object. -/
def RemoteAgrees (remote : Remote κ ε) (verifier : GenericOauthTokenVerifier)
    (token : Str) (claims : AuthClaims) : Prop :=
  match verifier.introspectionUri with
  | some endpoint =>
    ∃ response, Introspected remote verifier token endpoint response ∧
      SameInfo token claims response
  | none =>
    ∃ endpoint status message, verifier.userinfoUri = some endpoint ∧
      remote.userInfo endpoint token = .answered status message (.ok none) ∧
      isSuccess status = true

theorem fromIntrospectionResponse_eq_iff {token : Str} {claims : AuthClaims}
    {authInfo : AuthInfo (TokenClaims ε)}
    (hinfo : AuthInfo.fromTokenData token claims none = some authInfo)
    (response : IntrospectionResponse) :
    AuthInfo.fromIntrospectionResponse token response none = some authInfo ↔
      SameInfo token claims response := by
  obtain ⟨expiry, hexpiry, rfl⟩ := map_eq_some_iff.mp hinfo
  unfold AuthInfo.fromIntrospectionResponse
  rw [map_eq_some_iff]
  constructor
  · rintro ⟨other, hother, heq⟩
    simp only [AuthInfo.mk.injEq, TokenClaims.mk.injEq] at heq
    obtain ⟨hid, hscopes, rfl, hclient, huser, haudience, -⟩ := heq
    exact ⟨hid, hclient, huser, hscopes, hother.trans hexpiry.symm, haudience⟩
  · rintro ⟨hid, hclient, huser, hscopes, hsame, haudience⟩
    refine ⟨expiry, hsame.trans hexpiry, ?_⟩
    rw [hid, hclient, huser, hscopes, haudience]

theorem verifyRemote_eq_iff {crate : JwtCrate κ} {remote : Remote κ ε}
    {verifier : GenericOauthTokenVerifier} {token : Str} {claims : AuthClaims}
    {authInfo : AuthInfo (TokenClaims ε)}
    (hinfo : AuthInfo.fromTokenData token claims none = some authInfo)
    (hother : verifier.introspectionUri.isSome = true ∨ verifier.userinfoUri.isSome = true) :
    (verifyRemote crate remote verifier token authInfo).getD
        (some (.ok authInfo)) = some (.ok authInfo) ↔
      RemoteAgrees remote verifier token claims := by
  unfold verifyRemote RemoteAgrees
  cases hintrospection : verifier.introspectionUri with
  | some endpoint =>
    -- the response takes the place of the claims
    simp only [getD_some]
    rw [verifyIntrospection_eq_ok_iff]
    simp only [fromIntrospectionResponse_eq_iff hinfo]
  | none =>
    obtain ⟨endpoint, hendpoint⟩ := isSome_iff_exists.mp
      (hother.resolve_left (by simp [hintrospection]))
    have hextra : authInfo.claims.extra = none := by
      obtain ⟨expiry, -, rfl⟩ := map_eq_some_iff.mp hinfo
      rfl
    -- the claims stay, and the object is added to them
    rw [hendpoint, map_some, getD_some]
    constructor
    · intro hsame
      obtain ⟨answer, hanswer, hmap⟩ := map_eq_some_iff.mp hsame
      cases answer with
      | error error => cases hmap
      | ok fresh =>
        obtain ⟨id, extra, status, message, -, hreply, hsuccess, rfl⟩ :=
          verifyUserInfo_eq_ok_iff.mp hanswer
        have hnone := congrArg (fun info => info.claims.extra) (Except.ok.inj hmap)
        simp only [userAuthInfo, hextra] at hnone
        subst hnone
        exact ⟨endpoint, status, message, rfl, hreply, hsuccess⟩
    · rintro ⟨other, status, message, hsame, hreply, hsuccess⟩
      cases hsame
      rw [verifyUserInfo_of_answered hreply hsuccess, map_some, Except.map, userAuthInfo, ← hextra]

/-- For every verifier with a key set and another endpoint, and answers that do
not change: a call returns the same after a remote check and without it, exactly
when the remote answer agrees with the claims. -/
theorem verifyToken_fresh_eq_recent_iff {parseUrl : Str → Except Str Str}
    {options : TokenVerifierOptions} {verifier : GenericOauthTokenVerifier} {initial : State κ}
    (hconfigured : Configured parseUrl options verifier initial) {jwksUri : Str}
    (hjwks : verifier.jwksUri = some jwksUri)
    (hother : verifier.introspectionUri.isSome = true ∨ verifier.userinfoUri.isSome = true)
    {crate : JwtCrate κ} {remote : Remote κ ε} {token : Str} {claims : AuthClaims}
    (hclaims : crate.claims token = .ok claims) {before after : List (Call κ ε)}
    {stale recent : State κ} (hstale : Lts.run (step crate verifier) initial before = some stale)
    (hrecent : Lts.run (step crate verifier) initial after = some recent) {clock later : Clock}
    {checked skipped : AuthInfo (TokenClaims ε)}
    (hchecked : (verifyJwks crate remote clock verifier stale token jwksUri).1 = some (.ok checked))
    (hperformed : stale.isRecent clock checked = false)
    (hskipped : (verifyJwks crate remote later verifier recent token jwksUri).1 =
      some (.ok skipped)) (hknown : recent.isRecent later skipped = true) :
    (verifyToken crate remote clock verifier stale token).1 =
        (verifyToken crate remote later verifier recent token).1 ↔
      RemoteAgrees remote verifier token claims := by
  have hdata := fromTokenData_of_verifyJwks hclaims hchecked
  have hsame : checked = skipped :=
    Option.some.inj (hdata.symm.trans (fromTokenData_of_verifyJwks hclaims hskipped))
  subst hsame
  rw [verifyToken_of_verifyJwks hjwks hchecked (hconfigured.spec.fits.run hstale),
    verifyToken_of_verifyJwks hjwks hskipped
      (hconfigured.spec.fits.run hrecent), hperformed, hknown, if_pos rfl,
    if_neg Bool.false_ne_true]
  exact verifyRemote_eq_iff hdata hother

namespace TokenFreshnessWitness

open TokenVerifierWitness

def both : GenericOauthTokenVerifier :=
  verifier none none
    ⟨none, false, none, none, none, some jwksUri, some userinfoUri⟩

theorem configured_both_userInfo :
    Configured .ok ⟨[jwks, userInfo], none, none, none⟩ both (initial true) :=
  configured rfl none none

def recent (body : Option Str) : State Unit :=
  (verifyToken keyCrate (userRemote body) clock both (initial true) token).2

def known (extra : Option Str) : AuthInfo (TokenClaims Str) :=
  ⟨token, none, some (100 * nanosPerSec), ⟨none, some "u", none, extra⟩⟩

theorem verifyJwks_known {state : State Unit}
    (hstate : state = initial true ∨ state = recent none) :
    (verifyJwks keyCrate (userRemote none) clock both state token jwksUri).1 =
      some (.ok (known none)) := by
  rcases hstate with rfl | rfl
  · rfl
  · rfl

/-- A userinfo that is no object changes nothing. -/
theorem fresh_eq_recent_without_object :
    (initial true).isRecent clock (known none) = false ∧
      (recent none).isRecent clock (known none) = true ∧
      (verifyToken keyCrate (userRemote none) clock both (initial true) token).1 =
        (verifyToken keyCrate (userRemote none) clock both (recent none) token).1 := by
  have hstale : Lts.run (step keyCrate both) (initial true)
      ([] : List (Call Unit Str)) = some (initial true) := rfl
  have hrecent : Lts.run (step keyCrate both) (initial true)
      [⟨userRemote none, clock, token⟩] = some (recent none) := rfl
  refine ⟨rfl, rfl, ?_⟩
  refine (verifyToken_fresh_eq_recent_iff configured_both_userInfo rfl
    (.inr rfl) rfl hstale hrecent (verifyJwks_known (.inl rfl)) rfl
    (verifyJwks_known (.inr rfl)) rfl).mpr ?_
  exact ⟨userinfoUri, 200, none, rfl, rfl, rfl⟩

/-- The object is there after the first call and missing after the second. -/
theorem object_lost_when_recent :
    Configured .ok ⟨[jwks, userInfo], none, none, none⟩ both (initial true) ∧
      (verifyToken keyCrate (userRemote (some "o")) clock both
          (initial true) token).1 = some (.ok (known (some "o"))) ∧
      (verifyToken keyCrate (userRemote (some "o")) clock both
          (recent (some "o")) token).1 = some (.ok (known none)) ∧
      known (some "o") ≠ known none :=
  ⟨configured_both_userInfo, by decide +kernel, by decide +kernel, by decide⟩

end TokenFreshnessWitness

end TokenVerifier

end McpSdk
