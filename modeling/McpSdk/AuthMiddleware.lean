/-
The authentication middleware: the bearer token of a request is verified by the
provider, and its expiry and scopes are checked.
-/
import McpSdk.StandaloneStream

namespace McpSdk

universe u

variable {γ : Type u}

/-- A validated access token, with what else the provider says about it. -/
structure AuthInfo (γ : Type u) where
  tokenUniqueId : Str
  scopes : Option (List Str)
  expiresAt : Option Nat
  claims : γ
deriving Repr, DecidableEq

inductive AuthenticationError where
  | noIntrospectionEndpoint
  | jwks (text : Str)
  | invalidToken (description : Str)
  | inactiveToken
  | audiencesAttributeMissing
  | insufficientScope
  | audienceNotAllowed (expected received : Str)
  | invalidOrExpiredToken (text : Str)
  | tokenVerificationFailed (description : Str) (statusCode : Option Nat)
  | serverError (description : Str)
  | parsingError (text : Str)
  | notFound (text : Str)
deriving Repr, DecidableEq

/-- How the provider answers, and the scopes that it requires. -/
structure AuthProvider (γ : Type u) where
  verifyToken : Str → Except AuthenticationError (AuthInfo γ)
  requiredScopes : Option (List Str)

namespace AuthMiddleware

def authorizationHeader : Str := "authorization"

def bearerToken (headers : HeaderMap) : Except AuthenticationError Str :=
  match headers.get authorizationHeader with
  | none =>
    .error (.invalidToken "Missing access token in Authorization header")
  | some authToken =>
    match RustStr.splitOnce ' ' (RustStr.trim (authToken.getD [])) with
    | some (scheme, token) =>
      if RustStr.eqIgnoreAsciiCase scheme "bearer" then
        .ok (RustStr.trim token)
      else
        .error (.invalidToken ("Invalid Authorization header format, " ++
          "expected 'Bearer TOKEN'").toList)
    | none =>
      .error (.invalidToken ("Invalid Authorization header format, " ++
        "expected 'Bearer TOKEN'").toList)

def checkExpiry (authInfo : AuthInfo γ) (now : Nat) : Except AuthenticationError Unit :=
  match authInfo.expiresAt with
  | some expiresAt =>
    if now ≥ expiresAt then
      .error (.invalidToken "Token has expired")
    else .ok ()
  | none => .error (.invalidToken "Token has no expiration time")

def checkScopes (provider : AuthProvider γ) (authInfo : AuthInfo γ) :
    Except AuthenticationError Unit :=
  match provider.requiredScopes with
  | some requiredScopes =>
    match authInfo.scopes with
    | some userScopes =>
      if requiredScopes.all fun scope => userScopes.contains scope then
        .ok ()
      else .error .insufficientScope
    | none => .ok ()
  | none => .ok ()

def validate (provider : AuthProvider γ) (now : Nat) (headers : HeaderMap) :
    Except AuthenticationError (AuthInfo γ) :=
  match bearerToken headers with
  | .error error => .error error
  | .ok token =>
    match provider.verifyToken token with
    | .error error => .error error
    | .ok authInfo =>
      match checkExpiry authInfo now with
      | .error error => .error error
      | .ok () =>
        match checkScopes provider authInfo with
        | .error error => .error error
        | .ok () => .ok authInfo

/-- The status of the refusal, as long as its `WWW-Authenticate` text can be sent. -/
def errorStatus : AuthenticationError → Nat
  | .inactiveToken => 401
  | .invalidToken _ => 401
  | .insufficientScope => 403
  | .tokenVerificationFailed _ (some status) =>
    if 100 ≤ status ∧ status < 1000 then status else 400
  | _ => 400

def Unexpired (authInfo : AuthInfo γ) (now : Nat) : Prop :=
  ∃ expiresAt, authInfo.expiresAt = some expiresAt ∧ now < expiresAt

/-- The token was verified, expires in the future and has the required scopes. -/
def Enforced (provider : AuthProvider γ) (now : Nat) (headers : HeaderMap)
    (authInfo : AuthInfo γ) : Prop :=
  (∃ token, bearerToken headers = .ok token ∧ provider.verifyToken token = .ok authInfo) ∧
    Unexpired authInfo now ∧
    ∀ scope ∈ provider.requiredScopes.getD [], scope ∈ authInfo.scopes.getD []

variable {authInfo : AuthInfo γ}

theorem checkExpiry_ok_iff {now : Nat} :
    checkExpiry authInfo now = .ok () ↔ Unexpired authInfo now := by
  unfold checkExpiry Unexpired
  cases authInfo.expiresAt with
  | none => simp only [reduceCtorEq, false_and, exists_false]
  | some expiresAt =>
    simp only [Option.some.injEq, exists_eq_left']
    split
    · next hlate => simp only [reduceCtorEq, Nat.not_lt.mpr hlate]
    · next hearly => simp only [Nat.lt_of_not_ge hearly]

theorem checkScopes_ok_iff {provider : AuthProvider γ} :
    checkScopes provider authInfo = .ok () ↔
      authInfo.scopes = none ∨ ∀ scope ∈ provider.requiredScopes.getD [],
        scope ∈ authInfo.scopes.getD [] := by
  unfold checkScopes
  cases provider.requiredScopes with
  | none => simp
  | some requiredScopes =>
    cases authInfo.scopes with
    | none => simp
    | some userScopes => simp

theorem validate_ok_iff {provider : AuthProvider γ} {now : Nat} {headers : HeaderMap} :
    validate provider now headers = .ok authInfo ↔
      (∃ token, bearerToken headers = .ok token ∧ provider.verifyToken token = .ok authInfo) ∧
        Unexpired authInfo now ∧
        (authInfo.scopes = none ∨ ∀ scope ∈ provider.requiredScopes.getD [],
          scope ∈ authInfo.scopes.getD []) := by
  rw [← checkExpiry_ok_iff, ← checkScopes_ok_iff]
  unfold validate
  cases htoken : bearerToken headers with
  | error error => simp
  | ok token =>
    cases hverified : provider.verifyToken token with
    | error error => simp [hverified]
    | ok verified =>
      simp only [Except.ok.injEq, exists_eq_left', hverified]
      constructor
      · intro hvalid
        cases hexpiry : checkExpiry verified now with
        | error error =>
          rw [hexpiry] at hvalid
          cases hvalid
        | ok _ =>
          cases hscopes : checkScopes provider verified with
          | error error =>
            rw [hexpiry, hscopes] at hvalid
            cases hvalid
          | ok _ =>
            rw [hexpiry, hscopes] at hvalid
            cases hvalid
            exact ⟨rfl, hexpiry, hscopes⟩
      · rintro ⟨rfl, hexpiry, hscopes⟩
        rw [hexpiry, hscopes]

variable {error : AuthenticationError}

theorem checkScopes_errorStatus {provider : AuthProvider γ}
    (herror : checkScopes provider authInfo = .error error) : errorStatus error = 403 := by
  unfold checkScopes at herror
  split at herror
  · split at herror
    · split at herror
      · cases herror
      · cases herror
        rfl
    · cases herror
  · cases herror

/-- For every provider and request: what is validated is verified, unexpired and
in scope, exactly when no verified unexpired token comes without scopes where
some are required. -/
theorem validate_enforced_iff (provider : AuthProvider γ) (now : Nat) (headers : HeaderMap) :
    (∀ authInfo, validate provider now headers = .ok authInfo →
        Enforced provider now headers authInfo) ↔
      ∀ token authInfo, bearerToken headers = .ok token →
        provider.verifyToken token = .ok authInfo →
        Unexpired authInfo now → authInfo.scopes = none → provider.requiredScopes.getD [] = [] := by
  constructor
  · intro henforced token authInfo htoken hverified hexpiry hnone
    have hvalid := validate_ok_iff.mpr ⟨⟨token, htoken, hverified⟩, hexpiry, .inl hnone⟩
    obtain ⟨-, -, hscopes⟩ := henforced authInfo hvalid
    rw [hnone] at hscopes
    exact List.eq_nil_iff_forall_not_mem.mpr fun scope hmem =>
      List.not_mem_nil (hscopes scope hmem)
  · intro hscoped authInfo hvalid
    obtain ⟨⟨token, htoken, hverified⟩, hexpiry, hscopes⟩ := validate_ok_iff.mp hvalid
    refine ⟨⟨token, htoken, hverified⟩, hexpiry, ?_⟩
    rcases hscopes with hnone | hscopes
    · rw [hscoped token authInfo htoken hverified hexpiry hnone]
      exact List.forall_mem_nil _
    · exact hscopes

namespace AuthMiddlewareWitness

/-- A provider that requires `write` and verifies one token. -/
def provider (scopes : Option (List Str)) : AuthProvider Unit where
  verifyToken token :=
    if token = "t" then .ok ⟨"t", scopes, some 100, ()⟩
    else .error .inactiveToken
  requiredScopes := some ["write"]

def headers : HeaderMap :=
  ⟨[(authorizationHeader, some "Bearer t")]⟩

example : validate (provider (some ["read"])) 50 headers =
    .error .insufficientScope := by
  decide

theorem validate_without_scopes :
    validate (provider none) 50 headers = .ok ⟨"t", none, some 100, ()⟩ ∧
      ¬ ∀ authInfo, validate (provider none) 50 headers = .ok authInfo →
        Enforced (provider none) 50 headers authInfo := by
  have hvalid : validate (provider none) 50 headers = .ok ⟨"t", none, some 100, ()⟩ := by decide
  refine ⟨hvalid, fun henforced => ?_⟩
  obtain ⟨-, -, hscopes⟩ := henforced _ hvalid
  exact List.not_mem_nil (hscopes "write" (by decide))

end AuthMiddlewareWitness

end AuthMiddleware

end McpSdk
