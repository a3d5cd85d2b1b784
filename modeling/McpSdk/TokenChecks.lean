/-
The issuer and the audience of a token, which the introspection path checks
itself and the key set path leaves to the `jsonwebtoken` crate.
-/
import McpSdk.TokenVerifier

namespace McpSdk

universe u

variable {κ : Type u}

namespace TokenVerifier

open JsonWebKeySet (Algorithm JwtCrate validation)

variable {crate : JwtCrate κ}

/-- The options that the verifier gives to the crate. -/
def GenericOauthTokenVerifier.validation (self : GenericOauthTokenVerifier)
    (algorithm : Algorithm) : JsonWebKeySet.Validation :=
  JsonWebKeySet.validation algorithm self.validateAudience self.validateIssuer

theorem checkIssuer_eq_ok_iff {verifier : GenericOauthTokenVerifier} {expected : Str}
    (hexpected : verifier.validateIssuer = some expected) {response : IntrospectionResponse} :
    checkIssuer verifier response = .ok () ↔ response.issuer = some expected := by
  unfold checkIssuer
  rw [hexpected]
  cases response.issuer with
  | none => simp
  | some issuer => simp

theorem validation_checkIssuer_eq_ok_iff (hcrate : crate.Lawful) {verifier : GenericOauthTokenVerifier}
    {expected issuer : Str} (hexpected : verifier.validateIssuer = some expected)
    {claims : AuthClaims} (hissuer : claims.issuer = some issuer) (algorithm : Algorithm) :
    crate.checkIssuer (verifier.validation algorithm) claims = .ok () ↔ issuer = expected := by
  have hiss : (verifier.validation algorithm).iss = some [expected] := by
    simp [GenericOauthTokenVerifier.validation, JsonWebKeySet.validation, hexpected]
  rw [hcrate.issuer hissuer hiss, List.mem_singleton]

/-- For every configured issuer: what comes from it passes both paths exactly
when it does not end in a slash. -/
theorem issuer_accepted_iff (hcrate : crate.Lawful) {parseUrl : Str → Except Str Str} {options : TokenVerifierOptions}
    {verifier : GenericOauthTokenVerifier} {initial : State κ} {issuer : Str}
    (hconfigured : Configured parseUrl options verifier initial)
    (hissuer : options.validateIssuer = some issuer) :
    ((∀ response : IntrospectionResponse, response.issuer = some issuer →
          checkIssuer verifier response = .ok ()) ∧ ∀ (algorithm : Algorithm) (claims : AuthClaims),
          claims.issuer = some issuer →
            crate.checkIssuer (verifier.validation algorithm) claims = .ok ()) ↔
      issuer.getLast? ≠ some '/' := by
  have hexpected : verifier.validateIssuer =
      some (RustStr.trimEndMatches '/' issuer) := by
    rw [hconfigured.spec.issuer, hissuer, Option.map_some]
  rw [← RustStr.trimEndMatches_eq_self_iff]
  constructor
  · rintro ⟨hintrospected, -⟩
    have hresponse := hintrospected ⟨true, none, none, none, none, none, some issuer, none⟩ rfl
    rw [checkIssuer_eq_ok_iff hexpected, Option.some.injEq] at hresponse
    exact hresponse.symm
  · intro htrimmed
    rw [htrimmed] at hexpected
    refine ⟨?_, ?_⟩
    · intro response hresponse
      exact (checkIssuer_eq_ok_iff hexpected).mpr hresponse
    · intro algorithm claims hclaims
      exact (validation_checkIssuer_eq_ok_iff hcrate hexpected hclaims algorithm).mpr rfl

/-- Both paths accept an audience exactly when it shares an element. -/
structure AudienceAgrees (crate : JwtCrate κ) (verifier : GenericOauthTokenVerifier)
    (algorithm : Algorithm) (expected audience : Audience)
    (response : IntrospectionResponse) (claims : AuthClaims) : Prop where
  same : checkAudience verifier response = .ok () ↔
    crate.checkAudience (verifier.validation algorithm) claims = .ok ()
  introspected : checkAudience verifier response = .ok () ↔ expected.Shares audience
  decoded : crate.checkAudience (verifier.validation algorithm) claims = .ok () ↔
    expected.Shares audience

theorem checkAudience_eq_ok_iff {verifier : GenericOauthTokenVerifier}
    {expected audience : Audience} (hexpected : verifier.validateAudience = some expected)
    {response : IntrospectionResponse} (hresponse : response.audience = some audience) :
    checkAudience verifier response = .ok () ↔ audience.toVec = expected.toVec := by
  unfold checkAudience Audience.eq
  rw [hexpected, hresponse]
  simp

theorem validation_checkAudience_eq_ok_iff (hcrate : crate.Lawful) {verifier : GenericOauthTokenVerifier}
    {expected audience : Audience} (hexpected : verifier.validateAudience = some expected)
    {claims : AuthClaims} (hclaims : claims.audience = some audience) (algorithm : Algorithm) :
    crate.checkAudience (verifier.validation algorithm) claims = .ok () ↔
      expected.Shares audience := by
  have hshares : expected.Shares audience ↔
      ∃ value ∈ audience.toVec, value ∈ expected.toVec := by
    unfold Audience.Shares
    simp only [and_comm]
  rw [hshares]
  refine hcrate.audience ?_ hclaims ?_
  · simp [GenericOauthTokenVerifier.validation, JsonWebKeySet.validation, hexpected]
  · simp [GenericOauthTokenVerifier.validation, JsonWebKeySet.validation, hexpected]

/-- For every configured audience and token: both paths accept exactly what is
shared, if and only if the two are the same list, not empty, or differ and share
nothing. -/
theorem audienceAgrees_iff (hcrate : crate.Lawful) {parseUrl : Str → Except Str Str} {options : TokenVerifierOptions}
    {verifier : GenericOauthTokenVerifier} {initial : State κ} {expected audience : Audience}
    (hconfigured : Configured parseUrl options verifier initial)
    (hexpected : options.validateAudience = some expected) {response : IntrospectionResponse}
    {claims : AuthClaims} (hresponse : response.audience = some audience)
    (hclaims : claims.audience = some audience) (algorithm : Algorithm) :
    AudienceAgrees crate verifier algorithm expected audience response claims ↔
      (audience.toVec = expected.toVec ∧ expected.toVec ≠ []) ∨ audience.toVec ≠ expected.toVec ∧
          ¬ expected.Shares audience := by
  have hverifier : verifier.validateAudience = some expected :=
    hconfigured.spec.audience.trans hexpected
  have hdecoded := validation_checkAudience_eq_ok_iff hcrate hverifier hclaims algorithm
  have hintrospected := checkAudience_eq_ok_iff hverifier hresponse
  constructor
  · intro hagrees
    have hiff := hintrospected.symm.trans hagrees.introspected
    by_cases hsame : audience.toVec = expected.toVec
    · exact Or.inl ⟨hsame, (Audience.shares_iff_of_toVec_eq hsame).mp (hiff.mp hsame)⟩
    · exact Or.inr ⟨hsame, fun hshares => hsame (hiff.mpr hshares)⟩
  · intro hcondition
    have hiff : audience.toVec = expected.toVec ↔
        expected.Shares audience := by
      rcases hcondition with ⟨hsame, hne⟩ | ⟨hne, hnone⟩
      · exact iff_of_true hsame ((Audience.shares_iff_of_toVec_eq hsame).mpr hne)
      · exact iff_of_false hne hnone
    exact ⟨(hintrospected.trans hiff).trans hdecoded.symm, hintrospected.trans hiff, hdecoded⟩

namespace TokenChecksWitness

open TokenVerifierWitness

def strategyOptions : StrategiesOptions :=
  ⟨some "https://a/introspect", true, none, some "c", some "s", some jwksUri, none⟩

theorem configured_both (validateAudience : Option Audience) (validateIssuer : Option Str) :
    Configured .ok ⟨[jwks, introspection], validateAudience, validateIssuer,
        none⟩ (verifier validateAudience validateIssuer strategyOptions) (initial true) :=
  configured rfl validateAudience validateIssuer

def response (audience : Option Audience) (issuer : Option Str) : IntrospectionResponse :=
  ⟨true, none, none, none, none, audience, issuer, none⟩

def claims (audience : Option Audience) (issuer : Option Str) : AuthClaims :=
  ⟨issuer, none, audience, none, none, none, none, none, none⟩

def issuer : Str := "https://a"

theorem issuer_accepted_plain :
    Configured .ok ⟨[jwks, introspection], none, some issuer, none⟩
        (verifier none (some issuer) strategyOptions) (initial true) ∧
      (∀ response : IntrospectionResponse, response.issuer = some issuer →
          checkIssuer (verifier none (some issuer) strategyOptions) response = .ok ()) ∧
        ∀ (algorithm : Algorithm) (claims : AuthClaims), claims.issuer = some issuer →
            keyCrate.checkIssuer ((verifier none (some issuer) strategyOptions).validation
              algorithm) claims = .ok () :=
  ⟨configured_both none (some issuer),
    (issuer_accepted_iff keyCrate_lawful (configured_both none (some issuer)) rfl).mpr (by decide)⟩

def slashed : Str := "https://a/"

/-- The configured issuer is refused by both paths. -/
theorem issuer_refused_slashed :
    Configured .ok ⟨[jwks, introspection], none, some slashed, none⟩
        (verifier none (some slashed) strategyOptions) (initial true) ∧
      checkIssuer (verifier none (some slashed) strategyOptions)
          (response none (some slashed)) =
        .error (.tokenVerificationFailed
          ("Issuer is not allowed. Expected $https://a, " ++
            "got: $https://a/").toList (some 401)) ∧
      keyCrate.checkIssuer ((verifier none (some slashed) strategyOptions).validation
          .rs256) (claims none (some slashed)) =
        .error .invalidIssuer :=
  ⟨configured_both none (some slashed), by decide +kernel, by decide +kernel⟩

def audienceA : Audience := .single "a"

def audienceAB : Audience := .multiple ["a", "b"]

theorem audienceAgrees_single :
    Configured .ok ⟨[jwks, introspection], some audienceA, none, none⟩
        (verifier (some audienceA) none strategyOptions) (initial true) ∧
      AudienceAgrees keyCrate (verifier (some audienceA) none strategyOptions) .rs256 audienceA audienceA (response (some audienceA) none)
        (claims (some audienceA) none) :=
  ⟨configured_both (some audienceA) none,
    (audienceAgrees_iff keyCrate_lawful (configured_both (some audienceA) none) rfl rfl rfl
      .rs256).mpr (Or.inl ⟨rfl, by decide⟩)⟩

/-- One of two audiences is expected: that passes with the key set only. -/
theorem not_audienceAgrees_multiple :
    Configured .ok ⟨[jwks, introspection], some audienceA, none, none⟩
        (verifier (some audienceA) none strategyOptions) (initial true) ∧
      checkAudience (verifier (some audienceA) none strategyOptions)
          (response (some audienceAB) none) =
        .error (.tokenVerificationFailed
          ("None of the provided audiences are allowed. " ++
            "Expected $a, got: $a, b").toList (some 401)) ∧
      keyCrate.checkAudience ((verifier (some audienceA) none strategyOptions).validation
          .rs256) (claims (some audienceAB) none) = .ok () ∧
      audienceA.Shares audienceAB :=
  ⟨configured_both (some audienceA) none, by decide +kernel, by decide +kernel, by decide⟩

end TokenChecksWitness

end TokenVerifier

end McpSdk
