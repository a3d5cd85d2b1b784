/-
The claims of a JWT, the answer of an introspection endpoint, and the two ways
in which an `AuthInfo` is made from them. A timestamp that no `SystemTime` can
represent makes them panic.
-/
import McpSdk.AuthMiddleware

namespace McpSdk

universe u

variable {ε : Type u}

inductive Audience where
  | single (value : Str)
  | multiple (values : List Str)
deriving Repr, DecidableEq

def Audience.toVec : Audience → List Str
  | .single value => [value]
  | .multiple values => values

def Audience.display : Audience → Str
  | .single value => value
  | .multiple values => ", ".toList.intercalate values

/-- The `PartialEq` of audiences: the same strings in the same order. -/
def Audience.eq (self other : Audience) : Bool :=
  self.toVec = other.toVec

def Audience.Shares (self other : Audience) : Prop :=
  ∃ value ∈ self.toVec, value ∈ other.toVec

instance (self other : Audience) : Decidable (self.Shares other) :=
  inferInstanceAs (Decidable (∃ value ∈ self.toVec, value ∈ other.toVec))

theorem Audience.shares_iff_of_toVec_eq {left right : Audience} (heq : right.toVec = left.toVec) :
    left.Shares right ↔ left.toVec ≠ [] := by
  unfold Audience.Shares
  rw [heq]
  constructor
  · rintro ⟨value, hvalue, -⟩
    exact List.ne_nil_of_mem hvalue
  · intro hne
    obtain ⟨value, hvalue⟩ := List.exists_mem_of_ne_nil _ hne
    exact ⟨value, hvalue, hvalue⟩

/-- The claims of a token, as far as they are used. -/
structure AuthClaims where
  issuer : Option Str
  subject : Option Str
  audience : Option Audience
  expiration : Option Int64
  jwtId : Option Str
  scope : Option Str
  clientId : Option Str
  authorizedParty : Option Str
  applicationId : Option Str
deriving DecidableEq

structure IntrospectionResponse where
  active : Bool
  scope : Option Str
  clientId : Option Str
  expiration : Option Int64
  subject : Option Str
  audience : Option Audience
  issuer : Option Str
  jwtId : Option Str
deriving DecidableEq

/-- What an `AuthInfo` has besides its id, its scopes and its expiry. -/
structure TokenClaims (ε : Type u) where
  clientId : Option Str
  userId : Option Str
  audience : Option Audience
  extra : Option ε
deriving Repr, DecidableEq

def nanosPerSec : Nat := 1000000000

def maxSystemTimeSecs : Nat := 9223372036854775807

/-- `UNIX_EPOCH + Duration::from_secs`, in nanoseconds. -/
def unixTimestampToSystemtime (timestamp : Nat) : Option Nat :=
  if timestamp ≤ maxSystemTimeSecs then some (timestamp * nanosPerSec)
  else none

/-- The expiry for an `exp`, which is cast to `u64`; nothing if that panics. -/
def expiryOf : Option Int64 → Option (Option Nat)
  | none => some none
  | some v => (unixTimestampToSystemtime v.toUInt64.toNat).map some

def splitScopes (scope : Option Str) : Option (List Str) :=
  scope.map (RustStr.split [' '])

def AuthInfo.fromTokenData (token : Str) (claims : AuthClaims)
    (extra : Option ε) : Option (AuthInfo (TokenClaims ε)) :=
  (expiryOf claims.expiration).map fun expiry =>
    { tokenUniqueId := claims.jwtId.getD token
      scopes := splitScopes claims.scope
      expiresAt := expiry
      claims :=
        { clientId :=
            claims.authorizedParty.or (claims.clientId.or claims.applicationId)
          userId := claims.subject
          audience := claims.audience
          extra } }

def AuthInfo.fromIntrospectionResponse (token : Str) (data : IntrospectionResponse)
    (extra : Option ε) : Option (AuthInfo (TokenClaims ε)) :=
  (expiryOf data.expiration).map fun expiry =>
    { tokenUniqueId := data.jwtId.getD token
      scopes := splitScopes data.scope
      expiresAt := expiry
      claims :=
        { clientId := data.clientId
          userId := data.subject
          audience := data.audience
          extra } }

theorem expiryOf_of_nonneg {v : Int64} (hv : 0 ≤ v.toInt) :
    expiryOf (some v) = some (some (v.toInt.toNat * nanosPerSec)) := by
  have hcast : v.toUInt64.toNat = v.toInt.toNat :=
    Int64.toNat_toUInt64_of_le (Int64.le_iff_toInt_le.mpr hv)
  have hlt : v.toInt < 9223372036854775808 := Int64.toInt_lt v
  have hle : v.toInt.toNat ≤ maxSystemTimeSecs := by
    unfold maxSystemTimeSecs
    omega
  rw [expiryOf, hcast, unixTimestampToSystemtime, if_pos hle]
  rfl

theorem expiryOf_of_neg {v : Int64} (hv : v.toInt < 0) : expiryOf (some v) = none := by
  have hcast : v.toInt = if 2 * v.toUInt64.toNat < 18446744073709551616 then
      (v.toUInt64.toNat : Int) else v.toUInt64.toNat - 18446744073709551616 :=
    BitVec.toInt_eq_toNat_cond v.toBitVec
  have hlarge : ¬ v.toUInt64.toNat ≤ maxSystemTimeSecs := by
    unfold maxSystemTimeSecs
    split at hcast
    · omega
    · omega
  rw [expiryOf, unixTimestampToSystemtime, if_neg hlarge]
  rfl

section Expiry

open AuthMiddleware (bearerToken validate checkExpiry)

variable {γ : Type u}

def tokenHasExpired : AuthenticationError :=
  .invalidToken "Token has expired"

/-- Whoever verifies the token, it is refused as expired exactly from that
second on. -/
def AuthInfo.ExpiresAt (authInfo : AuthInfo γ) (secs : Int) : Prop :=
  ∀ (provider : AuthProvider γ) (headers : HeaderMap) (token : Str) (now : Nat),
    bearerToken headers = .ok token →
      provider.verifyToken token = .ok authInfo →
        (validate provider now headers = .error tokenHasExpired ↔ secs * nanosPerSec ≤ now)

variable {authInfo : AuthInfo γ}

theorem checkExpiry_eq_expired_iff {now : Nat} :
    checkExpiry authInfo now = .error tokenHasExpired ↔
      ∃ expiresAt, authInfo.expiresAt = some expiresAt ∧ expiresAt ≤ now := by
  unfold checkExpiry tokenHasExpired
  cases authInfo.expiresAt with
  | none => simp
  | some expiresAt =>
    by_cases hlate : now ≥ expiresAt
    · simp [hlate]
    · simp [hlate]

theorem validate_eq_expired_iff {provider : AuthProvider γ} {now : Nat} {headers : HeaderMap}
    {token : Str} (hbearer : bearerToken headers = .ok token)
    (hverified : provider.verifyToken token = .ok authInfo) :
    validate provider now headers = .error tokenHasExpired ↔
      checkExpiry authInfo now = .error tokenHasExpired := by
  unfold validate
  simp only [hbearer, hverified]
  cases checkExpiry authInfo now with
  | error error => simp
  | ok _ =>
    cases hscopes : AuthMiddleware.checkScopes provider authInfo with
    | ok _ => simp
    | error error =>
      have hforbidden := AuthMiddleware.checkScopes_errorStatus hscopes
      simp only [Except.error.injEq, reduceCtorEq, iff_false]
      rintro rfl
      cases hforbidden

theorem AuthInfo.expiresAt_of_some {secs : Nat}
    (hexpires : authInfo.expiresAt = some (secs * nanosPerSec)) : authInfo.ExpiresAt secs := by
  intro provider headers token now hbearer hverified
  rw [validate_eq_expired_iff hbearer hverified, checkExpiry_eq_expired_iff, hexpires]
  simp only [Option.some.injEq, exists_eq_left']
  norm_cast

/-- The conversion of an `exp` returns, and the token expires at that
second. -/
def Converts (converted : Option (AuthInfo γ)) (v : Int64) : Prop :=
  ∃ authInfo, converted = some authInfo ∧ authInfo.ExpiresAt v.toInt

theorem converts_map_iff {v : Int64} {make : Option Nat → AuthInfo γ}
    (hmake : ∀ expiry, (make expiry).expiresAt = expiry) :
    Converts ((expiryOf (some v)).map make) v ↔ 0 ≤ v.toInt := by
  constructor
  · rintro ⟨authInfo, hconverted, -⟩
    by_contra hneg
    rw [expiryOf_of_neg (Int.lt_of_not_ge hneg)] at hconverted
    cases hconverted
  · intro hv
    refine ⟨_, by rw [expiryOf_of_nonneg hv]; rfl, ?_⟩
    have hsecs := AuthInfo.expiresAt_of_some (hmake (some (v.toInt.toNat * nanosPerSec)))
    rwa [Int.toNat_of_nonneg hv] at hsecs

/-- For every `exp` of claims or an introspection response: it converts, and the
token expires at that second, exactly when it is not negative. -/
theorem expiration_converts_iff (token : Str) {claims : AuthClaims}
    {response : IntrospectionResponse} {v : Int64} (hclaims : claims.expiration = some v)
    (hresponse : response.expiration = some v) (extra : Option ε) :
    Converts (AuthInfo.fromTokenData token claims extra) v ∧
        Converts (AuthInfo.fromIntrospectionResponse token response extra) v ↔ 0 ≤ v.toInt := by
  unfold AuthInfo.fromTokenData AuthInfo.fromIntrospectionResponse
  rw [hclaims, hresponse, converts_map_iff fun _ => rfl, converts_map_iff fun _ => rfl, and_self]

end Expiry

namespace AccessTokenWitness

def claims (v : Int64) : AuthClaims :=
  ⟨none, none, none, some v, none, none, none, none, none⟩

def response (v : Int64) : IntrospectionResponse :=
  ⟨true, none, none, some v, none, none, none, none⟩

theorem converts_hundred :
    Converts (AuthInfo.fromTokenData "t" (claims 100) (none : Option Unit)) 100 ∧
      Converts (AuthInfo.fromIntrospectionResponse "t" (response 100) (none : Option Unit)) 100 :=
  (expiration_converts_iff "t" rfl rfl none).mpr (by decide)

/-- The second before the epoch is a panic. -/
theorem panics_minus_one :
    AuthInfo.fromTokenData "t" (claims (-1)) (none : Option Unit) = none ∧
      AuthInfo.fromIntrospectionResponse "t" (response (-1))
        (none : Option Unit) = none ∧
      ¬ Converts (AuthInfo.fromTokenData "t" (claims (-1))
        (none : Option Unit)) (-1) := by
  have hpanics : AuthInfo.fromTokenData "t" (claims (-1))
      (none : Option Unit) = none := by
    decide +kernel
  refine ⟨hpanics, by decide +kernel, ?_⟩
  rintro ⟨authInfo, hconverted, -⟩
  rw [hpanics] at hconverted
  cases hconverted

end AccessTokenWitness

end McpSdk
