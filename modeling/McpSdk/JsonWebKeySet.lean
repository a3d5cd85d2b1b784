/-
The verification of a JWT against a key set.  The `jsonwebtoken` crate reads
the header and the claims and makes the checks, with the options that the key
set gives to it.
-/
import McpSdk.AccessToken

namespace McpSdk

universe u

variable {κ : Type u}

namespace JsonWebKeySet

inductive Algorithm where
  | hs256 | hs384 | hs512
  | es256 | es384
  | rs256 | rs384 | rs512
  | ps256 | ps384 | ps512
  | edDsa
deriving Repr, DecidableEq

def Algorithm.debug : Algorithm → Str
  | .hs256 => "HS256"
  | .hs384 => "HS384"
  | .hs512 => "HS512"
  | .es256 => "ES256"
  | .es384 => "ES384"
  | .rs256 => "RS256"
  | .rs384 => "RS384"
  | .rs512 => "RS512"
  | .ps256 => "PS256"
  | .ps384 => "PS384"
  | .ps512 => "PS512"
  | .edDsa => "EdDSA"

def defaultJwksAlgorithms : List Algorithm :=
  [.rs256, .rs384, .rs512, .ps256, .ps384, .ps512, .es256, .es384, .edDsa]

structure Header where
  alg : Algorithm
  kid : Option Str
deriving Repr, DecidableEq

structure Jwk (κ : Type u) where
  keyId : Option Str
  key : κ
deriving Repr, DecidableEq

/-- The errors of the crate that are told apart, and the others by text. -/
inductive ErrorKind where
  | invalidToken
  | expiredSignature
  | invalidIssuer
  | invalidAudience
  | missingRequiredClaim (claim : Str)
  | other (text : Str)
deriving Repr, DecidableEq

def ErrorKind.text : ErrorKind → Str
  | .invalidToken => "InvalidToken"
  | .expiredSignature => "ExpiredSignature"
  | .invalidIssuer => "InvalidIssuer"
  | .invalidAudience => "InvalidAudience"
  | .missingRequiredClaim claim => "Missing required claim: " ++ claim
  | .other text => text

/-- The options of a validation. -/
structure Validation where
  algorithm : Algorithm
  requiredSpecClaims : List Str
  validateAud : Bool
  aud : Option (List Str)
  iss : Option (List Str)
deriving Repr, DecidableEq

def expClaim : Str := "exp"

def audClaim : Str := "aud"

def issClaim : Str := "iss"

def Validation.new (algorithm : Algorithm) : Validation :=
  ⟨algorithm, [expClaim], true, none, none⟩

/-- What the crate reads from a token, whatever the key is, and its checks. -/
structure JwtCrate (κ : Type u) where
  decodeHeader : Str → Except Str Header
  fromJwk : Jwk κ → Except Str Unit
  checkSignature : Str → Jwk κ → Algorithm → Except ErrorKind Unit
  claims : Str → Except ErrorKind AuthClaims
  checkRequired : Validation → AuthClaims → Except ErrorKind Unit
  checkExpiration : Validation → AuthClaims → Nat → Except ErrorKind Unit
  checkIssuer : Validation → AuthClaims → Except ErrorKind Unit
  checkAudience : Validation → AuthClaims → Except ErrorKind Unit

/-- What is known of the checks: an `exp` that is required is there, the issuer
is one of those given, and so is an audience of the token. -/
structure JwtCrate.Lawful (crate : JwtCrate κ) : Prop where
  required : ∀ {validation claims}, crate.checkRequired validation claims = .ok () →
    expClaim ∈ validation.requiredSpecClaims → claims.expiration.isSome = true
  issuer : ∀ {validation claims issuer correct}, claims.issuer = some issuer →
    validation.iss = some correct →
      (crate.checkIssuer validation claims = .ok () ↔ issuer ∈ correct)
  audience : ∀ {validation claims audience correct}, validation.validateAud = true →
    claims.audience = some audience → validation.aud = some correct →
      (crate.checkAudience validation claims = .ok () ↔ ∃ value ∈ audience.toVec, value ∈ correct)

def decode (crate : JwtCrate κ) (nowSecs : Nat) (token : Str) (jwk : Jwk κ)
    (validation : Validation) : Except ErrorKind AuthClaims := do
  crate.checkSignature token jwk validation.algorithm
  let claims ← crate.claims token
  crate.checkRequired validation claims
  crate.checkExpiration validation claims nowSecs
  crate.checkIssuer validation claims
  crate.checkAudience validation claims
  return claims

def decodeTokenHeader (crate : JwtCrate κ) (token : Str) : Except AuthenticationError Header :=
  match crate.decodeHeader token with
  | .ok header => .ok header
  | .error text => .error (.tokenVerificationFailed text (some 401))

/-- The options for the crate: what is required for audience or issuer replaces
the `exp` that is required by default. -/
def validation (algorithm : Algorithm) (validateAudience : Option Audience)
    (validateIssuer : Option Str) : Validation :=
  let requiredClaims :=
    (if validateAudience.isSome then [audClaim] else []) ++
      if validateIssuer.isSome then [issClaim] else []
  { algorithm
    requiredSpecClaims :=
      if !requiredClaims.isEmpty then requiredClaims
      else (Validation.new algorithm).requiredSpecClaims
    validateAud := validateAudience.isSome
    aud := validateAudience.map Audience.toVec
    iss := validateIssuer.map fun issuer => [issuer] }

def decodeError : ErrorKind → AuthenticationError
  | .invalidToken => .invalidToken "Invalid token"
  | .expiredSignature => .invalidToken "Expired token"
  | error => .tokenVerificationFailed error.text (some 400)

def verify (crate : JwtCrate κ) (nowSecs : Nat) (keys : List (Jwk κ)) (token : Str)
    (allowedAlgorithms : List Algorithm) (validateAudience : Option Audience)
    (validateIssuer : Option Str) : Except AuthenticationError AuthClaims :=
  match decodeTokenHeader crate token with
  | .error error => .error error
  | .ok header =>
    if header.alg ∉ allowedAlgorithms then
      .error (.tokenVerificationFailed ("Token algorithm " ++
        header.alg.debug ++ " is not allowed") (some 401))
    else match header.kid with
      | none => .error (.invalidToken "Missing kid in token header")
      | some kid =>
        match keys.find? (·.keyId = some kid) with
        | none =>
          .error (.invalidToken "No matching key found in JWKS")
        | some jwk =>
          match crate.fromJwk jwk with
          | .error text => .error (.tokenVerificationFailed text none)
          | .ok () =>
            match decode crate nowSecs token jwk (validation header.alg
                validateAudience validateIssuer) with
            | .error error => .error (decodeError error)
            | .ok claims => .ok claims

theorem bind_eq_ok {ε α β : Type} {first : Except ε α} {next : α → Except ε β} {result : β} :
    (first >>= next) = .ok result ↔ ∃ value, first = .ok value ∧ next value = .ok result := by
  cases first with
  | error | ok => simp [bind, Except.bind]

variable {claims : AuthClaims}

theorem decode_ok {crate : JwtCrate κ} {nowSecs : Nat} {token : Str} {jwk : Jwk κ}
    {validation : Validation} (hdecoded : decode crate nowSecs token jwk validation = .ok claims) :
    crate.claims token = .ok claims ∧ crate.checkRequired validation claims = .ok () := by
  unfold decode at hdecoded
  simp only [bind_eq_ok] at hdecoded
  obtain ⟨⟨⟩, -, read, hread, ⟨⟩, hrequired, -, -, -, -, -, -, hclaims⟩ := hdecoded
  cases hclaims
  exact ⟨hread, hrequired⟩

theorem verify_ok {crate : JwtCrate κ} {nowSecs : Nat} {keys : List (Jwk κ)} {token : Str}
    {allowedAlgorithms : List Algorithm} {validateAudience : Option Audience}
    {validateIssuer : Option Str}
    (hverified : verify crate nowSecs keys token allowedAlgorithms validateAudience validateIssuer =
      .ok claims) :
    crate.claims token = .ok claims ∧ ∃ algorithm,
      crate.checkRequired (validation algorithm validateAudience validateIssuer) claims =
        .ok () := by
  unfold verify at hverified
  split at hverified
  · cases hverified
  · next header hheader =>
    split at hverified
    · cases hverified
    · split at hverified
      · cases hverified
      · split at hverified
        · cases hverified
        · split at hverified
          · cases hverified
          · split at hverified
            · cases hverified
            · next hdecoded =>
              cases hverified
              obtain ⟨hclaims, hrequired⟩ := decode_ok hdecoded
              exact ⟨hclaims, header.alg, hrequired⟩

end JsonWebKeySet

end McpSdk
