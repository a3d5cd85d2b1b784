/-
The `WWW-Authenticate` challenge. The middleware puts its texts between quotes,
and the client splits the challenge at every comma, quoted or not.
-/
import McpSdk.AuthMiddleware
import McpSdk.ClientAuth

namespace McpSdk

open List Option
open RustStr (trim isWhitespace trim_eq_self split trim_subset)

def AuthenticationError.display : AuthenticationError → Str
  | .noIntrospectionEndpoint =>
    "No token verification endpoint available in metadata."
  | .jwks text =>
    "failed to retrieve JWKS from the authorization server : " ++ text
  | .invalidToken description => description
  | .inactiveToken => "Inactive Token"
  | .audiencesAttributeMissing => "Resource indicator (aud) missing."
  | .insufficientScope =>
    ("Insufficient scope: you do not have the necessary permissions to " ++
      "perform this action.").toList
  | .audienceNotAllowed expected received =>
    "None of the provided audiences are allowed. Expected $" ++ expected ++ ", got: $" ++ received
  | .invalidOrExpiredToken text => "Invalid or expired token: " ++ text
  | .tokenVerificationFailed description _ => description
  | .serverError description => description
  | .parsingError text => text
  | .notFound text => text

/-- The name of an error; a variant that is a text only is not serialized. -/
def AuthenticationError.errorName : AuthenticationError → Str
  | .noIntrospectionEndpoint => "no_introspection_endpoint"
  | .invalidToken _ => "invalid_token"
  | .inactiveToken => "inactive_token"
  | .audiencesAttributeMissing => "audiences_attribute_missing"
  | .insufficientScope => "insufficient_scope"
  | .audienceNotAllowed _ _ => "audience_not_allowed"
  | .tokenVerificationFailed _ _ => "token_verification_failed"
  | .serverError _ => "server_error"
  | .jwks _ => "unknown_error"
  | .invalidOrExpiredToken _ => "unknown_error"
  | .parsingError _ => "unknown_error"
  | .notFound _ => "unknown_error"

namespace AuthMiddleware

def createWwwAuthValue (protectedResourceMetadataUrl : Option Str)
    (errorCode : Str) (error : AuthenticationError) : Str :=
  match protectedResourceMetadataUrl with
  | some resourceMetadata =>
    "Bearer error=\"" ++ errorCode ++
      "\", error_description=\"" ++ error.display ++
      "\", resource_metadata=\"" ++ resourceMetadata ++ "\""
  | none =>
    "Bearer error=\"" ++ errorCode ++ "\", error_description=\"" ++ error.display ++ "\""

/-- The challenge of the response to a refused request, if it has one. -/
def wwwAuthValue (protectedResourceMetadataUrl : Option Str)
    (error : AuthenticationError) : Option Str :=
  let value := createWwwAuthValue protectedResourceMetadataUrl error.errorName
    error
  match error with
  | .inactiveToken => some value
  | .invalidToken _ => some value
  | .insufficientScope => some value
  | .tokenVerificationFailed _ statusCode =>
    if statusCode = some 403 then some value else none
  | _ => none

end AuthMiddleware

namespace ClientAuth

/-- One parameter of a challenge, as the middleware writes it. -/
def writeParam (param : Str × Str) : Str :=
  ' ' :: (param.1 ++ '=' :: '"' :: (param.2 ++ ['"']))

def challenge (params : List (Str × Str)) : Str :=
  "Bearer" ++ [','].intercalate (params.map writeParam)

/-- What the client takes one part of a challenge for. -/
def readParam (paramName part : Str) : Option Str :=
  (RustStr.stripStart (paramName ++ ['=']) (trim part)).bind
    fun rest =>
      let value := RustStr.trimMatches '"' (trim rest)
      if value ≠ [] then some value else none

/-- A name that can be told from every other. -/
structure IsParamName (name : Str) : Prop where
  black : ∀ c ∈ name.head?, isWhitespace c = false
  equals : '=' ∉ name
  comma : ',' ∉ name

/-- A text that can stand between quotes. -/
structure IsQuotable (value : Str) : Prop where
  ne_nil : value ≠ []
  quote : '"' ∉ value

variable {param : Str × Str}

theorem trim_writeParam (hname : IsParamName param.1) :
    trim (writeParam param) =
      param.1 ++ ['='] ++ '"' :: (param.2 ++ ['"']) := by
  have htrim : trim (writeParam param) =
      trim (param.1 ++ ['='] ++ '"' :: (param.2 ++ ['"'])) := by
    rw [trim, writeParam, dropWhile_cons_of_pos rfl, append_assoc]
    rfl
  rw [htrim]
  apply trim_eq_self
  · intro c hc
    cases hparam : param.1 with
    | nil =>
      rw [hparam] at hc
      cases hc
      rfl
    | cons d name =>
      refine hname.black c ?_
      rw [hparam] at hc ⊢
      exact hc
  · intro c hc
    rw [← cons_append, ← append_assoc, getLast?_concat] at hc
    cases hc
    rfl

theorem readParam_writeParam (hname : IsParamName param.1) (hvalue : IsQuotable param.2) :
    readParam param.1 (writeParam param) = some param.2 := by
  have hquoted : trim ('"' :: (param.2 ++ ['"'])) =
      '"' :: (param.2 ++ ['"']) := by
    apply trim_eq_self
    · intro c hc
      cases hc
      rfl
    · intro c hc
      rw [← cons_append, getLast?_concat] at hc
      cases hc
      rfl
  rw [readParam, trim_writeParam hname, RustStr.stripStart_append,
    bind_some, hquoted, RustStr.trimMatches_quoted hvalue.quote]
  exact if_pos hvalue.ne_nil

theorem readParam_writeParam_of_ne {name : Str} (hname : '=' ∉ name) (hparam : IsParamName param.1)
    (hne : name ≠ param.1) : readParam name (writeParam param) = none := by
  rw [readParam, trim_writeParam hparam, bind_eq_none_iff]
  intro rest hrest
  have heq := RustStr.eq_append_of_stripStart hrest
  rw [append_assoc, append_assoc] at heq
  -- both are cut at the first equals sign
  have hcut := congrArg (RustStr.splitOnce '=') heq
  rw [singleton_append, singleton_append, RustStr.splitOnce_append hparam.equals,
    RustStr.splitOnce_append hname] at hcut
  cases hcut
  exact absurd rfl hne

theorem findSome?_writeParam {name : Str} (hname : '=' ∉ name) {params : List (Str × Str)}
    (hnames : ∀ param ∈ params, IsParamName param.1)
    (hvalues : ∀ param ∈ params, IsQuotable param.2) :
    (params.map writeParam).findSome? (readParam name) = params.lookup name := by
  induction params with
  | nil => rfl
  | cons param params ih =>
    obtain ⟨hhead, hnames⟩ := forall_mem_cons.mp hnames
    obtain ⟨hvalue, hvalues⟩ := forall_mem_cons.mp hvalues
    rw [map_cons, findSome?_cons, lookup_cons]
    by_cases heq : name = param.1
    · subst heq
      rw [readParam_writeParam hhead hvalue, beq_self_eq_true]
    · rw [readParam_writeParam_of_ne hname hhead heq, beq_eq_false_iff_ne.mpr heq]
      exact ih hnames hvalues

theorem parseWwwAuthenticateParam_bearer (body paramName : Str) :
    parseWwwAuthenticateParam ("Bearer" ++ body) paramName =
      (split [','] body).findSome? (readParam paramName) := by
  have hstart : RustStr.trimStart ("Bearer" ++ body) = "Bearer" ++ body :=
    dropWhile_cons_of_neg (by decide)
  rw [parseWwwAuthenticateParam, hstart, RustStr.stripStart_append "Bearer" body]
  rfl

/-- The parameters of a challenge are read back as long as no value has a comma. -/
theorem parseWwwAuthenticateParam_challenge {name : Str} (hname : '=' ∉ name)
    {params : List (Str × Str)} (hparams : params ≠ [])
    (hnames : ∀ param ∈ params, IsParamName param.1)
    (hvalues : ∀ param ∈ params, IsQuotable param.2) (hcommas : ∀ param ∈ params, ',' ∉ param.2) :
    parseWwwAuthenticateParam (challenge params) name = params.lookup name := by
  have hparts : ∀ part ∈ params.map writeParam, ',' ∉ part := by
    intro part hpart
    obtain ⟨param, hparam, rfl⟩ := mem_map.mp hpart
    simp [writeParam, (hnames param hparam).comma, hcommas param hparam]
  change parseWwwAuthenticateParam ("Bearer" ++ [','].intercalate (params.map writeParam)) name = _
  rw [parseWwwAuthenticateParam_bearer, RustStr.split_intercalate (by simpa using hparams) hparts]
  exact findSome?_writeParam hname hnames hvalues

theorem comma_not_mem_of_parse {wwwAuth paramName value : Str}
    (hparse : parseWwwAuthenticateParam wwwAuth paramName = some value) : ',' ∉ value := by
  obtain ⟨part, hpart, hread⟩ := exists_of_findSome?_eq_some hparse
  obtain ⟨rest, hrest, hvalue⟩ := bind_eq_some_iff.mp hread
  obtain ⟨-, hvalue⟩ := ite_none_right_eq_some.mp hvalue
  cases hvalue
  intro hcomma
  have hrested : ',' ∈ rest := trim_subset (RustStr.mem_of_mem_trimMatches hcomma)
  have htrimmed : ',' ∈ trim part := by
    rw [RustStr.eq_append_of_stripStart hrest]
    exact mem_append_right _ hrested
  exact RustStr.not_mem_of_mem_split hpart (trim_subset htrimmed)

/-- The parameters of the challenge that the middleware writes. -/
def wwwAuthParams (errorCode description url : Str) : List (Str × Str) :=
  [("error", errorCode), ("error_description", description), ("resource_metadata", url)]

theorem challenge_eq {first second third code description url : Str}
    (hfirst : first = "Bearer" ++ ' ' :: (code ++ ['=', '"']))
    (hsecond : second = '"' :: ',' :: ' ' :: (description ++ ['=', '"']))
    (hthird : third = '"' :: ',' :: ' ' :: (url ++ ['=', '"']))
    (codeValue descriptionValue urlValue : Str) :
    first ++ codeValue ++ second ++ descriptionValue ++ third ++ urlValue ++ ['"'] =
      challenge [(code, codeValue), (description, descriptionValue),
        (url, urlValue)] := by
  subst hfirst hsecond hthird
  change _ = "Bearer" ++ [','].intercalate (List.map writeParam _)
  generalize "Bearer" = scheme
  simp [writeParam, intercalate_cons_cons]

theorem createWwwAuthValue_eq (url errorCode : Str) (error : AuthenticationError) :
    AuthMiddleware.createWwwAuthValue (some url) errorCode error =
      challenge (wwwAuthParams errorCode error.display url) := by
  have hcode : "Bearer error=\"" = "Bearer" ++ ' ' :: ("error" ++ ['=', '"']) := by decide
  have hdescription : "\", error_description=\"" =
      '"' :: ',' :: ' ' :: ("error_description" ++ ['=', '"']) := by
    decide
  have hurl : "\", resource_metadata=\"" =
      '"' :: ',' :: ' ' :: ("resource_metadata" ++ ['=', '"']) := by
    decide
  exact challenge_eq hcode hdescription hurl errorCode error.display url

theorem isParamName_of_mem {errorCode description url : Str}
    (hparam : param ∈ wwwAuthParams errorCode description url) : IsParamName param.1 := by
  simp only [wwwAuthParams, mem_cons, not_mem_nil, or_false] at hparam
  -- each name is a literal, looked at character by character
  have hname : ∀ {name : Str}, '=' ∉ name → ',' ∉ name →
      name.head?.any isWhitespace = false → IsParamName name := by
    intro name hequals hcomma hblack
    refine ⟨fun c hc => ?_, hequals, hcomma⟩
    rw [mem_def.mp hc] at hblack
    exact hblack
  rcases hparam with rfl | rfl | rfl
  · change IsParamName "error"
    exact hname (by decide) (by decide) (by decide)
  · change IsParamName "error_description"
    exact hname (by decide) (by decide) (by decide)
  · change IsParamName "resource_metadata"
    exact hname (by decide) (by decide) (by decide)

/-- For every code, description and metadata URL that are not empty and have no
quotes: the client reads all three from the challenge exactly when none has a
comma. -/
theorem wwwAuthenticate_roundTrip_iff {url errorCode : Str}
    {error : AuthenticationError} (hcode : IsQuotable errorCode)
    (hdescription : IsQuotable error.display) (hurl : IsQuotable url) :
    (parseWwwAuthenticateParam
            (AuthMiddleware.createWwwAuthValue (some url) errorCode error)
            "error" = some errorCode ∧
        parseWwwAuthenticateParam
            (AuthMiddleware.createWwwAuthValue (some url) errorCode error)
            "error_description" = some error.display ∧
        parseWwwAuthenticateParam
            (AuthMiddleware.createWwwAuthValue (some url) errorCode error)
            "resource_metadata" = some url) ↔
      ',' ∉ errorCode ∧ ',' ∉ error.display ∧ ',' ∉ url := by
  constructor
  · rintro ⟨hfirst, hsecond, hthird⟩
    exact ⟨comma_not_mem_of_parse hfirst, comma_not_mem_of_parse hsecond,
      comma_not_mem_of_parse hthird⟩
  · rintro ⟨hfirst, hsecond, hthird⟩
    rw [createWwwAuthValue_eq]
    have hread : ∀ name : Str, '=' ∉ name →
        parseWwwAuthenticateParam
            (challenge (wwwAuthParams errorCode error.display url)) name =
          (wwwAuthParams errorCode error.display url).lookup name := by
      intro name hname
      refine parseWwwAuthenticateParam_challenge hname (cons_ne_nil _ _)
        (fun param hparam => isParamName_of_mem hparam) ?_ ?_
      · simp [wwwAuthParams, hcode, hdescription, hurl]
      · simp [wwwAuthParams, hfirst, hsecond, hthird]
    refine ⟨?_, ?_, ?_⟩
    · rw [hread _ (by decide)]
      rfl
    · rw [hread _ (by decide)]
      rfl
    · rw [hread _ (by decide)]
      rfl

namespace WwwAuthenticateWitness

def basic : HeaderMap :=
  ⟨[(AuthMiddleware.authorizationHeader, some "Basic x")]⟩

def wrongFormat : AuthenticationError :=
  .invalidToken ("Invalid Authorization header format, " ++ "expected 'Bearer TOKEN'").toList

/-- The client reads one of the middleware's own messages up to its comma. -/
theorem description_cut :
    AuthMiddleware.bearerToken basic = .error wrongFormat ∧
      (AuthMiddleware.wwwAuthValue (some "u".toList) wrongFormat).bind
          (parseWwwAuthenticateParam · "error_description".toList) =
        some "Invalid Authorization header format".toList ∧
      wrongFormat.display ≠ "Invalid Authorization header format".toList ∧
      '"' ∉ wrongFormat.display := by
  decide +kernel

/-- The challenge for a token that is not active is read in full. -/
theorem inactiveToken_read :
    parseWwwAuthenticateParam
        (AuthMiddleware.createWwwAuthValue (some "u".toList) "inactive_token".toList .inactiveToken)
        "error_description".toList = some "Inactive Token".toList :=
  ((wwwAuthenticate_roundTrip_iff ⟨by decide, by decide⟩
    ⟨by decide, by decide⟩ ⟨by decide, by decide⟩).mpr
    ⟨by decide, by decide, by decide⟩).2.1

end WwwAuthenticateWitness

end ClientAuth

end McpSdk
