/-
The client side of OAuth: metadata, registration, and the exchange of
credentials for tokens. The servers and the token store have a state of their
own.
-/
import McpSdk.SseEvent

namespace McpSdk.ClientAuth

open RustStr (trimEndMatches trim stripStart split)

universe u v

variable {ω : Type u} {α : Type v}

structure ParsedUrl where
  scheme : Str
  authority : Str
  path : Str
deriving Repr, DecidableEq

structure AuthorizationServerMetadata where
  authorizationEndpoint : Str
  tokenEndpoint : Str
  registrationEndpoint : Option Str
  tokenEndpointAuthMethodsSupported : Option (List Str)
  clientIdMetadataDocumentSupported : Option Bool
deriving Repr, DecidableEq

structure OauthProtectedResourceMetadata where
  authorizationServers : List Str
  scopesSupported : Option (List Str)
deriving Repr, DecidableEq

structure McpAuthConfig where
  serverUrl : Str
  clientId : Option Str
  clientSecret : Option Str
  scope : Option Str
  redirectUri : Option Str
  metadata : Option AuthorizationServerMetadata
  resource : Option Str
  clientMetadataUrl : Option Str
deriving Repr, DecidableEq

inductive ClientError where
  | discoveryFailed (reason : Str)
  | registrationFailed (reason : Str)
  | tokenExchangeFailed (reason : Str)
  | noRegistrationEndpoint
  | http (reason : Str)
  | other (reason : Str)
deriving Repr, DecidableEq

structure RegistrationResponse where
  clientId : Str
  clientSecret : Option Str
  clientIdIssuedAt : Option Nat
  clientSecretExpiresAt : Option Nat
deriving Repr, DecidableEq

structure TokenResponse where
  accessToken : Str
  tokenType : Str
  expiresIn : Option Nat
  refreshToken : Option Str
  scope : Option Str
deriving Repr, DecidableEq

inductive GrantType where
  | clientCredentials
  | authorizationCode (code redirectUri : Str)
  | authorizationCodePkce (code redirectUri codeVerifier : Str)
  | refreshToken (token : Str)
deriving Repr, DecidableEq

def GrantType.asStr : GrantType → Str
  | .clientCredentials => "client_credentials"
  | .authorizationCode _ _ => "authorization_code"
  | .authorizationCodePkce _ _ _ => "authorization_code"
  | .refreshToken _ => "refresh_token"

def GrantType.params : GrantType → List (Str × Str)
  | .clientCredentials => []
  | .authorizationCode code redirectUri =>
    [("code", code), ("redirect_uri", redirectUri)]
  | .authorizationCodePkce code redirectUri codeVerifier =>
    [("code", code), ("redirect_uri", redirectUri), ("code_verifier", codeVerifier)]
  | .refreshToken token => [("refresh_token", token)]

structure RegistrationRequest where
  endpoint : Str
  clientName : Str
  scope : Option Str
  grantTypes : List Str
deriving Repr, DecidableEq

structure TokenRequest where
  endpoint : Str
  form : List (Str × Str)
  authorization : Option Str
deriving Repr, DecidableEq

/-- An authorization URL: the endpoint, with the pairs appended to its query. -/
structure AuthorizationUrl where
  endpoint : Str
  query : List (Str × Str)
deriving Repr, DecidableEq

/-- What comes back for a request: an error, or an answer with its body. -/
inductive Reply (α : Type v) where
  | failed (error : Str)
  | answered (status : Nat) (body : Str) (json : Except Str α)

/-- An answer that is not a success is refused with its status and body. -/
def Reply.read (refused : Str → ClientError) :
    Reply α → Except ClientError α
  | .failed error => .error (.http error)
  | .answered status body json =>
    if 200 ≤ status ∧ status < 300 then
      match json with
      | .ok value => .ok value
      | .error error => .error (.http error)
    else
      .error (refused ("HTTP " ++ RustStr.showNat status ++ ": " ++ body))

/-- The servers, the token store, and the crates for URLs and credentials. -/
structure Outside (ω : Type u) where
  parseUrl : Str → Option ParsedUrl
  base64Encode : Str → Str
  tryFetchMetadata : ω → Str → Option AuthorizationServerMetadata × ω
  fetchProtectedResourceMetadata : ω → Str → Option OauthProtectedResourceMetadata × ω
  /-- The `WWW-Authenticate` header of the answer, empty if it has none; no
  answer at all is possible too. -/
  probe : ω → Str → Option Str × ω
  postRegistration : ω → RegistrationRequest → Reply RegistrationResponse × ω
  postToken : ω → TokenRequest → Reply TokenResponse × ω
  getAccessToken : ω → Option Str × ω
  getRefreshToken : ω → Option Str × ω
  /-- The result of the store is ignored by every caller. -/
  setTokens : ω → TokenResponse → ω
  clear : ω → ω

inductive Carrier where
  | authorizationUrl (url : AuthorizationUrl)
  | tokenRequest (request : TokenRequest)
deriving Repr, DecidableEq

def Carrier.clientId : Carrier → Option Str
  | .authorizationUrl url => url.query.lookup "client_id".toList
  | .tokenRequest request => request.form.lookup "client_id".toList

structure McpAuthClient (ω : Type u) where
  discoveredMetadata : Option AuthorizationServerMetadata
  discoveredResourceMetadata : Option OauthProtectedResourceMetadata
  discoveredWwwAuthScope : Option Str
  registration : Option RegistrationResponse
  world : ω
  /-- The client ids that dynamic registrations have returned so far. -/
  issued : List Str
  /-- The authorization URLs and the token requests so far. -/
  carried : List Carrier

def McpAuthClient.new (world : ω) : McpAuthClient ω :=
  ⟨none, none, none, none, world, [], []⟩

def McpAuthClient.withWorld (client : McpAuthClient ω) (world : ω) : McpAuthClient ω :=
  { client with world := world }

def McpAuthClient.register (client : McpAuthClient ω)
    (registration : RegistrationResponse) : McpAuthClient ω :=
  { client with registration := some registration }

def McpAuthClient.carry (client : McpAuthClient ω) (carrier : Carrier) : McpAuthClient ω :=
  { client with carried := client.carried ++ [carrier] }

/-- A dynamic registration has returned a client id. -/
def McpAuthClient.issue (client : McpAuthClient ω) (clientId : Str) : McpAuthClient ω :=
  { client with issued := client.issued ++ [clientId] }

def ParsedUrl.origin (parsed : ParsedUrl) : Str :=
  parsed.scheme ++ "://" ++ parsed.authority

def metadataUrlFallbacks (parseUrl : Str → Option ParsedUrl) (serverUrl : Str) : List Str :=
  match parseUrl serverUrl with
  | none =>
    [trimEndMatches '/' serverUrl ++ "/.well-known/oauth-authorization-server"]
  | some parsed =>
    let path := trimEndMatches '/' parsed.path
    if path ≠ [] ∧ path ≠ ['/'] then
      [parsed.origin ++ "/.well-known/oauth-authorization-server" ++ path,
        parsed.origin ++ "/.well-known/openid-configuration" ++ path,
        parsed.origin ++ path ++ "/.well-known/openid-configuration"]
    else
      [parsed.origin ++ "/.well-known/oauth-authorization-server",
        parsed.origin ++ "/.well-known/openid-configuration"]

def prmUrlCandidates (parseUrl : Str → Option ParsedUrl) (mcpServerUrl : Str)
    (explicitPrmUrl : Option Str) : List Str :=
  let given := match explicitPrmUrl with
    | some url => if trim url ≠ [] then [trim url] else []
    | none => []
  match parseUrl mcpServerUrl with
  | none => given
  | some parsed =>
    let path := trimEndMatches '/' parsed.path
    let named := if path ≠ [] ∧ path ≠ ['/'] then
      [parsed.origin ++ "/.well-known/oauth-protected-resource" ++ path] else []
    given ++ named ++ [parsed.origin ++ "/.well-known/oauth-protected-resource"]

def parseWwwAuthenticateParam (wwwAuth paramName : Str) : Option Str :=
  let body := RustStr.trimStart wwwAuth
  let body := ((((stripStart "Bearer" body).or
    (stripStart "bearer" body)).or
    (stripStart "Basic" body)).or
    (stripStart "basic" body)).getD body
  (split [','] body).findSome? fun part =>
    (stripStart (paramName ++ ['=']) (trim part)).bind
      fun rest =>
        let value := RustStr.trimMatches '"' (trim rest)
        if value ≠ [] then some value else none

/-- A text without the blanks around it, if anything is left. -/
def trimmedScope (text : Str) : Option Str :=
  if trim text ≠ [] then some (trim text) else none

def selectScope (wwwAuthenticateScope : Option Str) (prmScopesSupported : Option (List Str))
    (configuredScope : Option Str) : Option Str :=
  let challenged := wwwAuthenticateScope.bind trimmedScope
  let supported := prmScopesSupported.bind fun scopes =>
    let joined := [' '].intercalate (scopes.filterMap trimmedScope)
    if joined ≠ [] then some joined else none
  (challenged.or supported).or (configuredScope.bind trimmedScope)

def fetchFirst (fetch : ω → Str → Option α × ω) (world : ω) :
    List Str → Option α × ω
  | [] => (none, world)
  | url :: urls =>
    match fetch world url with
    | (some found, next) => (some found, next)
    | (none, next) => fetchFirst fetch next urls

section Client

variable (config : McpAuthConfig) (outside : Outside ω)

def probeForResourceMetadata (client : McpAuthClient ω) : Option Str × McpAuthClient ω :=
  match outside.probe client.world config.serverUrl with
  | (none, next) => (none, client.withWorld next)
  | (some wwwAuth, next) =>
    (parseWwwAuthenticateParam wwwAuth "resource_metadata",
      { client with
        world := next
        discoveredWwwAuthScope :=
          (parseWwwAuthenticateParam wwwAuth "scope".toList).or
            client.discoveredWwwAuthScope })

/-- The resource metadata, and that of the first of its servers that has any. -/
def discoverFromResource (client : McpAuthClient ω) :
    Option AuthorizationServerMetadata × McpAuthClient ω :=
  match probeForResourceMetadata config outside client with
  | (explicitPrm, probed) =>
    match fetchFirst outside.fetchProtectedResourceMetadata probed.world
        (prmUrlCandidates outside.parseUrl config.serverUrl explicitPrm) with
    | (none, next) => (none, probed.withWorld next)
    | (some prm, next) =>
      match fetchFirst outside.tryFetchMetadata next
          (prm.authorizationServers.flatMap fun authServer =>
            metadataUrlFallbacks outside.parseUrl
              (trimEndMatches '/' authServer)) with
      | (found, last) =>
        (found, { probed with
          world := last
          discoveredResourceMetadata := some prm })

def discoverMetadata (client : McpAuthClient ω) :
    Except ClientError AuthorizationServerMetadata × McpAuthClient ω :=
  match config.metadata with
  | some metadata =>
    (.ok metadata, { client with discoveredMetadata := some metadata })
  | none =>
    match client.discoveredMetadata with
    | some cached => (.ok cached, client)
    | none =>
      match fetchFirst outside.tryFetchMetadata client.world
          (metadataUrlFallbacks outside.parseUrl config.serverUrl) with
      | (some found, next) =>
        (.ok found, { client with
          world := next
          discoveredMetadata := some found })
      | (none, next) =>
        match discoverFromResource config outside
            (client.withWorld next) with
        | (some found, last) =>
          (.ok found, { last with discoveredMetadata := some found })
        | (none, last) =>
          (.error (.discoveryFailed "metadata not found at any tried URL"), last)

def resolvedScope (client : McpAuthClient ω) : Option Str :=
  selectScope client.discoveredWwwAuthScope
    (client.discoveredResourceMetadata.bind OauthProtectedResourceMetadata.scopesSupported)
    config.scope

/-- The URL that stands for the client id, where the server takes it. -/
def McpAuthConfig.document (metadata : AuthorizationServerMetadata) : Option Str :=
  match config.clientMetadataUrl with
  | some url =>
    if metadata.clientIdMetadataDocumentSupported = some true then some url
    else none
  | none => none

/-- The dynamic registration: a new one for every call. -/
def postRegistration (endpoint : Str) (client : McpAuthClient ω) :
    Except ClientError RegistrationResponse × McpAuthClient ω :=
  match outside.postRegistration client.world ⟨endpoint,
      "rust-mcp-client", resolvedScope config client,
      ["client_credentials"]⟩ with
  | (reply, next) =>
    match reply.read .registrationFailed with
    | .error error => (.error error, client.withWorld next)
    | .ok registration =>
      (.ok registration, ((client.withWorld next).issue
        registration.clientId).register registration)

def register (client : McpAuthClient ω) :
    Except ClientError RegistrationResponse × McpAuthClient ω :=
  match config.clientId with
  | some clientId =>
    (.ok ⟨clientId, config.clientSecret, none, none⟩,
      client.register ⟨clientId, config.clientSecret, none, none⟩)
  | none =>
    match discoverMetadata config outside client with
    | (.error error, next) => (.error error, next)
    | (.ok metadata, next) =>
      match config.document metadata with
      | some url =>
        (.ok ⟨url, none, none, none⟩, next.register ⟨url, none, none, none⟩)
      | none =>
        match metadata.registrationEndpoint with
        | none => (.error .noRegistrationEndpoint, next)
        | some endpoint => postRegistration config outside endpoint next

/-- The form of a token request, without the secret. -/
def tokenForm (grantType : GrantType) (clientId : Str) (scope : Option Str) : List (Str × Str) :=
  [("grant_type".toList, grantType.asStr), ("client_id".toList, clientId)] ++
    grantType.params ++
    (scope.map fun scope => ("scope".toList, scope)).toList ++
    (config.resource.map fun resource => ("resource".toList, resource)).toList

/-- The secret goes into the form or into a header, as the server has it. -/
def tokenRequest (metadata : AuthorizationServerMetadata) (grantType : GrantType)
    (registration : RegistrationResponse) (scope : Option Str) : TokenRequest :=
  let form := tokenForm config grantType registration.clientId scope
  match registration.clientSecret with
  | none => ⟨metadata.tokenEndpoint, form, none⟩
  | some secret =>
    if (metadata.tokenEndpointAuthMethodsSupported.map fun methods =>
        methods.any (· == "client_secret_post".toList)).getD false then
      ⟨metadata.tokenEndpoint, form ++ [("client_secret".toList, secret)], none⟩
    else
      ⟨metadata.tokenEndpoint, form, some ("Basic ".toList ++
        outside.base64Encode (registration.clientId ++ [':'] ++ secret))⟩

/-- The request is sent, and the token of its answer stored. -/
def sendTokenRequest (request : TokenRequest) (client : McpAuthClient ω) :
    Except ClientError TokenResponse × McpAuthClient ω :=
  match outside.postToken client.world request with
  | (reply, next) =>
    match reply.read .tokenExchangeFailed with
    | .error error =>
      (.error error, (client.carry (.tokenRequest request)).withWorld next)
    | .ok token =>
      (.ok token, (client.carry (.tokenRequest request)).withWorld (outside.setTokens next token))

def exchangeToken (grantType : GrantType) (client : McpAuthClient ω) :
    Except ClientError TokenResponse × McpAuthClient ω :=
  match discoverMetadata config outside client with
  | (.error error, next) => (.error error, next)
  | (.ok metadata, found) =>
    match register config outside found with
    | (.error error, next) => (.error error, next)
    | (.ok registration, next) =>
      sendTokenRequest outside (tokenRequest config outside metadata
        grantType registration (resolvedScope config next)) next

def authenticate : McpAuthClient ω → Except ClientError TokenResponse × McpAuthClient ω :=
  exchangeToken config outside .clientCredentials

def redirectUriRequired : ClientError :=
  .other "redirect_uri is required for the authorization_code flow"

def authorizationUrl (metadata : AuthorizationServerMetadata)
    (clientId redirectUri codeChallenge : Str) (scope state : Option Str) : AuthorizationUrl :=
  ⟨metadata.authorizationEndpoint,
    [("response_type".toList, "code".toList), ("client_id".toList, clientId),
      ("redirect_uri".toList, redirectUri),
      ("code_challenge".toList, codeChallenge),
      ("code_challenge_method".toList, "S256".toList)] ++
    (config.resource.map fun resource => ("resource".toList, resource)).toList ++
    ((scope.filter (· ≠ [])).map fun scope => ("scope".toList, scope)).toList ++
    (state.map fun state => ("state".toList, state)).toList⟩

def buildAuthorizationUrl (codeChallenge : Str) (scope state : Option Str)
    (client : McpAuthClient ω) : Except ClientError AuthorizationUrl × McpAuthClient ω :=
  match discoverMetadata config outside client with
  | (.error error, next) => (.error error, next)
  | (.ok metadata, found) =>
    match register config outside found with
    | (.error error, next) => (.error error, next)
    | (.ok registration, next) =>
      match config.redirectUri with
      | none => (.error redirectUriRequired, next)
      | some redirectUri =>
        let url := authorizationUrl config metadata registration.clientId
          redirectUri codeChallenge scope state
        (.ok url, next.carry (.authorizationUrl url))

def completeAuthorizationCodeFlow (code codeVerifier : Str) (client : McpAuthClient ω) :
    Except ClientError TokenResponse × McpAuthClient ω :=
  match config.redirectUri with
  | none => (.error redirectUriRequired, client)
  | some redirectUri =>
    exchangeToken config outside
      (.authorizationCodePkce code redirectUri codeVerifier) client

def refresh (refreshToken : Str) : McpAuthClient ω →
    Except ClientError TokenResponse × McpAuthClient ω :=
  exchangeToken config outside (.refreshToken refreshToken)

/-- The end of `get_token`: the store is cleared before a token is asked for. -/
def reauthenticate (client : McpAuthClient ω) : Except ClientError Str × McpAuthClient ω :=
  match authenticate config outside
      (client.withWorld (outside.clear client.world)) with
  | (.error error, next) => (.error error, next)
  | (.ok token, next) => (.ok token.accessToken, next)

def getToken (client : McpAuthClient ω) : Except ClientError Str × McpAuthClient ω :=
  match outside.getAccessToken client.world with
  | (some token, next) => (.ok token, client.withWorld next)
  | (none, next) =>
    match outside.getRefreshToken next with
    | (none, last) => reauthenticate config outside (client.withWorld last)
    | (some refreshToken, last) =>
      match refresh config outside refreshToken
          (client.withWorld last) with
      | (.ok token, refreshed) =>
        (.ok token.accessToken, refreshed.withWorld (outside.setTokens refreshed.world token))
      | (.error _, failed) => reauthenticate config outside failed

end Client

end McpSdk.ClientAuth
