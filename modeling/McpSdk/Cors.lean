/-
The CORS middleware. It answers every `OPTIONS` request as a preflight, and adds
its headers to other responses where it admits the origin.
-/
import McpSdk.HttpUtils
import McpSdk.StandaloneStream

namespace McpSdk

open List Option

def HeaderMap.getAll (headers : HeaderMap) (name : Str) : List (Option Str) :=
  (headers.entries.filter (·.1 = name)).map (·.2)

def HeaderList.insertOption (headers : HeaderList) (name : Str) :
    Option Str → HeaderList
  | some value => headers.insert name value
  | none => headers

theorem HeaderMap.get_eq_head? (headers : HeaderMap) (name : Str) :
    headers.get name = (headers.getAll name).head? := by
  rw [HeaderMap.get, HeaderMap.getAll, head?_map, head?_filter]

theorem HeaderList.values_insertOption_self (headers : HeaderList)
    (name : Str) (value : Option Str) :
    (headers.insertOption name value).values name =
      (value.map ([·])).getD (headers.values name) := by
  cases value with
  | none => rfl
  | some value => exact headers.values_insert_self name value

theorem HeaderList.values_insertOption_of_ne {name other : Str}
    (hne : other ≠ name) (headers : HeaderList) (value : Option Str) :
    (headers.insertOption name value).values other = headers.values other := by
  cases value with
  | none => rfl
  | some value => exact HeaderList.values_insert_of_ne hne headers value

namespace Cors

/-- The characters of the names of methods and headers in the `http` crate. -/
def isTokenChar (c : Char) : Bool :=
  c.isAlphanum || "!#$%&'*+-.^_`|~".toList.contains c

def isToken (text : Str) : Bool :=
  !text.isEmpty && text.all isTokenChar

structure Method where
  asStr : Str
  valid : isToken asStr = true
deriving DecidableEq

/-- The name of a header, which the crate keeps in lower case. -/
structure HeaderName where
  asStr : Str
  valid : isToken asStr = true
  lower : asStr.map Char.toLower = asStr
deriving DecidableEq

def Method.parse (text : Str) : Option Method :=
  if hvalid : isToken text = true then some ⟨text, hvalid⟩ else none

def Method.options : Method :=
  ⟨"OPTIONS", by decide⟩

inductive AllowOrigins where
  | any
  | list (allowed : List Str)
  | echo
deriving DecidableEq

structure CorsConfig where
  allowOrigins : AllowOrigins
  allowMethods : List Method
  allowHeaders : List HeaderName
  allowCredentials : Bool
  maxAge : Option Nat
  exposeHeaders : List HeaderName

def Method.get : Method :=
  ⟨"GET", by decide⟩

def Method.post : Method :=
  ⟨"POST", by decide⟩

def HeaderName.contentType : HeaderName :=
  ⟨"content-type", by decide, by decide⟩

def HeaderName.authorization : HeaderName :=
  ⟨"authorization", by decide, by decide⟩

def HeaderName.mcpSessionId : HeaderName :=
  ⟨mcpSessionIdHeader, by decide, by decide⟩

def CorsConfig.default : CorsConfig where
  allowOrigins := .any
  allowMethods := [.get, .post, .options]
  allowHeaders := [.contentType, .authorization, .mcpSessionId]
  allowCredentials := false
  maxAge := some 86400
  exposeHeaders := []

def CorsConfig.permissive : CorsConfig where
  allowOrigins := .any
  allowMethods := [.get, .post, ⟨"PUT", by decide⟩,
    ⟨"DELETE", by decide⟩, ⟨"PATCH", by decide⟩, .options,
    ⟨"HEAD", by decide⟩]
  allowHeaders := [.contentType, .authorization,
    ⟨"accept", by decide, by decide⟩,
    ⟨"origin", by decide, by decide⟩]
  allowCredentials := true
  maxAge := some 86400
  exposeHeaders := []

structure Request where
  method : Method
  uri : Str
  headers : HeaderMap
  body : Str

structure Response where
  status : Nat
  headers : HeaderList
  body : Str
deriving DecidableEq

def originHeader : Str := "origin"

def requestMethodHeader : Str := "access-control-request-method"

def requestHeadersHeader : Str := "access-control-request-headers"

def allowOriginHeader : Str := "access-control-allow-origin"

def allowCredentialsHeader : Str := "access-control-allow-credentials"

def allowMethodsHeader : Str := "access-control-allow-methods"

def allowHeadersHeader : Str := "access-control-allow-headers"

def maxAgeHeader : Str := "access-control-max-age"

def exposeHeadersHeader : Str := "access-control-expose-headers"

def trueText : Str := "true"

def wildcard : Str := ['*']

def resolveAllowedOrigin (config : CorsConfig) (origin : Str) : Option Str :=
  match config.allowOrigins with
  | .any => if config.allowCredentials then some origin else some wildcard
  | .list allowed => if allowed.contains origin then some origin else none
  | .echo => some origin

def CorsConfig.credentials (config : CorsConfig) : Option Str :=
  if config.allowCredentials then some trueText else none

/-- The headers that a preflight and any other response get alike. -/
def insertAllowed (config : CorsConfig) (origin : Str) (headers : HeaderList) : HeaderList :=
  (headers.insertOption allowOriginHeader
    (resolveAllowedOrigin config origin)).insertOption allowCredentialsHeader
      config.credentials

def preflightResponse (config : CorsConfig) (origin : Str) : Response :=
  let headers := insertAllowed config origin []
  let headers := headers.insertOption maxAgeHeader
    (config.maxAge.map RustStr.showNat)
  let headers := headers.insert allowMethodsHeader
    (", ".toList.intercalate (config.allowMethods.map Method.asStr))
  let headers := headers.insert allowHeadersHeader
    (", ".toList.intercalate (config.allowHeaders.map HeaderName.asStr))
  ⟨204, headers, []⟩

def addCorsToResponse (config : CorsConfig) (resp : Response) (origin : Str) : Response :=
  let headers := insertAllowed config origin resp.headers
  let headers := headers.insertOption exposeHeadersHeader
    (if config.exposeHeaders = [] then none
    else some (", ".toList.intercalate (config.exposeHeaders.map HeaderName.asStr)))
  { resp with headers := headers }

/-- `GenericBody::build_response` without headers. -/
def buildResponse (statusCode : Nat) (payload : Str) : Response :=
  ⟨statusCode, [("content-type", "text/plain")], payload⟩

/-- The origin of a request, where it is there and can be read. -/
def Request.origin (request : Request) : Option Str :=
  (request.headers.get originHeader).bind id

def Request.requestedMethod (request : Request) : Option Method :=
  ((request.headers.get requestMethodHeader).bind id).bind Method.parse

def lowerNames (text : Str) : List Str :=
  (RustStr.split [','] text).map fun h =>
    (RustStr.trim h).map Char.toLower

def Request.requestedHeaders (request : Request) : List Str :=
  (((request.headers.get requestHeadersHeader).bind id).map lowerNames).getD []

def CorsConfig.allowedNames (config : CorsConfig) : List Str :=
  config.allowHeaders.map fun h => h.asStr.map Char.toLower

def preflight (config : CorsConfig) (request : Request) : Response :=
  match request.origin with
  | none =>
    if config.allowOrigins = .any ∧ config.allowCredentials = false then
      preflightResponse config wildcard
    else buildResponse 400 "CORS origin missing in preflight"
  | some origin =>
    if (resolveAllowedOrigin config origin).isNone then
      buildResponse 403 "CORS origin not allowed"
    else if ∃ method ∈ request.requestedMethod,
        method ∉ config.allowMethods then
      buildResponse 405 "CORS method not allowed"
    else if ¬ request.requestedHeaders ⊆ config.allowedNames then
      buildResponse 400 "CORS header not allowed"
    else preflightResponse config origin

/-- What becomes of the response of the next handler. -/
def decorate (config : CorsConfig) (request : Request) (resp : Response) : Response :=
  match request.origin with
  | none => resp
  | some origin =>
    if (resolveAllowedOrigin config origin).isSome then
      addCorsToResponse config resp origin
    else resp

def handle (config : CorsConfig) (request : Request)
    (next : Request → Except McpHttpError Response) :
    Except McpHttpError Response :=
  if request.method = .options then .ok (preflight config request)
  else (next request).map (decorate config request)

/-- Any origin, or one of the list, as the configuration says. -/
def CorsConfig.Admits (config : CorsConfig) (origin : Str) : Prop :=
  match config.allowOrigins with
  | .any => True
  | .list allowed => origin ∈ allowed
  | .echo => True

/-- What the middleware asks of a preflight. -/
def Accepted (config : CorsConfig) (request : Request) : Prop :=
  match request.origin with
  | none => config.allowOrigins = .any ∧ config.allowCredentials = false
  | some origin => config.Admits origin ∧
      (∀ method ∈ request.requestedMethod, method ∈ config.allowMethods) ∧
      request.requestedHeaders ⊆ config.allowedNames

variable {config : CorsConfig}

theorem resolveAllowedOrigin_isSome_iff {origin : Str} :
    (resolveAllowedOrigin config origin).isSome = true ↔ config.Admits origin := by
  rw [resolveAllowedOrigin, CorsConfig.Admits]
  cases config.allowOrigins with
  | any => cases config.allowCredentials <;> simp
  | list allowed => by_cases horigin : origin ∈ allowed <;> simp [horigin]
  | echo => simp

/-- A preflight that is not accepted gets an error, and no other header. -/
theorem preflight_cases (config : CorsConfig) (request : Request) :
    (Accepted config request ∧ preflight config request =
        preflightResponse config (request.origin.getD wildcard)) ∨
      (¬ Accepted config request ∧ ∃ status payload, 400 ≤ status ∧
        preflight config request = buildResponse status payload) := by
  rw [preflight, Accepted]
  cases request.origin with
  | none =>
    dsimp only
    split
    · next hany => exact .inl ⟨hany, rfl⟩
    · next hnot => exact .inr ⟨hnot, 400, _, Nat.le_refl _, rfl⟩
  | some origin =>
    dsimp only
    split
    · next hnone =>
      refine .inr ⟨?_, 403, _, by decide, rfl⟩
      rintro ⟨hadmits, -, -⟩
      rw [← resolveAllowedOrigin_isSome_iff, isNone_iff_eq_none.mp hnone] at hadmits
      cases hadmits
    · next hsome =>
      rw [Bool.not_eq_true, isNone_eq_false_iff, resolveAllowedOrigin_isSome_iff] at hsome
      split
      · next hmethod =>
        obtain ⟨method, hrequested, hnot⟩ := hmethod
        refine .inr ⟨?_, 405, _, by decide, rfl⟩
        rintro ⟨-, hmethods, -⟩
        exact hnot (hmethods method hrequested)
      · next hmethod =>
        have hmethods : ∀ method ∈ request.requestedMethod,
            method ∈ config.allowMethods := by
          intro method hrequested
          by_contra hnot
          exact hmethod ⟨method, hrequested, hnot⟩
        split
        · next hheaders =>
          refine .inr ⟨?_, 400, _, Nat.le_refl _, rfl⟩
          rintro ⟨-, -, hsubset⟩
          exact hheaders hsubset
        · next hheaders =>
          exact .inl ⟨⟨hsome, hmethods, not_not.mp hheaders⟩, rfl⟩

theorem insertAllowed_values (config : CorsConfig) (origin : Str)
    {headers : HeaderList} (horigin : headers.values allowOriginHeader = [])
    (hcredentials : headers.values allowCredentialsHeader = []) :
    (insertAllowed config origin headers).values allowOriginHeader =
        (resolveAllowedOrigin config origin).toList ∧
      (insertAllowed config origin headers).values allowCredentialsHeader =
        config.credentials.toList := by
  have hne : allowOriginHeader ≠ allowCredentialsHeader := by decide
  constructor
  · rw [insertAllowed, HeaderList.values_insertOption_of_ne hne,
      HeaderList.values_insertOption_self, horigin]
    cases resolveAllowedOrigin config origin with
    | none | some => rfl
  · rw [insertAllowed, HeaderList.values_insertOption_self,
      HeaderList.values_insertOption_of_ne (Ne.symm hne), hcredentials]
    cases config.credentials with
    | none | some => rfl

/-- What a response says about the origin and the credentials. -/
structure Allows (response : Response) (origins credentials : List Str) :
    Prop where
  origins : response.headers.values allowOriginHeader = origins
  credentials : response.headers.values allowCredentialsHeader = credentials

theorem preflightResponse_allows (config : CorsConfig) (origin : Str) :
    Allows (preflightResponse config origin) (resolveAllowedOrigin config origin).toList
      config.credentials.toList := by
  have hnone : HeaderList.values [] allowOriginHeader = [] := rfl
  obtain ⟨horigins, hcredentials⟩ := insertAllowed_values config origin hnone rfl
  constructor
  · rw [← horigins, preflightResponse,
      HeaderList.values_insert_of_ne (by decide),
      HeaderList.values_insert_of_ne (by decide),
      HeaderList.values_insertOption_of_ne (by decide)]
  · rw [← hcredentials, preflightResponse,
      HeaderList.values_insert_of_ne (by decide),
      HeaderList.values_insert_of_ne (by decide),
      HeaderList.values_insertOption_of_ne (by decide)]

theorem addCorsToResponse_allows (config : CorsConfig) (origin : Str)
    {resp : Response} (hresp : Allows resp [] []) :
    Allows (addCorsToResponse config resp origin) (resolveAllowedOrigin config origin).toList
      config.credentials.toList := by
  obtain ⟨horigins, hcredentials⟩ :=
    insertAllowed_values config origin hresp.origins hresp.credentials
  constructor
  · rw [← horigins, addCorsToResponse, HeaderList.values_insertOption_of_ne (by decide)]
  · rw [← hcredentials, addCorsToResponse, HeaderList.values_insertOption_of_ne (by decide)]

theorem buildResponse_allows (status : Nat) (payload : Str) :
    Allows (buildResponse status payload) [] [] :=
  ⟨rfl, rfl⟩

/-- The response to the request gets CORS headers. -/
def Decorated (config : CorsConfig) (request : Request) : Prop :=
  if request.method = .options then Accepted config request
  else ∃ origin, request.origin = some origin ∧ config.Admits origin

theorem handle_allows {request : Request} {next : Request → Except McpHttpError Response}
    {response : Response} (hresponse : handle config request next = .ok response)
    (hnext : ∀ resp, next request = .ok resp → Allows resp [] []) :
    (Decorated config request ∧ Allows response
        (resolveAllowedOrigin config (request.origin.getD wildcard)).toList
        config.credentials.toList) ∨ (¬ Decorated config request ∧ Allows response [] []) := by
  rw [handle] at hresponse
  rw [Decorated]
  split at hresponse
  · next hoptions =>
    cases hresponse
    rw [if_pos hoptions]
    rcases preflight_cases config request with
      ⟨haccepted, heq⟩ | ⟨hnot, status, payload, -, heq⟩
    · rw [heq]
      exact .inl ⟨haccepted, preflightResponse_allows config _⟩
    · rw [heq]
      exact .inr ⟨hnot, buildResponse_allows status payload⟩
  · next hother =>
    rw [if_neg hother]
    cases hcalled : next request with
    | error error =>
      rw [hcalled] at hresponse
      cases hresponse
    | ok resp =>
      rw [hcalled] at hresponse
      cases hresponse
      have hplain := hnext resp hcalled
      rw [decorate]
      cases request.origin with
      | none =>
        refine .inr ⟨?_, hplain⟩
        rintro ⟨origin, hnone, -⟩
        cases hnone
      | some origin =>
        dsimp only
        split
        · next hsome =>
          refine .inl ⟨⟨origin, rfl, ?_⟩, ?_⟩
          · exact resolveAllowedOrigin_isSome_iff.mp hsome
          · exact addCorsToResponse_allows config origin hplain
        · next hnone =>
          refine .inr ⟨?_, hplain⟩
          rintro ⟨other, heq, hadmits⟩
          cases heq
          exact hnone (resolveAllowedOrigin_isSome_iff.mpr hadmits)

/-- No wildcard with credentials, and otherwise the wildcard of an open policy,
or the origin if it is admitted. -/
structure Safe (config : CorsConfig) (request : Request)
    (response : Response) : Prop where
  credentials : ¬ (trueText ∈ response.headers.values allowCredentialsHeader ∧
    wildcard ∈ response.headers.values allowOriginHeader)
  origin : ∀ value ∈ response.headers.values allowOriginHeader,
    config.allowOrigins = .any ∨ (request.origin = some value ∧ config.Admits value)

theorem resolveAllowedOrigin_of_admits {origin : Str} (hadmits : config.Admits origin) :
    resolveAllowedOrigin config origin = some origin ∨
      (resolveAllowedOrigin config origin = some wildcard ∧
        config.allowOrigins = .any ∧ config.allowCredentials = false) := by
  rw [resolveAllowedOrigin]
  rw [CorsConfig.Admits] at hadmits
  cases horigins : config.allowOrigins with
  | any =>
    cases config.allowCredentials with
    | true => exact .inl rfl
    | false => exact .inr ⟨rfl, rfl, rfl⟩
  | list allowed =>
    rw [horigins] at hadmits
    exact .inl (if_pos (contains_iff_mem.mpr hadmits))
  | echo => exact .inl rfl

theorem mem_credentials_iff :
    trueText ∈ config.credentials.toList ↔ config.allowCredentials = true := by
  rw [CorsConfig.credentials]
  cases config.allowCredentials with
  | true | false => simp

theorem Decorated.admits {request : Request} (hdecorated : Decorated config request)
    {origin : Str} (horigin : request.origin = some origin) : config.Admits origin := by
  rw [Decorated] at hdecorated
  split at hdecorated
  · rw [Accepted, horigin] at hdecorated
    exact hdecorated.1
  · obtain ⟨other, hother, hadmits⟩ := hdecorated
    cases horigin.symm.trans hother
    exact hadmits

theorem Decorated.open_of_none {request : Request}
    (hdecorated : Decorated config request) (horigin : request.origin = none) :
    config.allowOrigins = .any ∧ config.allowCredentials = false := by
  rw [Decorated] at hdecorated
  split at hdecorated
  · rw [Accepted, horigin] at hdecorated
    exact hdecorated
  · obtain ⟨other, hother, -⟩ := hdecorated
    cases horigin.symm.trans hother

/-- Where the next handler sets no CORS headers: those of the response are safe
exactly when there are no credentials, or the origin is not the wildcard, or
none are added. -/
theorem handle_safe_iff {config : CorsConfig} {request : Request}
    {next : Request → Except McpHttpError Response} {response : Response}
    (hresponse : handle config request next = .ok response)
    (hnext : ∀ resp, next request = .ok resp → Allows resp [] []) :
    Safe config request response ↔
      ¬ (config.allowCredentials = true ∧ request.origin = some wildcard ∧
        Decorated config request) := by
  rcases handle_allows hresponse hnext with
    ⟨hdecorated, horigins, hcredentials⟩ | ⟨hnot, horigins, hcredentials⟩
  · cases horigin : request.origin with
    | none =>
      obtain ⟨hany, hclosed⟩ := hdecorated.open_of_none horigin
      refine iff_of_true ⟨?_, fun _ _ => .inl hany⟩ (by simp)
      rintro ⟨htrue, -⟩
      rw [hcredentials, mem_credentials_iff, hclosed] at htrue
      cases htrue
    | some origin =>
      have hadmits := hdecorated.admits horigin
      rw [horigin, getD_some] at horigins
      rcases resolveAllowedOrigin_of_admits hadmits with
        hecho | ⟨hwildcard, hany, hclosed⟩
      · rw [hecho, toList_some] at horigins
        constructor
        · rintro hsafe ⟨hopen, heq, -⟩
          refine hsafe.credentials ⟨?_, ?_⟩
          · rw [hcredentials]
            exact mem_credentials_iff.mpr hopen
          · rw [horigins, Option.some.inj heq]
            exact mem_singleton_self _
        · intro hnot
          refine ⟨?_, ?_⟩
          · rintro ⟨htrue, hmem⟩
            rw [hcredentials, mem_credentials_iff] at htrue
            rw [horigins, mem_singleton] at hmem
            exact hnot ⟨htrue, congrArg some hmem.symm, hdecorated⟩
          · intro value hvalue
            rw [horigins, mem_singleton] at hvalue
            subst hvalue
            exact .inr ⟨horigin, hadmits⟩
      · refine iff_of_true ⟨?_, fun _ _ => .inl hany⟩ (by simp [hclosed])
        rintro ⟨htrue, -⟩
        rw [hcredentials, mem_credentials_iff, hclosed] at htrue
        cases htrue
  · refine iff_of_true ⟨?_, ?_⟩ (fun hall => hnot hall.2.2)
    · rintro ⟨htrue, -⟩
      rw [hcredentials] at htrue
      cases htrue
    · intro value hvalue
      rw [horigins] at hvalue
      cases hvalue

namespace CorsWitness

def request (origin : Str) : Request :=
  ⟨.get, "/mcp", ⟨[(originHeader, some origin)]⟩, []⟩

def next : Request → Except McpHttpError Response :=
  fun _ => .ok (buildResponse 200 [])

/-- The response to the wildcard as origin under the permissive configuration. -/
def echoed : Response :=
  decorate .permissive (request wildcard) (buildResponse 200 [])

/-- The response has the wildcard and allows credentials. -/
theorem wildcard_with_credentials :
    handle .permissive (request wildcard) next = .ok echoed ∧
      (buildResponse 200 []).headers.values allowOriginHeader = [] ∧
      (buildResponse 200 []).headers.values allowCredentialsHeader = [] ∧
      echoed.headers.values allowOriginHeader = [wildcard] ∧
      echoed.headers.values allowCredentialsHeader = [trueText] :=
  ⟨rfl, rfl, rfl, by decide +kernel, by decide +kernel⟩

theorem handle_safe_default :
    Safe .default (request "a") (decorate .default
      (request "a") (buildResponse 200 [])) := by
  have hresponse : handle .default (request "a") next =
      .ok (decorate .default (request "a") (buildResponse 200 [])) :=
    rfl
  have hnext : ∀ resp, next (request "a") = .ok resp →
      Allows resp [] [] := by
    intro resp hresp
    cases hresp
    exact buildResponse_allows 200 []
  refine (handle_safe_iff hresponse hnext).mpr ?_
  rintro ⟨hcredentials, -, -⟩
  cases hcredentials

end CorsWitness

end Cors

end McpSdk
