/-
A POST of the streamable HTTP transport, from its headers on: to the session
that it names, or to a new one if its body passes the test for an initialize
request.
-/
import McpSdk.IncomingPost
import McpSdk.StandaloneStream

namespace McpSdk.HttpPost

open HandleMessage
open IncomingPost (Server)

universe u v w

variable {ι : Type u} {β : Type v} {ε : Type w}

def contentTypeHeader : Str := "content-type"

def headerText (headers : HeaderMap) (name : Str) : Str :=
  ((headers.get name).getD none).getD []

def validStreamingHttpAcceptHeader (headers : HeaderMap) : Bool :=
  let types := (RustStr.split [','] (headerText headers acceptHeader)).map
    RustStr.trim
  let hasEventStream := types.any ("text/event-stream".toList.isPrefixOf ·)
  let hasJson := types.any ("application/json".toList.isPrefixOf ·)
  hasEventStream && hasJson

def acceptableContentType (headers : HeaderMap) : Bool :=
  (RustStr.split [','] (headerText headers contentTypeHeader)).any fun val =>
    "application/json".toList.isPrefixOf (RustStr.trim val)

inductive ErrorCode where
  | badRequest
  | invalidRequest
deriving Repr, DecidableEq

structure ErrorBody where
  code : ErrorCode
  message : Str
deriving Repr, DecidableEq

/-- What becomes of a POST: an error, a message for a session, or a new session. -/
inductive Outcome where
  | error (status : Nat) (body : ErrorBody)
  | incoming (sessionId payload : Str)
  | startNewSession (payload : Str)
deriving Repr, DecidableEq

/-- An initialize request; the schema knows it by its method. -/
def isInitializeRequest (isInitialize : β → Bool) : ClientMessage ι β → Bool
  | .request _ params => isInitialize params
  | _ => false

def validInitializeMethod (server : Server ι β ε) (isInitialize : β → Bool)
    (payload : Str) : Except ErrorBody Unit :=
  match server.clientMessages payload with
  | none => .error ⟨.badRequest, "Bad Request: Session not found"⟩
  | some (.single message) =>
    if isInitializeRequest isInitialize message then .ok ()
    else .error ⟨.badRequest, "Bad Request: Session not found"⟩
  | some (.batch messages) =>
    if messages.countP (isInitializeRequest isInitialize) > 1 then
      .error ⟨.invalidRequest, "Bad Request: Only one initialization request is allowed"⟩
    else .ok ()

/-- The body is an initialize request, or a batch with exactly one. -/
def Initializes (server : Server ι β ε) (isInitialize : β → Bool) (payload : Str) : Prop :=
  (∃ message, server.clientMessages payload = some (.single message) ∧
      isInitializeRequest isInitialize message = true) ∨
    ∃ messages, server.clientMessages payload = some (.batch messages) ∧
      messages.countP (isInitializeRequest isInitialize) = 1

/-- The headers pass the checks made before the body is read. -/
def HeadersPass (checks : HttpChecks) (headers : HeaderMap) : Prop :=
  validStreamingHttpAcceptHeader headers = true ∧
    acceptableContentType headers = true ∧
    validateMcpProtocolVersionHeader checks headers = .ok ()

theorem validInitializeMethod_ok_iff {server : Server ι β ε}
    {isInitialize : β → Bool} {payload : Str} :
    validInitializeMethod server isInitialize payload = .ok () ↔
      Initializes server isInitialize payload ∨
        ∃ messages, server.clientMessages payload = some (.batch messages) ∧
          messages.countP (isInitializeRequest isInitialize) = 0 := by
  unfold validInitializeMethod Initializes
  cases hmessages : server.clientMessages payload with
  | none => simp
  | some messages =>
    cases messages with
    | single message =>
      cases hinit : isInitializeRequest isInitialize message with
      | true | false => simp [hinit]
    | batch messages =>
      simp only [Option.some.injEq, reduceCtorEq, false_and, exists_false,
        false_or, ClientMessages.batch.injEq, exists_eq_left']
      split
      · next hmany => simp only [reduceCtorEq, false_iff]; omega
      · next hfew => simp only [true_iff]; omega

/-- `handle_http_post` up to its last call (see `IncomingPost.handleHttpPost`). -/
def handleHttpPost (checks : HttpChecks) (server : Server ι β ε) (isInitialize : β → Bool)
    (headers : HeaderMap) (payload : Str) : Outcome :=
  if !validStreamingHttpAcceptHeader headers then
    .error 406 ⟨.badRequest, "Client must accept both application/json and text/event-stream"⟩
  else if !acceptableContentType headers then
    .error 415 ⟨.badRequest, "Unsupported Media Type: Content-Type must be application/json"⟩
  else match validateMcpProtocolVersionHeader checks headers with
  | .error parseError =>
    .error 400 ⟨.badRequest, "Bad Request: " ++ parseError⟩
  | .ok () =>
    match parseSessionIdHeader headers mcpSessionIdHeader with
    | .error msg =>
      .error 400 ⟨.badRequest, "Invalid Mcp-Session-Id header: " ++ msg⟩
    | .ok (some id) => .incoming id payload
    | .ok none =>
      match validInitializeMethod server isInitialize payload with
      | .ok () => .startNewSession payload
      | .error error => .error 400 error

/-- Without a session id, `start_new_session` is called just when headers and body pass. -/
theorem handleHttpPost_startNewSession_iff {checks : HttpChecks}
    {server : Server ι β ε} {isInitialize : β → Bool} {headers : HeaderMap}
    {body : Str} (hsession : headers.get mcpSessionIdHeader = none) :
    handleHttpPost checks server isInitialize headers body = .startNewSession body ↔
      HeadersPass checks headers ∧ validInitializeMethod server isInitialize body = .ok () := by
  have hparse : parseSessionIdHeader headers mcpSessionIdHeader = .ok none := by
    rw [parseSessionIdHeader, hsession]
  unfold handleHttpPost HeadersPass
  rw [hparse]
  cases haccept : validStreamingHttpAcceptHeader headers with
  | false => simp
  | true =>
    cases hcontent : acceptableContentType headers with
    | false => simp
    | true =>
      cases hversion : validateMcpProtocolVersionHeader checks headers with
      | error err => simp
      | ok _ =>
        cases hvalid : validInitializeMethod server isInitialize body with
        | error | ok => simp

/-- For every POST without a session id: only an initialize request, or a batch
with exactly one, starts a session, exactly when the body is no batch without
one. -/
theorem startNewSession_only_initialize_iff (checks : HttpChecks)
    (server : Server ι β ε) (isInitialize : β → Bool) (headers : HeaderMap)
    (body : Str) (hsession : headers.get mcpSessionIdHeader = none) :
    (handleHttpPost checks server isInitialize headers body =
        .startNewSession body → Initializes server isInitialize body) ↔
      (HeadersPass checks headers → ∀ messages,
        server.clientMessages body = some (.batch messages) → ∃ message ∈ messages,
            isInitializeRequest isInitialize message = true) := by
  rw [handleHttpPost_startNewSession_iff hsession, validInitializeMethod_ok_iff]
  constructor
  · intro honly hpass messages hmessages
    by_contra hnone
    have hzero : messages.countP (isInitializeRequest isInitialize) = 0 :=
      List.countP_eq_zero.mpr fun message hmem hinit =>
        hnone ⟨message, hmem, hinit⟩
    rcases honly ⟨hpass, .inr ⟨messages, hmessages, hzero⟩⟩ with
      ⟨message, hsingle, -⟩ | ⟨others, hothers, hone⟩
    · cases hmessages.symm.trans hsingle
    · cases hmessages.symm.trans hothers
      omega
  · rintro hsome ⟨hpass, hinitializes | ⟨messages, hmessages, hzero⟩⟩
    · exact hinitializes
    · obtain ⟨message, hmem, hinit⟩ := hsome hpass messages hmessages
      exact absurd hinit (List.countP_eq_zero.mp hzero message hmem)

namespace HttpPostWitness

def checks : HttpChecks :=
  ⟨fun _ => .ok (), fun _ => .ok ()⟩

def headers : HeaderMap :=
  ⟨[(acceptHeader, some "application/json, text/event-stream"),
    (contentTypeHeader, some "application/json")]⟩

def server : Server Nat Bool Unit where
  runtime := ⟨fun _ params => .ok params, fun _ => .ok (), fun _ => .ok (), false⟩
  parse text :=
    if text = "[]" then some (.array [])
    else if text = "[ping]" then
      some (.array [.object [("method", .string "ping")]])
    else if text = "initialize" then
      some (.object [("method", .string "initialize")])
    else none
  clientMessage value :=
    match value with
    | .object [(_, .string method)] =>
      some (.request 1 (method = "initialize"))
    | _ => none
  enableJsonResponse := false
  maxLineLength := 1000

theorem batch_startNewSession :
    headers.get mcpSessionIdHeader = none ∧
      ¬ (handleHttpPost checks server id headers "[]" = .startNewSession "[]" →
        Initializes server id "[]") ∧
      ¬ (handleHttpPost checks server id headers "[ping]" = .startNewSession "[ping]" →
        Initializes server id "[ping]") := by
  refine ⟨by decide, fun honly => ?_, fun honly => ?_⟩
  · rcases honly rfl with ⟨message, hsingle, -⟩ | ⟨messages, hbatch, hone⟩
    · cases hsingle
    · cases hbatch
      cases hone
  · rcases honly rfl with ⟨message, hsingle, -⟩ | ⟨messages, hbatch, hone⟩
    · cases hsingle
    · cases hbatch
      cases hone

theorem initialize_startNewSession :
    handleHttpPost checks server id headers "initialize" = .startNewSession "initialize" ∧
      Initializes server id "initialize" := by
  refine ⟨rfl, (startNewSession_only_initialize_iff checks server id headers
    "initialize" (by decide)).mpr ?_ rfl⟩
  intro _ messages hbatch
  cases hbatch

end HttpPostWitness

end McpSdk.HttpPost
