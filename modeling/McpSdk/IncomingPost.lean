/-
A POST on an existing session. A body of results goes to the standalone
transport, any other body to a transport of its own, which knows no pending
requests.
-/
import Mathlib.Data.List.Perm.Subperm
import McpSdk.CappedLine
import McpSdk.HandleMessage

namespace McpSdk.IncomingPost

open List Option
open HandleMessage

universe u v w

variable {ι : Type u} {β : Type v} {ε : Type w}

inductive Json where
  | null
  | bool (value : Bool)
  | number (text : Str)
  | string (text : Str)
  | array (items : List Json)
  | object (fields : List (Str × Json))

namespace Json

def containsKey (key : Str) : Json → Bool
  | .object fields => fields.any fun field => field.1 = key
  | _ => false

/-- The test of `is_result`, which an empty array passes. -/
def isResult : Json → Bool
  | .array items => items.all (containsKey "result")
  | value => value.containsKey "result"

def isRequest (value : Json) : Bool :=
  value.containsKey "id" && value.containsKey "method"

def containsRequest : Json → Bool
  | .array items => items.any isRequest
  | value => value.isRequest

end Json

/-- The server: its runtime, what it makes of a text, and its options. -/
structure Server (ι : Type u) (β : Type v) (ε : Type w) where
  runtime : Runtime ι β ε
  parse : Str → Option Json
  clientMessage : Json → Option (ClientMessage ι β)
  enableJsonResponse : Bool
  maxLineLength : Nat

namespace Server

def isResult (self : Server ι β ε) (payload : Str) : Option Bool :=
  (self.parse payload).map Json.isResult

def containsRequest (self : Server ι β ε) (payload : Str) : Option Bool :=
  (self.parse payload).map Json.containsRequest

/-- A text as `ClientMessages`: one message, or else an array of them. -/
def clientMessages (self : Server ι β ε) (text : Str) : Option (ClientMessages ι β) :=
  (self.parse text).bind fun value =>
    match self.clientMessage value, value with
    | some message, _ => some (.single message)
    | none, .array items => (items.mapM self.clientMessage).map .batch
    | none, _ => none

/-- What the reader makes of one line; other lines are skipped. -/
def readMessages (self : Server ι β ε) : LineRead → Option (ClientMessages ι β)
  | .line text => self.clientMessages text
  | _ => none

/-- The items that the reader of a transport gives out for some input. -/
def received (self : Server ι β ε) (chunks : List Bytes) : List (ClientMessages ι β) :=
  (readLines self.maxLineLength chunks.flatten.length chunks).filterMap
    self.readMessages

theorem readMessages_cappedLine_iff {self : Server ι β ε} {line : Bytes}
    {messages : ClientMessages ι β} :
    self.readMessages (cappedLine self.maxLineLength line) = some messages ↔
      line.length ≤ self.maxLineLength ∧
        self.clientMessages (lineToString line) = some messages := by
  unfold cappedLine
  split
  · next hfits => simp [readMessages, hfits]
  · next hlong => simp [readMessages, hlong]

end Server

/-- How a transport handles a body: its bytes come in some chunks, each item
starts a task, the tasks run in any order, and an error can stop the loop. -/
structure Delivery (server : Server ι β ε) (body : Str) where
  chunks : List Bytes
  chunks_ne_nil : [] ∉ chunks
  chunks_flatten : chunks.flatten = Utf8.encode (body ++ ['\n'])
  tasks : List (ClientMessages ι β)
  tasks_received : tasks.Subperm (server.received chunks)
  first_mem : ∀ {messages}, (server.received chunks).head? = some messages → messages ∈ tasks

namespace Delivery

theorem received_of_line {server : Server ι β ε} {body : Str}
    (self : Delivery server body) (hline : '\n' ∉ body) :
    server.received self.chunks = (server.readMessages
      (cappedLine server.maxLineLength (Utf8.encode body))).toList := by
  have hflatten : self.chunks.flatten = Utf8.encode body ++ [newline] := by
    rw [self.chunks_flatten, Utf8.encode_append]
    rfl
  have hbytes : newline ∉ Utf8.encode body :=
    @Utf8.ascii_not_mem_encode _ _ '\n' (by decide) rfl hline
  have hread : readLines server.maxLineLength self.chunks.flatten.length
      self.chunks =
        [cappedLine server.maxLineLength (Utf8.encode body)] := by
    refine @readLines_eq_map _ _ _ [Utf8.encode body] self.chunks_ne_nil ?_ ?_ ?_
    · simpa using hbytes
    · simpa using hflatten
    · simp [hflatten]
  rw [Server.received, hread, filterMap_cons]
  split
  · next hnone => simp [hnone]
  · next messages hsome => simp [hsome]

theorem tasks_of_line {server : Server ι β ε} {body : Str}
    (self : Delivery server body) (hline : '\n' ∉ body) :
    self.tasks = (server.readMessages
      (cappedLine server.maxLineLength (Utf8.encode body))).toList := by
  have hsubperm := self.tasks_received
  have hfirst := @self.first_mem
  rw [self.received_of_line hline] at hsubperm hfirst
  cases hread : server.readMessages
      (cappedLine server.maxLineLength (Utf8.encode body)) with
  | none =>
    rw [hread] at hsubperm
    exact subperm_nil.mp hsubperm
  | some messages =>
    rw [hread] at hsubperm hfirst
    rcases subperm_singleton_iff.mp hsubperm with hnil | hone
    · have hmem := hfirst rfl
      rw [hnil] at hmem
      cases hmem
    · exact hone

/-- The body arrives at once, and its items are handled in their order. -/
def whole (server : Server ι β ε) (body : Str) : Delivery server body where
  chunks := [Utf8.encode (body ++ ['\n'])]
  chunks_ne_nil := by simp [Utf8.encode_append, String.utf8EncodeChar]
  chunks_flatten := append_nil _
  tasks := server.received [Utf8.encode (body ++ ['\n'])]
  tasks_received := List.Subperm.refl _
  first_mem := mem_of_mem_head?

end Delivery

/-- A session with its standalone transport, also after it was shut down. -/
structure Session (ι : Type u) (β : Type v) where
  transportMap : Option (Transport ι β)

structure AppState (ι : Type u) (β : Type v) where
  sessions : AList fun _ : Str => Session ι β

inductive ConsumeError where
  | noStream
  | brokenPipe
deriving Repr, DecidableEq

/-- An event stream is 202 when the body has no request; in JSON mode the first
line that is written is the body. -/
inductive PostResponse where
  | sessionNotFound
  | parseError
  | consumed
  | consumeError (error : ConsumeError)
  | eventStream (containsRequest : Bool)
  | singleShot
deriving Repr, DecidableEq

/-- The response to a POST and the new state; a transport of its own is dropped. -/
structure Posted (ι : Type u) (β : Type v) where
  response : PostResponse
  state : AppState ι β
  fresh : Option (Transport ι β)

def AppState.standalone (self : AppState ι β) (sessionId : Str) : Option (Transport ι β) :=
  (self.sessions.lookup sessionId).bind (·.transportMap)

variable [DecidableEq ι]

/-- `start_stream` on a transport of the POST returns after the first item. -/
def startStream (server : Server ι β ε) {body : Str}
    (delivery : Delivery server body) : Transport ι β :=
  server.runtime.handleAll .new ((server.received delivery.chunks).take 1)

def createSseStream (server : Server ι β ε) (state : AppState ι β)
    {body : Str} (delivery : Delivery server body) : Posted ι β :=
  match server.containsRequest body with
  | none => ⟨.parseError, state, none⟩
  | some containsRequest =>
    ⟨.eventStream containsRequest, state, some (startStream server delivery)⟩

/-- `consume_payload_string`: after a shut down the reader is gone. -/
def Session.consumePayloadString (self : Session ι β) (server : Server ι β ε) {body : Str}
    (delivery : Delivery server body) : Except ConsumeError (Session ι β) :=
  match self.transportMap with
  | none => .error .noStream
  | some transport =>
    if transport.isShutDown then .error .brokenPipe
    else .ok ⟨some (server.runtime.handleAll transport delivery.tasks)⟩

def processIncomingMessage (server : Server ι β ε) (state : AppState ι β) (sessionId : Str)
    {body : Str} (delivery : Delivery server body) : Posted ι β :=
  match state.sessions.lookup sessionId with
  | none => ⟨.sessionNotFound, state, none⟩
  | some session =>
    match server.isResult body with
    | none => ⟨.parseError, state, none⟩
    | some true =>
      match session.consumePayloadString server delivery with
      | .ok session =>
        ⟨.consumed, ⟨state.sessions.insert sessionId session⟩, none⟩
      | .error error => ⟨.consumeError error, state, none⟩
    | some false => createSseStream server state delivery

/-- The JSON mode: `single_shot_stream` makes a transport for each body. -/
def processIncomingMessageReturn (server : Server ι β ε) (state : AppState ι β) (sessionId : Str)
    {body : Str} (delivery : Delivery server body) : Posted ι β :=
  match state.sessions.lookup sessionId with
  | none => ⟨.sessionNotFound, state, none⟩
  | some _ => ⟨.singleShot, state, some (startStream server delivery)⟩

/-- The part of `handle_http_post` for a request with a session id. -/
def handleHttpPost (server : Server ι β ε) (state : AppState ι β) (sessionId : Str) {body : Str}
    (delivery : Delivery server body) : Posted ι β :=
  if server.enableJsonResponse then
    processIncomingMessageReturn server state sessionId delivery
  else processIncomingMessage server state sessionId delivery

/-- The request that waited under the id has received the response. -/
def Resolves (before after : AppState ι β) (sessionId : Str) (id : ι)
    (response : ClientMessage ι β) : Prop :=
  ∃ transport next, before.standalone sessionId = some transport ∧
    after.standalone sessionId = some next ∧
    (id, response) ∈ next.since transport ∧
    next.pendingRequests.lookup id = none

/-- The message of the POST goes to the standalone stream. -/
def Routed (server : Server ι β ε) (transport : Transport ι β) (body : Str) : Prop :=
  server.enableJsonResponse = false ∧ server.isResult body = some true ∧
    transport.isShutDown = false

variable {sessionId body : Str}

theorem handleHttpPost_of_routed {server : Server ι β ε} {state : AppState ι β}
    {transport : Transport ι β} (hstandalone : state.standalone sessionId = some transport)
    (hrouted : Routed server transport body) (delivery : Delivery server body) :
    (handleHttpPost server state sessionId delivery).state.standalone sessionId =
      some (server.runtime.handleAll transport delivery.tasks) := by
  obtain ⟨hmode, hresult, hlive⟩ := hrouted
  obtain ⟨session, hsession, htransport⟩ := bind_eq_some_iff.mp hstandalone
  simp [handleHttpPost, processIncomingMessage, hmode, hresult, hlive,
    hsession, Session.consumePayloadString, htransport, AppState.standalone]

theorem handleHttpPost_of_not_routed {server : Server ι β ε} {state : AppState ι β}
    {transport : Transport ι β} (hstandalone : state.standalone sessionId = some transport)
    (hrouted : ¬ Routed server transport body) (delivery : Delivery server body) :
    (handleHttpPost server state sessionId delivery).state = state := by
  obtain ⟨session, hsession, htransport⟩ := bind_eq_some_iff.mp hstandalone
  unfold handleHttpPost
  split
  · rw [processIncomingMessageReturn, hsession]
  · next hmode =>
    rw [processIncomingMessage, hsession]
    cases hresult : server.isResult body with
    | none => rfl
    | some result =>
      cases result with
      | true =>
        have hshut : transport.isShutDown = true := by
          simpa [Routed, hmode, hresult] using hrouted
        simp [Session.consumePayloadString, htransport, hshut]
      | false =>
        simp only [createSseStream]
        split
        · rfl
        · rfl

theorem resolves_handleHttpPost {server : Server ι β ε} {state : AppState ι β}
    {transport : Transport ι β} (hstandalone : state.standalone sessionId = some transport)
    (delivery : Delivery server body) (id : ι) (response : ClientMessage ι β) :
    Resolves state (handleHttpPost server state sessionId delivery).state sessionId id response ↔
      Routed server transport body ∧ (id, response) ∈
        (server.runtime.handleAll transport delivery.tasks).since transport := by
  constructor
  · rintro ⟨first, next, hfirst, hnext, hsince, -⟩
    cases hstandalone.symm.trans hfirst
    by_cases hrouted : Routed server transport body
    · rw [handleHttpPost_of_routed hstandalone hrouted] at hnext
      cases hnext
      exact ⟨hrouted, hsince⟩
    · rw [handleHttpPost_of_not_routed hstandalone hrouted, hfirst] at hnext
      cases hnext
      rw [Transport.since_self] at hsince
      cases hsince
  · rintro ⟨hrouted, hsince⟩
    have hadvances := server.runtime.handleAll_advances transport delivery.tasks
    exact ⟨transport, _, hstandalone, handleHttpPost_of_routed hstandalone hrouted delivery, hsince,
      (hadvances.since hsince).2⟩

/-- A one-line body resolves a request just when it goes to the standalone
transport, is not too long, and nothing before the response stops the batch or
takes its place. -/
theorem resolves_iff_of_line {server : Server ι β ε} {state : AppState ι β}
    {transport : Transport ι β} {id : ι} {response : ClientMessage ι β}
    (hstandalone : state.standalone sessionId = some transport)
    (hwaits : transport.Waits id) (hanswers : response.answers = some id)
    (hline : '\n' ∉ body) (delivery : Delivery server body) :
    Resolves state (handleHttpPost server state sessionId delivery).state sessionId id response ↔
      Routed server transport body ∧ server.runtime.accepts response = true ∧
        (Utf8.encode body).length ≤ server.maxLineLength ∧ ∃ messages, server.clientMessages
            (lineToString (Utf8.encode body)) = some messages ∧
          server.runtime.Reaches transport id response messages.toList := by
  rw [resolves_handleHttpPost hstandalone, Runtime.handleAll_resolves_iff hwaits hanswers,
    delivery.tasks_of_line hline, Runtime.reachesIn_toList hwaits]
  simp only [Server.readMessages_cappedLine_iff, and_assoc, exists_and_left]

namespace IncomingPostWitness

def resultText : Str :=
  "\x7b\"jsonrpc\":\"2.0\",\"id\":1,\"result\":\x7b\x7d\x7d"

def errorText : Str :=
  "\x7b\"jsonrpc\":\"2.0\",\"id\":1,\"error\":\x7b\"code\":-1\x7d\x7d"

def mixedText : Str :=
  "[" ++ resultText ++ ",\x7b\"jsonrpc\":\"2.0\",\"method\":\"m\"\x7d]"

def message (id : Option Str) (key : Str) (value : Json) : Json :=
  .object (("jsonrpc".toList, .string "2.0".toList) ::
    (id.map fun text => ("id".toList, Json.number text)).toList ++ [(key, value)])

def resultValue : Json :=
  message (some "1") "result" (.object [])

def errorValue : Json :=
  message (some "1") "error"
    (.object [("code", .number "-1")])

def notificationValue : Json :=
  message none "method" (.string "m")

def server (enableJsonResponse : Bool) : Server Nat Unit Unit where
  runtime := ⟨fun _ _ => .ok (), fun _ => .ok (), fun _ => .ok (), true⟩
  parse text :=
    if text = resultText then some resultValue
    else if text = errorText then some errorValue
    else if text = mixedText then
      some (.array [resultValue, notificationValue])
    else none
  clientMessage value :=
    if value.containsKey "method" then some (.notification ())
    else if value.containsKey "result" then some (.response 1 ())
    else if value.containsKey "error" then some (.error (some 1) ())
    else none
  enableJsonResponse
  maxLineLength := 1000

def transport : Transport Nat Unit :=
  ⟨AList.singleton 1 .waiting, false, []⟩

def state : AppState Nat Unit :=
  ⟨AList.singleton "s1" ⟨some transport⟩⟩

theorem standalone_state : state.standalone "s1" = some transport :=
  rfl

theorem transport_waits : transport.Waits 1 :=
  rfl

end IncomingPostWitness

end McpSdk.IncomingPost
