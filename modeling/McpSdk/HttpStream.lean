/-
The client's streamable HTTP stream: POSTs, their event streams, the standalone
stream, and the GETs that take up a lost stream again. The session id and the id
of the last event are remembered.
-/
import McpSdk.HttpUtils
import McpSdk.StandaloneStream
import McpSdk.StartStream

namespace McpSdk.HttpStream

open List Option
open StartStream (TransportError validateResponseType headerToStr)

/-- The two loops that read events: behind a POST, and of the standalone stream. -/
inductive Loop where
  | run
  | runStandalone
deriving Repr, DecidableEq

structure Client where
  http : HttpCrate
  customHeaders : Option HeaderList
  maxRetries : Nat
  retryDelay : Nat

structure Response where
  status : Nat
  contentType : Option Bytes
  mcpSessionId : Option Bytes
deriving Repr, DecidableEq

def Response.sessionId (self : Response) : Option Str :=
  self.mcpSessionId.bind headerToStr

/-- What `http_post` and `http_get` make of a reply or a failed connection. -/
def httpReply : Except Str Response → Except TransportError Response
  | .error text => .error (.httpConnection text)
  | .ok response =>
    if 200 ≤ response.status ∧ response.status < 300 then .ok response
    else .error (.http response.status)

def baseHeaders : HeaderList :=
  [("content-type", "application/json"), ("accept", "application/json, text/event-stream")]

/-- The headers of a request; a session id that is no header value panics. -/
def httpHeaders (http : HttpCrate) (sessionId : Option Str)
    (headers : Option HeaderList) : Option HeaderList :=
  let request := headers.elim baseHeaders baseHeaders.replace
  match sessionId with
  | none => some request
  | some id =>
    match http.headerValue id with
    | .ok () => some (request ++ [(mcpSessionIdHeader, id)])
    | .error _ => none

/-- The headers with which `make_standalone_stream_connection` connects. -/
def connectionHeaders (client : Client) (lastEventId : Option Str) : Option HeaderList :=
  match lastEventId with
  | some eventId =>
    let headers : HeaderList := client.customHeaders.getD []
    match client.http.headerValue eventId with
    | .ok () => some (headers.insert mcpLastEventIdHeader eventId)
    | .error _ => some headers
  | none => client.customHeaders

/-- At the next chunk, asleep before a reconnect, connecting with the session id
that was read, or at the end. -/
inductive Phase where
  | reading
  | sleeping (delay : Nat)
  | connecting (sessionId : Option Str) (headers : Option HeaderList) (retryCount : Nat)
  | returned (result : Except TransportError Unit)
  | cancelled
  | panicked
deriving DecidableEq

/-- A call of one of the loops: its variables, the chunks and events of the
connection, all events, and the data sent on. -/
structure Call where
  loop : Loop
  streamParser : SseParser
  lastEventId : Option Str
  sseRetryDelay : Option Nat
  hasPrimingEvent : Bool
  receivedResponse : Bool
  retryCount : Nat
  phase : Phase
  chunks : List Bytes
  events : List SseEvent
  received : List SseEvent
  sent : List Bytes
deriving DecidableEq

def Call.new (loop : Loop) (phase : Phase) : Call :=
  { loop
    streamParser := .new
    lastEventId := none
    sseRetryDelay := none
    hasPrimingEvent := false
    receivedResponse := false
    retryCount := 0
    phase
    chunks := []
    events := []
    received := []
    sent := [] }

/-- A request, with the session id and the events known when it was made. -/
structure Request where
  loop : Loop
  isGet : Bool
  headers : HeaderList
  known : Option Str
  received : List SseEvent
deriving DecidableEq

/-- A `StreamableHttpStream`, the session id known last, and the requests. -/
structure State where
  sessionId : Option Str
  known : Option Str
  call : Option Call
  requests : List Request
deriving DecidableEq

def State.start (sessionId : Option Str) : State :=
  ⟨sessionId, sessionId, none, []⟩

/-- Calls of the stream, and how the server answers them. -/
inductive Action where
  /-- A call of `run`, up to the head of the reply. -/
  | post (reply : Except Str Response)
  /-- The standalone stream is opened. -/
  | connect
  /-- One attempt to connect, with its reply. -/
  | get (reply : Except Str Response)
  /-- A chunk; that many data can be sent on before the reader is gone. -/
  | chunk (bytes : Bytes) (accepted : Nat)
  | ended
  | broken (error : Str)
  | wake
  | cancel
  | panic
deriving DecidableEq

/-- What an event changes before its data go on; the standalone loop takes the
id of an event with data only. -/
def Call.note (self : Call) (event : SseEvent) : Call :=
  match self.loop with
  | .run =>
    { self with
      sseRetryDelay := event.retry.or self.sseRetryDelay
      lastEventId := event.id.or self.lastEventId
      hasPrimingEvent := event.id.isSome || self.hasPrimingEvent
      receivedResponse := event.data.isSome || self.receivedResponse }
  | .runStandalone =>
    { self with
      sseRetryDelay := event.retry.or self.sseRetryDelay
      lastEventId :=
        if event.data.isSome then event.id.or self.lastEventId
        else self.lastEventId }

/-- `read_tx.send` of one data. -/
def Call.send (self : Call) (bytes : Bytes) : Call :=
  { self with sent := self.sent ++ [bytes] }

def Call.sendFailed (self : Call) : Call :=
  { self with
    phase := .returned (.error (.sendFailure "Failed to send message: stream closed")) }

/-- The events of one chunk, up to the first data that cannot be sent on. -/
def processEvents : Call → Nat → List SseEvent → Call
  | self, _, [] => self
  | self, accepted, event :: events =>
    match event.data with
    | none => processEvents (self.note event) accepted events
    | some bytes =>
      match accepted with
      | 0 => (self.note event).sendFailed
      | accepted + 1 =>
        processEvents ((self.note event).send bytes) accepted events

/-- What follows the events of a chunk, unless the loop has returned. -/
def Call.afterChunk (self : Call) : Call :=
  match self.phase, self.loop with
  | .reading, .run =>
    if self.receivedResponse then { self with phase := .returned (.ok ()) }
    else self
  | .reading, .runStandalone => { self with retryCount := 0 }
  | _, _ => self

def Call.readChunk (self : Call) (bytes : Bytes) (accepted : Nat) : Call :=
  let parsed := self.streamParser.processNewChunk bytes
  (processEvents
    { self with
      streamParser := parsed.2
      chunks := self.chunks ++ [bytes]
      events := self.events ++ parsed.1
      received := self.received ++ parsed.1 } accepted parsed.1).afterChunk

/-- The standalone loop reconnects until the retries are used up. -/
def Call.retry (client : Client) (self : Call) (error : TransportError) : Call :=
  if client.maxRetries ≤ self.retryCount then
    { self with phase := .returned (.error error) }
  else
    { self with
      retryCount := self.retryCount + 1
      phase := .sleeping (self.sseRetryDelay.getD client.retryDelay) }

def Call.streamEnded (client : Client) (self : Call) : Call :=
  match self.loop with
  | .run =>
    if self.hasPrimingEvent && !self.receivedResponse then
      { self with
        phase := .sleeping (self.sseRetryDelay.getD client.retryDelay) }
    else
      { self with
        phase := .returned (.error (.internal "Stream has ended.")) }
  | .runStandalone =>
    self.retry client (.internal "Stream has ended; max reconnect retries reached")

def Call.streamBroken (client : Client) (self : Call) (error : Str) : Call :=
  match self.loop with
  | .run => { self with phase := .returned (.error (.httpConnection error)) }
  | .runStandalone => self.retry client (.httpConnection error)

/-- Where `run` is after the head of the reply (see `StartStream` for JSON). -/
def postPhase (response : Response) : Phase :=
  if response.status ≠ 200 then .returned (.ok ())
  else match validateResponseType response.contentType with
    | .error error => .returned (.error error)
    | .ok .json => .returned (.ok ())
    | .ok .eventStream => .reading

/-- The two status codes for which there is no standalone stream. -/
def statusText (status : Nat) : Str :=
  if status = 404 then "404 Not Found"
  else "405 Method Not Allowed"

/-- Where a call is after one attempt to connect. -/
def getPhase (client : Client) (sessionId : Option Str) (headers : Option HeaderList)
    (retryCount : Nat) (reply : Except Str Response) : Phase :=
  let again (error : TransportError) : Phase :=
    if client.maxRetries ≤ retryCount then .returned (.error error)
    else .connecting sessionId headers (retryCount + 1)
  match httpReply reply with
  | .ok response =>
    match validateResponseType response.contentType with
    | .ok .eventStream => .reading
    | _ =>
      .returned (.error (.failedToOpenSseStream
        "SSE stream response returned an unexpected Content-Type."))
  | .error (.httpConnection text) => again (.httpConnection text)
  | .error (.http status) =>
    if status = 404 ∨ status = 405 then
      .returned (.error (.failedToOpenSseStream
        ("Not supported (code: " ++ statusText status ++ ")")))
    else again (.http status)
  | .error error => .returned (.error error)

def knownAfter (known : Option Str) : Except Str Response → Option Str
  | .ok response => response.sessionId.or known
  | .error _ => known

def State.idle (state : State) : Bool :=
  match state.call with
  | none => true
  | some call =>
    match call.phase with
    | .returned _ => true
    | _ => false

/-- A POST and the head of its reply; success sets the session id, also to none. -/
def State.posted (state : State) (headers : HeaderList) (reply : Except Str Response) : State :=
  let known := knownAfter state.known reply
  let requests := state.requests ++ [⟨.run, false, headers, state.known, []⟩]
  match httpReply reply with
  | .error error =>
    ⟨state.sessionId, known, some (Call.new .run (.returned (.error error))), requests⟩
  | .ok response =>
    ⟨response.sessionId, known, some (Call.new .run (postPhase response)), requests⟩

/-- A GET and the head of its reply, which brings the call into a phase. -/
def State.got (state : State) (call : Call) (headers : HeaderList)
    (reply : Except Str Response) (phase : Phase) : State :=
  { state with
    known := knownAfter state.known reply
    call := some { call with phase, chunks := [], events := [] }
    requests := state.requests ++ [⟨call.loop, true, headers, state.known, call.received⟩] }

/-- The steps of a call that are no requests. -/
def callStep (client : Client) (sessionId : Option Str) (call : Call) :
    Action → Option Call
  | .chunk bytes accepted =>
    if call.phase = .reading then some (call.readChunk bytes accepted)
    else none
  | .ended =>
    if call.phase = .reading then some (call.streamEnded client) else none
  | .broken error =>
    if call.phase = .reading then some (call.streamBroken client error)
    else none
  | .wake =>
    match call.phase with
    | .sleeping _ =>
      some { call with
        phase := .connecting sessionId
          (connectionHeaders client call.lastEventId) 0 }
    | _ => none
  | .cancel =>
    match call.phase with
    | .reading | .connecting _ _ _ => some { call with phase := .cancelled }
    | _ => none
  | .panic =>
    match call.phase with
    | .connecting id headers _ =>
      if httpHeaders client.http id headers = none then
        some { call with phase := .panicked }
      else none
    | _ => none
  | _ => none

/-- One call starts, or one open call goes on. -/
def step (client : Client) (state : State) : Action → Option State
  | .post reply =>
    if state.idle then
      (httpHeaders client.http state.sessionId client.customHeaders).map
        fun headers => state.posted headers reply
    else none
  | .connect =>
    if state.idle then
      some { state with
        call := some (Call.new .runStandalone
          (.connecting state.sessionId (connectionHeaders client none) 0)) }
    else none
  | .get reply =>
    match state.call with
    | some call =>
      match call.phase with
      | .connecting sessionId headers retryCount =>
        (httpHeaders client.http sessionId headers).map fun request =>
          state.got call request reply
            (getPhase client sessionId headers retryCount reply)
      | _ => none
    | none => none
  | action =>
    match state.call with
    | some call =>
      (callStep client state.sessionId call action).map fun next =>
        { state with call := some next }
    | none => none

def Client.customValues (client : Client) (name : Str) : List Str :=
  HeaderList.values (client.customHeaders.getD []) name

theorem values_elim_baseHeaders {name : Str}
    (hname : baseHeaders.values name = []) (headers : Option HeaderList) :
    (headers.elim baseHeaders baseHeaders.replace).values name =
      HeaderList.values (headers.getD []) name := by
  cases headers with
  | none => exact hname
  | some map => exact HeaderList.values_replace hname map

variable {sessionId : Option Str}

variable {headers : Option HeaderList}

/-- A request has the custom values of a header, and behind them its session id. -/
theorem httpHeaders_values {http : HttpCrate} {request : HeaderList}
    {name : Str} (hrequest : httpHeaders http sessionId headers = some request)
    (hname : baseHeaders.values name = []) :
    request.values name = HeaderList.values (headers.getD []) name ++
      if name = mcpSessionIdHeader then sessionId.toList else [] := by
  rw [← values_elim_baseHeaders hname headers]
  unfold httpHeaders at hrequest
  cases sessionId with
  | none =>
    cases hrequest
    simp
  | some id =>
    simp only at hrequest
    split at hrequest
    · cases hrequest
      rw [HeaderList.values_append, append_cancel_left_eq]
      by_cases hsession : name = mcpSessionIdHeader
      · simp [HeaderList.values, hsession]
      · simp [HeaderList.values, hsession, Ne.symm hsession]
    · cases hrequest

/-- The ids that a connection sends, for the id that its loop has kept. -/
def sentIds (client : Client) (kept : Option Str) : List Str :=
  match kept with
  | some id =>
    match client.http.headerValue id with
    | .ok () => [id]
    | .error _ => client.customValues mcpLastEventIdHeader
  | none => client.customValues mcpLastEventIdHeader

theorem connectionHeaders_lastEventId (client : Client) (lastEventId : Option Str) :
    HeaderList.values ((connectionHeaders client lastEventId).getD [])
      mcpLastEventIdHeader = sentIds client lastEventId := by
  cases lastEventId with
  | none => rfl
  | some id =>
    unfold connectionHeaders sentIds
    cases hvalue : client.http.headerValue id with
    | error text =>
      simp only [hvalue]
      rfl
    | ok =>
      simp only [hvalue]
      exact HeaderList.values_insert_self _ _ _

theorem connectionHeaders_of_ne {name : Str} (hname : name ≠ mcpLastEventIdHeader)
    (client : Client) (lastEventId : Option Str) :
    HeaderList.values ((connectionHeaders client lastEventId).getD []) name =
      client.customValues name := by
  cases lastEventId with
  | none => rfl
  | some id =>
    unfold connectionHeaders
    cases hvalue : client.http.headerValue id with
    | error text =>
      simp only [hvalue]
      rfl
    | ok =>
      simp only [hvalue]
      exact HeaderList.values_insert_of_ne hname _ _

def keptId (loop : Loop) (event : SseEvent) : Option Str :=
  match loop with
  | .run => event.id
  | .runStandalone => if event.data.isSome then event.id else none

/-- The id that a loop has after these events. -/
def lastKept (loop : Loop) (events : List SseEvent) : Option Str :=
  (events.filterMap (keptId loop)).getLast?

def lastId (events : List SseEvent) : Option Str :=
  (events.filterMap (·.id)).getLast?

theorem lastKept_append (loop : Loop) (left right : List SseEvent) :
    lastKept loop (left ++ right) = (lastKept loop right).or (lastKept loop left) := by
  simp [lastKept, getLast?_append]

theorem lastKept_cons (loop : Loop) (event : SseEvent) (events : List SseEvent) :
    lastKept loop (event :: events) = (lastKept loop events).or (keptId loop event) := by
  have hone : lastKept loop [event] = keptId loop event := by
    unfold lastKept
    cases hid : keptId loop event with
    | none | some => simp [hid]
  rw [← hone, ← lastKept_append]
  rfl

variable (self : Call)

theorem Call.note_lastEventId (event : SseEvent) :
    (self.note event).lastEventId = (keptId self.loop event).or self.lastEventId := by
  unfold Call.note keptId
  cases self.loop with
  | run => rfl
  | runStandalone =>
    cases event.data with
    | none | some => rfl

/-- The parts of a call that its events leave as they are. -/
structure Call.SameStream (before after : Call) : Prop where
  loop : after.loop = before.loop
  streamParser : after.streamParser = before.streamParser
  chunks : after.chunks = before.chunks
  events : after.events = before.events
  received : after.received = before.received

theorem Call.SameStream.trans {first second third : Call} (hleft : first.SameStream second)
    (hright : second.SameStream third) : first.SameStream third :=
  ⟨hright.loop.trans hleft.loop, hright.streamParser.trans hleft.streamParser,
    hright.chunks.trans hleft.chunks, hright.events.trans hleft.events,
    hright.received.trans hleft.received⟩

theorem Call.note_sameStream (event : SseEvent) :
    self.SameStream (self.note event) ∧ (self.note event).phase = self.phase := by
  unfold Call.note
  cases hloop : self.loop with
  | run | runStandalone => exact ⟨⟨hloop.symm ▸ rfl, rfl, rfl, rfl, rfl⟩, rfl⟩

theorem processEvents_cases (accepted : Nat) (events : List SseEvent) :
    self.SameStream (processEvents self accepted events) ∧
      ((∃ result, (processEvents self accepted events).phase = .returned result) ∨
        ((processEvents self accepted events).phase = self.phase ∧
          (processEvents self accepted events).lastEventId =
            (lastKept self.loop events).or self.lastEventId)) := by
  induction events generalizing self accepted with
  | nil => exact ⟨⟨rfl, rfl, rfl, rfl, rfl⟩, Or.inr ⟨rfl, rfl⟩⟩
  | cons event events ih =>
    obtain ⟨hsame, hphase⟩ := self.note_sameStream event
    have hid : ∀ later : Option Str,
        later.or (self.note event).lastEventId =
          (later.or (keptId self.loop event)).or self.lastEventId := by
      intro later
      rw [self.note_lastEventId event, Option.or_assoc]
    rw [lastKept_cons]
    cases hdata : event.data with
    | none =>
      obtain ⟨hstream, hresult⟩ := ih (self.note event) accepted
      simp only [processEvents, hdata]
      rw [← hid, ← hphase, ← hsame.loop]
      exact ⟨hsame.trans hstream, hresult⟩
    | some bytes =>
      have hsent : self.SameStream ((self.note event).send bytes) :=
        ⟨hsame.loop, hsame.streamParser, hsame.chunks, hsame.events, hsame.received⟩
      cases accepted with
      | zero =>
        simp only [processEvents, hdata]
        exact ⟨⟨hsame.loop, hsame.streamParser, hsame.chunks,
          hsame.events, hsame.received⟩, Or.inl ⟨_, rfl⟩⟩
      | succ accepted =>
        obtain ⟨hstream, hresult⟩ := ih ((self.note event).send bytes) accepted
        simp only [processEvents, hdata]
        rw [← hid, ← hphase, ← hsame.loop]
        exact ⟨hsent.trans hstream, hresult⟩

def Phase.Open : Phase → Prop
  | .reading | .sleeping _ | .connecting _ _ _ => True
  | _ => False

theorem Call.afterChunk_cases :
    self.SameStream self.afterChunk ∧ (self.afterChunk.phase.Open → self.phase.Open) ∧
      (self.phase = .reading → ¬ self.afterChunk.phase.Open ∨ self.afterChunk.phase = .reading ∧
          self.afterChunk.lastEventId = self.lastEventId ∧
          (self.loop = .runStandalone → self.afterChunk.retryCount = 0)) := by
  unfold Call.afterChunk
  split
  · next hphase hloop =>
    split
    · exact ⟨⟨rfl, rfl, rfl, rfl, rfl⟩, False.elim, fun _ => Or.inl id⟩
    · refine ⟨⟨rfl, rfl, rfl, rfl, rfl⟩, id, fun _ => Or.inr ?_⟩
      refine ⟨hphase, rfl, fun hstandalone => ?_⟩
      rw [hloop] at hstandalone
      cases hstandalone
  · next hphase hloop =>
    exact ⟨⟨rfl, rfl, rfl, rfl, rfl⟩, id, fun _ => Or.inr ⟨hphase, rfl, fun _ => rfl⟩⟩
  · next hrun hstandalone =>
    refine ⟨⟨rfl, rfl, rfl, rfl, rfl⟩, id, fun hphase => ?_⟩
    cases hloop : self.loop with
    | run => exact (hrun hphase hloop).elim
    | runStandalone => exact (hstandalone hphase hloop).elim

/-- What a chunk makes of a call: it returns, or goes on with the last id that counts. -/
structure Call.ChunkRead (call : Call) (bytes : Bytes) (next : Call) :
    Prop where
  loop : next.loop = call.loop
  streamParser : next.streamParser = (call.streamParser.processNewChunk bytes).2
  chunks : next.chunks = call.chunks ++ [bytes]
  events : next.events = call.events ++ (call.streamParser.processNewChunk bytes).1
  received : next.received = call.received ++ (call.streamParser.processNewChunk bytes).1
  phase : call.phase = .reading → ¬ next.phase.Open ∨
    next.phase = .reading ∧
      next.lastEventId = (lastKept call.loop
        (call.streamParser.processNewChunk bytes).1).or call.lastEventId ∧
      (call.loop = .runStandalone → next.retryCount = 0)

theorem Call.readChunk_spec (call : Call) (bytes : Bytes) (accepted : Nat) :
    call.ChunkRead bytes (call.readChunk bytes accepted) := by
  let parsed := call.streamParser.processNewChunk bytes
  let fed : Call := { call with
    streamParser := parsed.2
    chunks := call.chunks ++ [bytes]
    events := call.events ++ parsed.1
    received := call.received ++ parsed.1 }
  obtain ⟨hsame, hresult⟩ := processEvents_cases fed accepted parsed.1
  obtain ⟨hafter, hopen, hgoes⟩ := (processEvents fed accepted parsed.1).afterChunk_cases
  have hall := hsame.trans hafter
  refine ⟨hall.loop, hall.streamParser, hall.chunks, hall.events, hall.received, fun hphase => ?_⟩
  rcases hresult with ⟨result, hreturned⟩ | ⟨hreading, hkept⟩
  · left
    intro hstill
    have hwas := hopen hstill
    rw [hreturned] at hwas
    exact hwas
  · rw [hkept, hsame.loop] at hgoes
    exact hgoes (hreading.trans hphase)

/-- The id that is kept is that of the events so far, and a call that connects
uses it with the session id of the stream. -/
structure Call.Tracks (client : Client) (sessionId : Option Str)
    (call : Call) : Prop where
  kept : call.phase.Open → call.lastEventId = lastKept call.loop call.received
  connecting : ∀ {id : Option Str} {headers : Option HeaderList}
    {retryCount : Nat}, call.phase = .connecting id headers retryCount →
      id = sessionId ∧ headers = connectionHeaders client call.lastEventId

section

variable {call : Call} {client : Client}

theorem Call.Tracks.of_not_open (hphase : ¬ call.phase.Open) : call.Tracks client sessionId where
  kept := fun hopen => absurd hopen hphase
  connecting := by
    intro id headers retryCount hconnecting
    rw [hconnecting] at hphase
    exact absurd trivial hphase

variable {next : Call}

theorem Call.Tracks.of_same (hcall : call.Tracks client sessionId)
    (hopen : call.phase.Open) (hloop : next.loop = call.loop)
    (hreceived : next.received = call.received) (hid : next.lastEventId = call.lastEventId)
    (hphase : ∀ {id : Option Str} {headers : Option HeaderList} {retryCount : Nat},
      next.phase ≠ .connecting id headers retryCount) :
    next.Tracks client sessionId where
  kept := by
    intro _
    rw [hloop, hreceived, hid]
    exact hcall.kept hopen
  connecting := fun hconnecting => absurd hconnecting hphase

theorem Call.Tracks.readChunk (hcall : call.Tracks client sessionId)
    (hphase : call.phase = .reading) (bytes : Bytes) (accepted : Nat) :
    (call.readChunk bytes accepted).Tracks client sessionId := by
  have hread := call.readChunk_spec bytes accepted
  have hold : call.lastEventId = lastKept call.loop call.received :=
    hcall.kept (by rw [hphase]; trivial)
  rcases hread.phase hphase with hend | ⟨hreading, hkept, -⟩
  · exact Call.Tracks.of_not_open hend
  · refine ⟨?_, ?_⟩
    · intro _
      rw [hkept, hread.loop, hread.received, lastKept_append, hold]
    · intro id headers retryCount hnext
      rw [hreading] at hnext
      cases hnext

theorem Call.Tracks.retry (hcall : call.Tracks client sessionId) (hphase : call.phase = .reading)
    (error : TransportError) : (call.retry client error).Tracks client sessionId := by
  have hopen : call.phase.Open := by
    rw [hphase]
    trivial
  unfold Call.retry
  split
  · exact Call.Tracks.of_not_open id
  · exact hcall.of_same hopen rfl rfl rfl (by simp)

/-- The steps of a call that are no requests, one by one. -/
inductive CallStep (client : Client) (sessionId : Option Str) (call : Call) :
    Action → Call → Prop where
  | chunk (hphase : call.phase = .reading) (bytes : Bytes) (accepted : Nat) :
      CallStep client sessionId call (.chunk bytes accepted) (call.readChunk bytes accepted)
  | ended (hphase : call.phase = .reading) :
      CallStep client sessionId call .ended (call.streamEnded client)
  | broken (hphase : call.phase = .reading) (error : Str) :
      CallStep client sessionId call (.broken error) (call.streamBroken client error)
  | wake {delay : Nat} (hphase : call.phase = .sleeping delay) :
      CallStep client sessionId call .wake
        { call with
          phase := .connecting sessionId (connectionHeaders client call.lastEventId) 0 }
  | cancel : CallStep client sessionId call .cancel
      { call with phase := .cancelled }
  | panic : CallStep client sessionId call .panic
      { call with phase := .panicked }

variable {action : Action}

theorem callStep_sound (hstep : callStep client sessionId call action = some next) :
    CallStep client sessionId call action next := by
  cases action with
  | chunk bytes accepted =>
    obtain ⟨hphase, ⟨⟩⟩ := Lts.of_guard hstep
    exact .chunk hphase bytes accepted
  | ended =>
    obtain ⟨hphase, ⟨⟩⟩ := Lts.of_guard hstep
    exact .ended hphase
  | broken error =>
    obtain ⟨hphase, ⟨⟩⟩ := Lts.of_guard hstep
    exact .broken hphase error
  | wake =>
    simp only [callStep] at hstep
    split at hstep
    · next hphase =>
      cases hstep
      exact .wake hphase
    · cases hstep
  | cancel =>
    simp only [callStep] at hstep
    split at hstep
    · cases hstep
      exact .cancel
    · cases hstep
      exact .cancel
    · cases hstep
  | panic =>
    simp only [callStep] at hstep
    split at hstep
    · obtain ⟨-, ⟨⟩⟩ := Lts.of_guard hstep
      exact .panic
    · cases hstep
  | post | connect | get => cases hstep

theorem Call.retry_sameStream (client : Client) (self : Call)
    (error : TransportError) : self.SameStream (self.retry client error) := by
  unfold Call.retry
  split
  · exact ⟨rfl, rfl, rfl, rfl, rfl⟩
  · exact ⟨rfl, rfl, rfl, rfl, rfl⟩

theorem callStep_sameStream (hchunk : ∀ bytes accepted, action ≠ .chunk bytes accepted)
    (hstep : callStep client sessionId call action = some next) : call.SameStream next := by
  cases callStep_sound hstep with
  | chunk hphase bytes accepted => exact absurd rfl (hchunk bytes accepted)
  | ended hphase =>
    unfold Call.streamEnded
    split
    · split
      · exact ⟨rfl, rfl, rfl, rfl, rfl⟩
      · exact ⟨rfl, rfl, rfl, rfl, rfl⟩
    · exact call.retry_sameStream client _
  | broken hphase error =>
    unfold Call.streamBroken
    split
    · exact ⟨rfl, rfl, rfl, rfl, rfl⟩
    · exact call.retry_sameStream client _
  | wake | cancel | panic => exact ⟨rfl, rfl, rfl, rfl, rfl⟩

theorem State.posted_call (state : State) (headers : HeaderList) (reply : Except Str Response) :
    ∃ phase, (state.posted headers reply).call = some (Call.new .run phase) := by
  unfold State.posted
  simp only
  split
  · exact ⟨_, rfl⟩
  · exact ⟨_, rfl⟩

theorem Call.Tracks.callStep (hcall : call.Tracks client sessionId)
    (hstep : HttpStream.callStep client sessionId call action = some next) :
    next.Tracks client sessionId := by
  cases callStep_sound hstep with
  | chunk hphase bytes accepted => exact hcall.readChunk hphase bytes accepted
  | ended hphase =>
    have hopen : call.phase.Open := by
      rw [hphase]
      trivial
    unfold Call.streamEnded
    split
    · split
      · exact hcall.of_same hopen rfl rfl rfl (by simp)
      · exact Call.Tracks.of_not_open id
    · exact hcall.retry hphase _
  | broken hphase error =>
    unfold Call.streamBroken
    split
    · exact Call.Tracks.of_not_open id
    · exact hcall.retry hphase _
  | wake hphase =>
    refine ⟨?_, ?_⟩
    · intro _
      exact hcall.kept (by rw [hphase]; trivial)
    · intro id headers retryCount hconnecting
      cases hconnecting
      exact ⟨rfl, rfl⟩
  | cancel | panic => exact Call.Tracks.of_not_open id

/-- What a step can do, with its guard. -/
theorem step_cases {state next : State} (hstep : step client state action = some next) :
    (∃ reply headers, action = .post reply ∧
        httpHeaders client.http state.sessionId client.customHeaders =
          some headers ∧ next = state.posted headers reply) ∨
      (∃ reply call sessionId connection retryCount headers,
        action = .get reply ∧ state.call = some call ∧
          call.phase = .connecting sessionId connection retryCount ∧
          httpHeaders client.http sessionId connection = some headers ∧
          next = state.got call headers reply
            (getPhase client sessionId connection retryCount reply)) ∨
      ((∀ reply, action ≠ .post reply ∧ action ≠ .get reply) ∧
        ∃ call, next = { state with call := some call } ∧
          (action = .connect ∧ call = Call.new .runStandalone
              (.connecting state.sessionId (connectionHeaders client none) 0) ∨
            ∃ before, state.call = some before ∧
              callStep client state.sessionId before action = some call)) := by
  cases action with
  | post reply =>
    obtain ⟨-, hstep⟩ := Lts.of_guard hstep
    obtain ⟨headers, hheaders, rfl⟩ := map_eq_some_iff.mp hstep
    exact Or.inl ⟨reply, headers, rfl, hheaders, rfl⟩
  | connect =>
    obtain ⟨-, ⟨⟩⟩ := Lts.of_guard hstep
    exact Or.inr (Or.inr ⟨by simp, _, rfl, Or.inl ⟨rfl, rfl⟩⟩)
  | get reply =>
    simp only [step] at hstep
    split at hstep
    · next call hcall =>
      split at hstep
      · next sessionId connection retryCount hphase =>
        obtain ⟨headers, hheaders, rfl⟩ := map_eq_some_iff.mp hstep
        exact Or.inr (Or.inl ⟨reply, call, sessionId, connection,
          retryCount, headers, rfl, hcall, hphase, hheaders, rfl⟩)
      · cases hstep
    · cases hstep
  | _ =>
    simp only [step] at hstep
    split at hstep
    · next before hbefore =>
      obtain ⟨call, hcall, rfl⟩ := map_eq_some_iff.mp hstep
      exact Or.inr (Or.inr ⟨by simp, call, rfl, Or.inr ⟨before, hbefore, hcall⟩⟩)
    · cases hstep

/-- Every call keeps its ids in order, and every GET has sent the id kept. -/
structure Tracks (client : Client) (state : State) : Prop where
  call : ∀ {call : Call}, state.call = some call → call.Tracks client state.sessionId
  requests : ∀ request ∈ state.requests, request.isGet = true →
    request.headers.values mcpLastEventIdHeader =
      sentIds client (lastKept request.loop request.received)

theorem Tracks.start (client : Client) (sessionId : Option Str) :
    Tracks client (State.start sessionId) where
  call := by
    intro call hcall
    cases hcall
  requests := by
    intro request hrequest
    cases hrequest

theorem Call.Tracks.new (loop : Loop) {phase : Phase}
    (hphase : ∀ {id : Option Str} {headers : Option HeaderList} {retryCount : Nat},
      phase ≠ .connecting id headers retryCount) :
    (Call.new loop phase).Tracks client sessionId where
  kept := fun _ => rfl
  connecting := fun hconnecting => absurd hconnecting hphase

theorem getPhase_connecting {id : Option Str} {connection : Option HeaderList}
    {retryCount count : Nat} {reply : Except Str Response}
    (hphase : getPhase client sessionId connection retryCount reply =
      .connecting id headers count) :
    id = sessionId ∧ headers = connection := by
  unfold getPhase at hphase
  simp only at hphase
  split at hphase
  · split at hphase
    · cases hphase
    · cases hphase
  · split at hphase
    · cases hphase
    · cases hphase
      exact ⟨rfl, rfl⟩
  · split at hphase
    · cases hphase
    · split at hphase
      · cases hphase
      · cases hphase
        exact ⟨rfl, rfl⟩
  · cases hphase

theorem postPhase_not_connecting (response : Response) {id : Option Str} {retryCount : Nat} :
    postPhase response ≠ .connecting id headers retryCount := by
  unfold postPhase
  split
  · simp
  · split
    · simp
    · simp
    · simp

/-- A step keeps the ids in order. -/
theorem Tracks.step {state next : State} {action : Action} (htracks : Tracks client state)
    (hstep : HttpStream.step client state action = some next) : Tracks client next := by
  rcases step_cases hstep with ⟨reply, headers, rfl, hheaders, rfl⟩ |
    ⟨reply, call, sessionId, connection, retryCount, headers, rfl, hcall,
      hphase, hheaders, rfl⟩ | ⟨-, call, rfl, hcall⟩
  · have hrequests : ∀ request ∈ state.requests ++
        [⟨.run, false, headers, state.known, []⟩], request.isGet = true →
          request.headers.values mcpLastEventIdHeader =
            sentIds client (lastKept request.loop request.received) := by
      intro request hrequest hget
      rcases mem_append.mp hrequest with hold | hnew
      · exact htracks.requests request hold hget
      · rw [mem_singleton.mp hnew] at hget
        cases hget
    unfold State.posted
    simp only
    split
    · refine ⟨?_, hrequests⟩
      intro call hcall
      cases hcall
      exact Call.Tracks.new .run (by simp)
    · refine ⟨?_, hrequests⟩
      intro call hcall
      cases hcall
      exact Call.Tracks.new .run (postPhase_not_connecting _)
  · have hold := htracks.call hcall
    obtain ⟨rfl, rfl⟩ := hold.connecting hphase
    have hkept := hold.kept (by rw [hphase]; trivial)
    refine ⟨?_, ?_⟩
    · intro later hlater
      cases hlater
      refine ⟨fun _ => hkept, ?_⟩
      intro id hs count hconnecting
      exact getPhase_connecting hconnecting
    · intro request hrequest hget
      rcases mem_append.mp hrequest with hearlier | hnew
      · exact htracks.requests request hearlier hget
      · rw [mem_singleton] at hnew
        subst hnew
        have hvalues := httpHeaders_values hheaders
          (show baseHeaders.values mcpLastEventIdHeader = [] by decide)
        rw [if_neg (by decide), append_nil, connectionHeaders_lastEventId] at hvalues
        rw [hvalues, hkept]
  · refine ⟨?_, htracks.requests⟩
    intro later hlater
    cases hlater
    rcases hcall with ⟨-, rfl⟩ | ⟨before, hbefore, hnext⟩
    · refine ⟨fun _ => rfl, ?_⟩
      intro id headers retryCount hconnecting
      cases hconnecting
      exact ⟨rfl, rfl⟩
    · exact (htracks.call hbefore).callStep hnext

/-- The ids are in order after any run. -/
theorem Tracks.run {actions : List Action} {state : State}
    (hrun : Lts.run (HttpStream.step client) (State.start sessionId) actions = some state) :
    Tracks client state :=
  Lts.run_keeps Tracks.step (Tracks.start client sessionId) hrun

/-- The header names the last id exactly when it was kept and can be a value, or
there is none to send and the custom headers agree with the events. -/
theorem sentIds_eq_iff (client : Client) (kept last : Option Str) :
    sentIds client kept = last.toList ↔
      (∃ id, kept = some id ∧ client.http.headerValue id = .ok () ∧ last = some id) ∨
        (∀ id, kept = some id → client.http.headerValue id ≠ .ok ()) ∧
          client.customValues mcpLastEventIdHeader = last.toList := by
  unfold sentIds
  cases kept with
  | none => simp
  | some id =>
    cases hvalue : client.http.headerValue id with
    | error text => simp [hvalue]
    | ok =>
      cases last with
      | none => simp [hvalue]
      | some other => simp [hvalue, eq_comm]

/-- Every GET carries the id of the last event with one exactly when that was
kept and can be a header value; or, without an id to send, when the custom
headers agree with the events. -/
theorem lastEventId_current_iff (client : Client) (sessionId : Option Str) (actions : List Action)
    (state : State) (hrun : Lts.run (step client) (State.start sessionId) actions = some state)
    (request : Request) (hrequest : request ∈ state.requests) (hget : request.isGet = true) :
    request.headers.values mcpLastEventIdHeader = (lastId request.received).toList ↔
      (∃ id, lastKept request.loop request.received = some id ∧
          client.http.headerValue id = .ok () ∧ lastId request.received = some id) ∨
        (∀ id, lastKept request.loop request.received = some id →
            client.http.headerValue id ≠ .ok ()) ∧ client.customValues mcpLastEventIdHeader =
            (lastId request.received).toList := by
  rw [(Tracks.run hrun).requests request hrequest hget]
  exact sentIds_eq_iff client _ _

end

namespace HttpStreamWitness

def client : Client :=
  ⟨⟨.ok, fun _ => .ok ()⟩, none, 3, 0⟩

def eventStream (mcpSessionId : Option Bytes) : Except Str Response :=
  .ok ⟨200, some (Utf8.encode "text/event-stream"), mcpSessionId⟩

def priming : Bytes :=
  Utf8.encode "id: 7\n\n"

def primed : List Action :=
  [.post (eventStream none), .chunk priming 0, .ended, .wake, .get (eventStream none)]

def primedStandalone : List Action :=
  [.connect, .get (eventStream none), .chunk priming 0, .ended, .wake, .get (eventStream none)]

theorem lastEventId_primed :
    ∃ state request, Lts.run (step client) (State.start none) primed =
        some state ∧ request ∈ state.requests ∧ request.isGet = true ∧
      request.headers.values mcpLastEventIdHeader = [['7']] := by
  have hrun : (Lts.run (step client) (State.start none) primed).map
      (fun state => state.requests.map fun request =>
        (request.loop, request.isGet, request.received)) =
      some [(.run, false, []),
        (.run, true, [⟨none, none, some ['7'], none⟩])] := by
    decide +kernel
  obtain ⟨state, hstate, hrequests⟩ := map_eq_some_iff.mp hrun
  have hmem : (Loop.run, true, [(⟨none, none, some ['7'], none⟩ : SseEvent)]) ∈
      state.requests.map fun request =>
        (request.loop, request.isGet, request.received) := by
    rw [hrequests]
    simp
  obtain ⟨request, hrequest, hfields⟩ := mem_map.mp hmem
  obtain ⟨hloop, hget, hreceived⟩ : request.loop = .run ∧
      request.isGet = true ∧
        request.received = [⟨none, none, some ['7'], none⟩] := by
    simpa using hfields
  have hiff := lastEventId_current_iff client none primed state hstate request hrequest hget
  rw [hloop, hreceived] at hiff
  exact ⟨state, request, hstate, hrequest, hget, hiff.mpr (Or.inl ⟨['7'], rfl, rfl, rfl⟩)⟩

/-- The standalone loop does not keep the id of an event without data. -/
theorem lastEventId_primedStandalone :
    (Lts.run (step client) (State.start none) primedStandalone).map
        (fun state => state.requests.map fun request =>
          (lastId request.received, request.headers.values mcpLastEventIdHeader)) =
      some [(none, []), (some ['7'], [])] := by
  decide +kernel

end HttpStreamWitness

end McpSdk.HttpStream
