/-
What becomes of `start_stream` for every reply to a POST. The `select!` of
`receive_task` has no `else` branch: it panics when the messages end while it
waits for one.
-/
import McpSdk.PostStream
import McpSdk.ReadableChannel

namespace McpSdk.StartStream

open List Option SendMessage

universe u v

variable {ι : Type u} {β : Type v}

open PostStream (ServerMessage)

inductive ServerMessages (ι : Type u) (β : Type v) where
  | single (message : ServerMessage ι β)
  | batch (messages : List (ServerMessage ι β))
deriving Repr, DecidableEq

def ServerMessages.toList : ServerMessages ι β → List (ServerMessage ι β)
  | .single message => [message]
  | .batch messages => messages

inductive TransportError where
  | httpConnection (text : Str)
  | http (status : Nat)
  | unexpectedContentType (text : Str)
  | sendFailure (text : Str)
  | internal (text : Str)
  | failedToOpenSseStream (text : Str)
deriving Repr, DecidableEq

/-- The chunks of a response, and the error with which it breaks off, if any. -/
structure Body where
  chunks : List Bytes
  broken : Option TransportError
deriving Repr, DecidableEq

def Body.bytes (self : Body) : Except TransportError Bytes :=
  match self.broken with
  | none => .ok self.chunks.flatten
  | some error => .error error

structure Response where
  status : Nat
  /-- The value of the `Content-Type` header. -/
  contentType : Option Bytes
  body : Body
deriving Repr, DecidableEq

inductive ResponseType where
  | eventStream
  | json
deriving Repr, DecidableEq

/-- `HeaderValue::to_str`: visible ASCII and the tab only. -/
def headerToStr (value : Bytes) : Option Str :=
  if value.all fun byte => byte = 9 ∨ 32 ≤ byte ∧ byte < 127 then
    some (value.map fun byte => Char.ofNat byte.toNat)
  else none

def validateResponseType (contentType : Option Bytes) : Except TransportError ResponseType :=
  match contentType with
  | some value =>
    match headerToStr value with
    | some text =>
      let normalized := text.map Char.toLower
      if normalized = "text/event-stream" then .ok .eventStream
      else if normalized = "application/json" then .ok .json
      else .error (.unexpectedContentType normalized)
    | none => .error (.unexpectedContentType "<invalid UTF-8>")
  | none => .error (.unexpectedContentType "<empty>")

/-- `http_post`: a status outside of 2xx is an error. -/
def httpPost (reply : Except TransportError Response) : Except TransportError Response :=
  match reply with
  | .error error => .error error
  | .ok response =>
    if 200 ≤ response.status ∧ response.status < 300 then .ok response
    else .error (.http response.status)

inductive Post where
  | idle
  | requested
  /-- The body of a JSON response is to be passed on, then a line feed. -/
  | json (body : Bytes)
  | jsonNewline
  | eventStream (body : Body)
  | reconnecting
  | returned (result : Except TransportError Unit)

/-- What `run` makes of the head of the reply. -/
def replied (reply : Except TransportError Response) : Post :=
  match httpPost reply with
  | .error error => .returned (.error error)
  | .ok response =>
    if response.status = 200 then
      match validateResponseType response.contentType with
      | .error error => .returned (.error error)
      | .ok .eventStream => .eventStream response.body
      | .ok .json =>
        match response.body.bytes with
        | .ok bytes => .json bytes
        | .error error => .returned (.error error)
    else .returned (.ok ())

/-- The `receive_task` takes one message or batch, and is done when the replies are sent. -/
inductive Receive (ι : Type u) (β : Type v) where
  | waiting
  | handling (messages : List (ServerMessage ι β))
  | returned
  | panicked

/-- The JSON decoder, the limits, and whether traces are logged. -/
structure Client (ι : Type u) (β : Type v) where
  decode : Str → Option (ServerMessages ι β)
  maxLineLength : Nat
  channelCapacity : Nat
  traced : Bool

/-- The call of `send_message`, and the tasks of `start_stream`. -/
structure State (ι : Type u) (β : Type v) where
  call : SendMessage.State ι (ServerMessage ι β)
  /-- The `send_task` is over, which also stops the `receive_task`. -/
  sent : Bool
  post : Post
  parser : SseParser
  /-- The events of the last chunk that are still to be looked at. -/
  events : List SseEvent
  hasPrimingEvent : Bool
  receivedResponse : Bool
  /-- The channel to the reader, and the reader. -/
  io : ReadableChannel.State
  stream : List (ServerMessages ι β)
  receive : Receive ι β

/-- A step of the call or of the tasks behind the POST. -/
inductive Action (ι : Type u) (β : Type v) where
  /-- A step that `send_message` takes by itself. -/
  | send (own : SendMessage.Action ι (ServerMessage ι β))
  | sendReturns
  | post
  | replied
  | jsonBody
  | jsonNewline
  | chunk
  | event
  | runReturns
  | streamEnds
  /-- The stream that the GET with the last event id has opened. -/
  | reconnected (stream : Except TransportError Body)
  | ack
  | read (remaining : Nat)
  | readLine
  | receive
  | handle (index : Nat)
  | handlerFails
  | handled
  | streamClosed

/-- The steps of `send_message` in which no other task takes part. -/
def ownAction : SendMessage.Action ι (ServerMessage ι β) → Bool
  | .writePayload | .writeReturns | .writeFails | .respond _ _ | .refuse _ _ => false
  | _ => true

/-- The slice of a line that the reader's `trace!` shows. -/
def tracedSlice (text : Str) : Option Str :=
  RustStr.sliceTo (min (Utf8.encode text).length 1024) text

/-- One round of the reader, which a trace that cannot be cut ends. -/
def readLine (client : Client ι β) (self : State ι β) : Option (State ι β) :=
  let reader (unread : Option (List Bytes)) : State ι β :=
    { self with io := { self.io with reader := unread } }
  match self.io.reader.bind (readCappedLine client.maxLineLength false) with
  | none => none
  | some (.eof, _) => some (reader none)
  | some (.tooLong, unread) => some (reader (some unread))
  | some (.line text, unread) =>
    if client.traced ∧ tracedSlice text = none then some (reader none)
    else match client.decode text with
      | none => some (reader (some unread))
      | some messages =>
        if self.stream.length < client.channelCapacity then
          some { reader (some unread) with
            stream := self.stream ++ [messages] }
        else none

/-- `read_tx.send`, which waits for room and fails when the reader is gone. -/
def readTxSend (client : Client ι β) (self : State ι β) (bytes : Bytes)
    (failure : Str) (post : Post) : Option (State ι β) :=
  match self.io.reader with
  | some _ =>
    (ReadableChannel.step PostStream.readCapacity client.maxLineLength
      self.io (.send bytes)).map fun io => { self with io, post }
  | none =>
    some { self with post := .returned (.error (.sendFailure failure)) }

def processEvent (client : Client ι β) (self : State ι β) (body : Body)
    (event : SseEvent) (events : List SseEvent) : Option (State ι β) :=
  let seen : State ι β := { self with
    events
    hasPrimingEvent := self.hasPrimingEvent || event.id.isSome }
  match event.data with
  | some data =>
    readTxSend client { seen with receivedResponse := true } data
      "Failed to send message: stream closed" (.eventStream body)
  | none => some seen

/-- The response has ended: with an error, after a priming event, or too
early. -/
def endOfStream (self : State ι β) (broken : Option TransportError) : Post :=
  match broken with
  | some error => .returned (.error error)
  | none =>
    if self.hasPrimingEvent then .reconnecting
    else .returned (.error (.internal "Stream has ended."))

variable [DecidableEq ι]

/-- `handle_message`: a response goes to the call that waits for it. -/
def handleMessage (messages : Messages ι) (call : SendMessage.State ι (ServerMessage ι β))
    (message : ServerMessage ι β) : SendMessage.State ι (ServerMessage ι β) :=
  match message with
  | .response id _ | .error (some id) _ =>
    (SendMessage.step .client messages call (.respond id message)).getD call
  | _ => call

/-- A new transport; without a request there is no `receive_task`. -/
def initial (messages : Messages ι) : State ι β :=
  { call := SendMessage.initial .client messages []
    sent := false
    post := .idle
    parser := .new
    events := []
    hasPrimingEvent := false
    receivedResponse := false
    io := ReadableChannel.initial
    stream := []
    receive := if messages.requestIds = [] then .returned else .waiting }

/-- One of the tasks takes a step. -/
def step (client : Client ι β) (messages : Messages ι)
    (reply : Except TransportError Response) (self : State ι β) :
    Action ι β → Option (State ι β)
  | .send own =>
    if ownAction own then
      (SendMessage.step .client messages self.call own).map
        fun call => { self with call }
    else none
  | .sendReturns =>
    match self.call.phase with
    | .returned _ => some { self with sent := true }
    | _ => none
  | .post =>
    match self.post with
    | .idle =>
      (SendMessage.step .client messages self.call .writePayload).map
        fun call => { self with call, post := .requested }
    | _ => none
  | .replied =>
    match self.post with
    | .requested => some { self with post := replied reply }
    | _ => none
  | .jsonBody =>
    match self.post with
    | .json body =>
      readTxSend client self body
        "Failed to send message: channel closed or full"
        .jsonNewline
    | _ => none
  | .jsonNewline =>
    match self.post with
    | .jsonNewline =>
      readTxSend client self [newline]
        "Failed to send newline: channel closed or full"
        (.returned (.ok ()))
    | _ => none
  | .chunk =>
    match self.post, self.events, self.receivedResponse with
    | .eventStream ⟨chunk :: chunks, broken⟩, [], false =>
      let parsed := self.parser.processNewChunk chunk
      some { self with
        post := .eventStream ⟨chunks, broken⟩
        events := parsed.1
        parser := parsed.2 }
    | _, _, _ => none
  | .event =>
    match self.post, self.events with
    | .eventStream body, event :: events =>
      processEvent client self body event events
    | _, _ => none
  | .runReturns =>
    match self.post, self.events, self.receivedResponse with
    | .eventStream _, [], true =>
      some { self with post := .returned (.ok ()) }
    | _, _, _ => none
  | .streamEnds =>
    match self.post, self.events, self.receivedResponse with
    | .eventStream ⟨[], broken⟩, [], false =>
      some { self with post := endOfStream self broken }
    | _, _, _ => none
  | .reconnected stream =>
    match self.post, stream with
    | .reconnecting, .ok body => some { self with post := .eventStream body }
    | .reconnecting, .error error =>
      some { self with post := .returned (.error error) }
    | _, _ => none
  | .ack =>
    match self.post with
    | .returned (.ok _) =>
      (SendMessage.step .client messages self.call .writeReturns).map
        fun call => { self with call }
    | .returned (.error _) =>
      (SendMessage.step .client messages self.call .writeFails).map
        fun call => { self with call }
    | _ => none
  | .read remaining =>
    (ReadableChannel.step PostStream.readCapacity client.maxLineLength
      self.io (.read remaining)).map fun io => { self with io }
  | .readLine => readLine client self
  | .receive =>
    match self.receive, self.sent, self.stream with
    | .waiting, false, messages :: stream =>
      some { self with stream, receive := .handling messages.toList }
    | _, _, _ => none
  | .handle index =>
    match self.receive with
    | .handling todo =>
      todo[index]?.map fun message =>
        { self with
          call := handleMessage messages self.call message
          receive := .handling (todo.eraseIdx index) }
    | _ => none
  | .handlerFails =>
    match self.receive with
    | .handling _ => some { self with receive := .returned }
    | _ => none
  | .handled =>
    match self.receive with
    | .handling [] => some { self with receive := .returned }
    | _ => none
  | .streamClosed =>
    match self.receive, self.sent, self.stream, self.io.reader with
    | .waiting, false, [], none => some { self with receive := .panicked }
    | _, _, _, _ => none

/-- A successful reply that says it is JSON and has no body. -/
def EmptyJson (reply : Except TransportError Response) : Prop :=
  ∃ response, reply = .ok response ∧ response.status = 200 ∧
    validateResponseType response.contentType = .ok .json ∧
    response.body.bytes = .ok []

/-- The log shows no traces, or the trace of the line can be cut. -/
def Traceable (client : Client ι β) (self : State ι β) : Action ι β → Prop
  | .readLine => client.traced = true → ∀ text unread,
      self.io.reader.bind (readCappedLine client.maxLineLength false) =
        some (.line text, unread) → tracedSlice text ≠ none
  | _ => True

omit [DecidableEq ι] in
theorem replied_eq_json_nil_iff (reply : Except TransportError Response) :
    replied reply = .json [] ↔ EmptyJson reply := by
  constructor
  · intro hreplied
    unfold replied at hreplied
    split at hreplied
    · cases hreplied
    · next response hpost =>
      have hreply : reply = .ok response := by
        cases reply with
        | error error => cases hpost
        | ok other =>
          simp only [httpPost] at hpost
          split at hpost
          · cases hpost
            rfl
          · cases hpost
      split at hreplied
      · next hstatus =>
        split at hreplied
        · cases hreplied
        · cases hreplied
        · next htype =>
          split at hreplied
          · next bytes hbytes =>
            cases hreplied
            exact ⟨response, hreply, hstatus, htype, hbytes⟩
          · cases hreplied
      · cases hreplied
  · rintro ⟨response, rfl, hstatus, htype, hbytes⟩
    simp [replied, httpPost, hstatus, htype, hbytes]

/-- The reader has only chunks with bytes in them, and has not ended. -/
structure Reading (io : ReadableChannel.State) : Prop where
  full : ReadableChannel.Full io
  opened : io.channel.closed = false
  reader : io.reader ≠ none

theorem Reading.send {capacity maxLineLength : Nat} {self next : ReadableChannel.State}
    {bytes : Bytes} (hself : Reading self) (hbytes : bytes ≠ [])
    (hstep : ReadableChannel.step capacity maxLineLength self (.send bytes) = some next) :
    Reading next := by
  have hcases := ReadableChannel.step_cases hstep
  have hfull := hself.full.step (by simpa [ReadableChannel.sends] using hbytes.symm) hcases
  cases hcases with
  | send hclosed hroom => exact ⟨hfull, hself.opened, hself.reader⟩

theorem Reading.read {capacity maxLineLength remaining : Nat} {self next : ReadableChannel.State}
    (hself : Reading self)
    (hstep : ReadableChannel.step capacity maxLineLength self (.read remaining) = some next) :
    Reading next := by
  have hcases := ReadableChannel.step_cases hstep
  have hfull := hself.full.step not_mem_nil hcases
  cases hcases with
  | read hreader hremaining hread =>
    refine ⟨hfull, ?_, some_ne_none _⟩
    cases hread with
    | data | rest => exact hself.opened
  | fail hreader hremaining hread =>
    cases hread with
    | closed hbuffer hreadRx hclosed =>
      rw [hself.opened] at hclosed
      cases hclosed

theorem Reading.line {maxLineLength : Nat} {self : ReadableChannel.State} {line : LineRead}
    {unread : List Bytes} (hself : Reading self)
    (hread : self.reader.bind (readCappedLine maxLineLength false) = some (line, unread)) :
    line ≠ .eof ∧ Reading { self with reader := some unread } := by
  obtain ⟨chunks, hreader, hread⟩ := bind_eq_some_iff.mp hread
  have hne := readCappedLine_ne_eof (hself.full.reader hreader) hread
  refine ⟨hne.1, ⟨hself.full.readRx, ?_⟩, hself.opened, some_ne_none _⟩
  rintro other ⟨⟩
  exact hne.2

/-- Nothing is on its way that could end the stream of messages. -/
structure Safe (state : State ι β) : Prop where
  io : Reading state.io
  events : ∀ event ∈ state.events, event.data ≠ some []
  post : state.post ≠ .json []
  receive : state.receive ≠ .panicked

omit [DecidableEq ι] in
theorem Safe.readTxSend {client : Client ι β} {self next : State ι β} {bytes : Bytes}
    {failure : Str} {post : Post} (hself : Safe self) (hbytes : bytes ≠ [])
    (hpost : post ≠ .json [])
    (hsend : StartStream.readTxSend client self bytes failure post = some next) : Safe next := by
  unfold StartStream.readTxSend at hsend
  split at hsend
  · obtain ⟨io, hio, rfl⟩ := map_eq_some_iff.mp hsend
    exact ⟨hself.io.send hbytes hio, hself.events, hpost, hself.receive⟩
  · next hreader => exact absurd hreader hself.io.reader

omit [DecidableEq ι] in
theorem Safe.processEvent {client : Client ι β} {self next : State ι β} {body : Body}
    {event : SseEvent} {events : List SseEvent} (hself : Safe self)
    (hevents : self.events = event :: events)
    (hevent : StartStream.processEvent client self body event events = some next) : Safe next := by
  have hdata := hself.events
  rw [hevents, forall_mem_cons] at hdata
  simp only [StartStream.processEvent] at hevent
  split at hevent
  · next data hsome =>
    refine Safe.readTxSend ?_ ?_ ?_ hevent
    · exact ⟨hself.io, hdata.2, hself.post, hself.receive⟩
    · rintro rfl
      exact hdata.1 hsome
    · exact Post.noConfusion
  · cases hevent
    exact ⟨hself.io, hdata.2, hself.post, hself.receive⟩

omit [DecidableEq ι] in
theorem Safe.readLine {client : Client ι β} {self next : State ι β}
    (hself : Safe self) (htraceable : Traceable client self .readLine)
    (hread : StartStream.readLine client self = some next) : Safe next := by
  simp only [StartStream.readLine] at hread
  split at hread
  · cases hread
  · next hline => exact absurd rfl (hself.io.line hline).1
  · next unread hline =>
    cases hread
    exact ⟨(hself.io.line hline).2, hself.events, hself.post, hself.receive⟩
  · next text unread hline =>
    have hio := (hself.io.line hline).2
    rw [if_neg fun hcut => htraceable hcut.1 text unread hline hcut.2] at hread
    split at hread
    · cases hread
      exact ⟨hio, hself.events, hself.post, hself.receive⟩
    · rw [ite_none_right_eq_some] at hread
      obtain ⟨-, hnext⟩ := hread
      cases hnext
      exact ⟨hio, hself.events, hself.post, hself.receive⟩

variable {reply : Except TransportError Response}

/-- A traceable step puts nothing on its way that ends the stream. -/
theorem Safe.step {client : Client ι β} {messages : Messages ι} {self next : State ι β}
    {action : Action ι β} (hreply : ¬ EmptyJson reply) (hself : Safe self)
    (htraceable : Traceable client self action)
    (hstep : StartStream.step client messages reply self action = some next) : Safe next := by
  obtain ⟨hio, hevents, hpost, hreceive⟩ := id hself
  cases action with
  | send own =>
    simp only [StartStream.step] at hstep
    rw [ite_none_right_eq_some, map_eq_some_iff] at hstep
    obtain ⟨-, call, -, rfl⟩ := hstep
    exact ⟨hio, hevents, hpost, hreceive⟩
  | sendReturns =>
    simp only [StartStream.step] at hstep
    split at hstep
    · cases hstep
      exact ⟨hio, hevents, hpost, hreceive⟩
    · cases hstep
  | post =>
    simp only [StartStream.step] at hstep
    split at hstep
    · obtain ⟨call, -, rfl⟩ := map_eq_some_iff.mp hstep
      exact ⟨hio, hevents, Post.noConfusion, hreceive⟩
    · cases hstep
  | replied =>
    simp only [StartStream.step] at hstep
    split at hstep
    · cases hstep
      refine ⟨hio, hevents, ?_, hreceive⟩
      exact fun hjson => hreply ((replied_eq_json_nil_iff reply).mp hjson)
    · cases hstep
  | jsonBody =>
    simp only [StartStream.step] at hstep
    split at hstep
    · next body hjson =>
      refine hself.readTxSend ?_ Post.noConfusion hstep
      rintro rfl
      exact hpost hjson
    · cases hstep
  | jsonNewline =>
    simp only [StartStream.step] at hstep
    split at hstep
    · exact hself.readTxSend (cons_ne_nil _ _) Post.noConfusion hstep
    · cases hstep
  | chunk =>
    simp only [StartStream.step] at hstep
    split at hstep
    · cases hstep
      refine ⟨hio, ?_, Post.noConfusion, hreceive⟩
      intro event hevent
      exact SseParser.processNewChunk_data_ne_nil hevent
    · cases hstep
  | event =>
    simp only [StartStream.step] at hstep
    split at hstep
    · next hevent => exact hself.processEvent hevent hstep
    · cases hstep
  | runReturns =>
    simp only [StartStream.step] at hstep
    split at hstep
    · cases hstep
      exact ⟨hio, hevents, Post.noConfusion, hreceive⟩
    · cases hstep
  | streamEnds =>
    simp only [StartStream.step] at hstep
    split at hstep
    · cases hstep
      refine ⟨hio, hevents, ?_, hreceive⟩
      unfold endOfStream
      split
      · exact Post.noConfusion
      · split
        · exact Post.noConfusion
        · exact Post.noConfusion
    · cases hstep
  | reconnected stream =>
    simp only [StartStream.step] at hstep
    split at hstep
    · cases hstep
      exact ⟨hio, hevents, Post.noConfusion, hreceive⟩
    · cases hstep
      exact ⟨hio, hevents, Post.noConfusion, hreceive⟩
    · cases hstep
  | ack =>
    simp only [StartStream.step] at hstep
    split at hstep
    · obtain ⟨call, -, rfl⟩ := map_eq_some_iff.mp hstep
      exact ⟨hio, hevents, hpost, hreceive⟩
    · obtain ⟨call, -, rfl⟩ := map_eq_some_iff.mp hstep
      exact ⟨hio, hevents, hpost, hreceive⟩
    · cases hstep
  | read remaining =>
    simp only [StartStream.step] at hstep
    obtain ⟨io, hread, rfl⟩ := map_eq_some_iff.mp hstep
    exact ⟨hio.read hread, hevents, hpost, hreceive⟩
  | readLine => exact hself.readLine htraceable hstep
  | receive =>
    simp only [StartStream.step] at hstep
    split at hstep
    · cases hstep
      exact ⟨hio, hevents, hpost, by simp⟩
    · cases hstep
  | handle index =>
    simp only [StartStream.step] at hstep
    split at hstep
    · obtain ⟨message, -, rfl⟩ := map_eq_some_iff.mp hstep
      exact ⟨hio, hevents, hpost, by simp⟩
    · cases hstep
  | handlerFails | handled =>
    simp only [StartStream.step] at hstep
    split at hstep
    · cases hstep
      exact ⟨hio, hevents, hpost, by simp⟩
    · cases hstep
  | streamClosed =>
    simp only [StartStream.step] at hstep
    split at hstep
    · next hreader => exact absurd hreader hio.reader
    · cases hstep

theorem initial_safe (messages : Messages ι) : Safe (initial messages : State ι β) := by
  refine ⟨⟨⟨not_mem_nil, ?_⟩, rfl, some_ne_none _⟩, ?_, Post.noConfusion, ?_⟩
  · rintro unread ⟨⟩
    exact not_mem_nil
  · intro event hevent
    cases hevent
  · unfold initial
    split
    · simp
    · simp

/-- The `receive_task` waits, and nothing of a response has been seen. -/
def unseen (call : SendMessage.State ι (ServerMessage ι β)) (post : Post) : State ι β :=
  { call, sent := false, post, parser := .new, events := []
    hasPrimingEvent := false, receivedResponse := false
    io := ReadableChannel.initial, stream := [], receive := .waiting }

/-- The traces can be cut, and the last action is a panic. -/
def Panics (client : Client ι β) (messages : Messages ι) (reply : Except TransportError Response)
    (state : State ι β) (actions : List (Action ι β)) : Prop :=
  Lts.Reaches (step client messages reply) (Traceable client)
    (fun final => final.receive = .panicked) state actions

/-- The POST is made, the empty body is read, and the messages end. -/
theorem panics_of_registered (client : Client ι β) (messages : Messages ι)
    (hreply : replied reply = .json []) {call : SendMessage.State ι (ServerMessage ι β)}
    (hphase : call.phase = .register []) :
    Panics client messages reply (unseen call .idle)
      [.send .registered, .send .serialize, .post, .replied, .jsonBody,
        .read 1, .readLine, .streamClosed] := by
  have hregistered : step client messages reply (unseen call .idle)
      (.send .registered) =
        some (unseen { call with phase := .serialize } .idle) := by
    simp [step, ownAction, SendMessage.step, registersFirst, hphase, unseen]
  have hreplied : ∀ call, step client messages reply (unseen call .requested)
      .replied = some (unseen call (.json [])) := by
    intro call
    simp [step, hreply, unseen]
  refine .cons hregistered trivial ?_
  refine .cons rfl trivial ?_
  refine .cons rfl trivial ?_
  refine .cons (hreplied _) trivial ?_
  refine .cons rfl trivial ?_
  refine .cons rfl trivial ?_
  -- the zero bytes are the end of the file, and no line is traced
  refine .cons rfl ?_ ?_
  · intro htraced text unread hline
    cases hline
  · refine .cons rfl trivial ?_
    exact ⟨_, rfl, trivial, rfl⟩

theorem Panics.register {client : Client ι β} {messages : Messages ι} {actions : List (Action ι β)}
    (hrest : ∀ call, call.phase = .register [] → Panics client messages reply (unseen call .idle)
      actions) {todo : List ι} {call : SendMessage.State ι (ServerMessage ι β)}
    (hphase : call.phase = .register todo) :
    Panics client messages reply (unseen call .idle)
      (todo.map (fun id => .send (.register id)) ++ actions) := by
  induction todo generalizing call with
  | nil => exact hrest call hphase
  | cons id todo ih =>
    let next : SendMessage.State ι (ServerMessage ι β) :=
      ⟨call.pendingRequests.insert id (.own call.receivers.length),
        dropSender call.receivers
          (call.pendingRequests.lookup id) ++ [⟨id, .empty, none⟩],
        .register todo⟩
    have hstep : step client messages reply (unseen call .idle)
        (.send (.register id)) = some (unseen next .idle) := by
      simp [step, ownAction, SendMessage.step, hphase, unseen, next]
    exact .cons hstep trivial (@ih next rfl)

/-- For every client, all messages with a request and every reply: no run in
which traces can be cut panics, exactly when the reply is not JSON with an empty
body. -/
theorem run_not_panicked_iff (client : Client ι β) {messages : Messages ι}
    (hrequest : messages.requestIds ≠ []) (reply : Except TransportError Response) :
    (∀ trace final, Lts.run (step client messages reply) (initial messages) trace = some final →
      Lts.Along (step client messages reply) (Traceable client) (initial messages) trace →
      final.receive ≠ .panicked) ↔ ¬ EmptyJson reply := by
  constructor
  · intro hruns hempty
    have hreply := (replied_eq_json_nil_iff reply).mpr hempty
    have hinitial : (initial messages : State ι β) =
        unseen (SendMessage.initial .client messages []) .idle := by
      simp [initial, unseen, hrequest]
    have hphase : (SendMessage.initial .client messages [] :
        SendMessage.State ι (ServerMessage ι β)).phase =
          .register messages.requestIds := by
      simp [SendMessage.initial, registersFirst]
    obtain ⟨final, hrun, halong, hpanicked⟩ := Panics.register
      (fun call hcall => panics_of_registered client messages hreply hcall) hphase
    rw [← hinitial] at hrun halong
    exact hruns _ final hrun halong hpanicked
  · intro hreply trace final hrun halong
    have hsafe := Lts.run_invariant
      (fun hstate htraceable hstep => hstate.step hreply htraceable hstep)
      (initial_safe messages) halong hrun
    exact hsafe.receive

namespace StartStreamWitness

def client : Client Nat Nat where
  decode := fun text =>
    if text = "ok" then some (.single (.response 1 0)) else none
  maxLineLength := 64
  channelCapacity := 8
  traced := false

def messages : Messages Nat :=
  .single (.request 1)

def jsonReply (chunks : List Bytes) : Except TransportError Response :=
  .ok
    { status := 200
      contentType := some (Utf8.encode "application/json")
      body := ⟨chunks, none⟩ }

def emptyBody : List (Action Nat Nat) :=
  [.send (.register 1), .send .registered, .send .serialize, .post, .replied,
    .jsonBody, .read 8192, .readLine, .streamClosed]

theorem emptyBody_panicked :
    ∃ final, Lts.run (step client messages (jsonReply []))
        (initial messages) emptyBody = some final ∧ final.receive = .panicked :=
  ⟨_, rfl, rfl⟩

def answered : List (Action Nat Nat) :=
  [.send (.register 1), .send .registered, .send .serialize, .post, .replied,
    .jsonBody, .jsonNewline, .read 8192, .read 8192, .readLine, .receive,
    .handle 0, .handled, .ack, .send (.take 0), .send .finish, .sendReturns]

/-- The response arrives in two chunks. -/
theorem answered_not_panicked :
    ∃ final, Lts.run (step client messages (jsonReply [[111], [107]]))
        (initial messages) answered = some final ∧ final.receive ≠ .panicked := by
  have hrun : Lts.run (step client messages (jsonReply [[111], [107]]))
      (initial messages) answered = some _ := rfl
  refine ⟨_, hrun, ?_⟩
  refine (run_not_panicked_iff client (by decide) _).mpr ?_ _ _ hrun ?_
  · rintro ⟨response, ⟨⟩, -, -, hbytes⟩
    cases hbytes
  · refine (@Lts.run_along _ _ _ _ (fun _ => True) ?_ _ _ _ trivial hrun).1
    intro state next action hstate hstep
    refine ⟨?_, trivial⟩
    cases action with
    | readLine => exact fun htraced => Bool.noConfusion htraced
    | _ => trivial

end StartStreamWitness

end McpSdk.StartStream
