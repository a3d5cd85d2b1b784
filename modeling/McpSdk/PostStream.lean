/-
One request of the client over streamable HTTP. Four tasks take part: the call
of `send_message`, the POST with its parser, the reader of the lines, and
`start_stream`, which handles what was decoded.
-/
import McpSdk.CappedLine
import McpSdk.ResponseDelivery

namespace McpSdk.PostStream

open Option

universe u v

variable {ι : Type u} {β : Type v}

inductive ServerMessage (ι : Type u) (β : Type v) where
  | request (id : ι) (params : β)
  | notification (params : β)
  | response (id : ι) (result : β)
  | error (id : Option ι) (error : β)
deriving Repr, DecidableEq

/-- The JSON decoder, whether an error response is accepted, the limits, and
what a reconnecting GET gives. -/
structure Client (ι : Type u) (β : Type v) where
  decode : Str → Option (ServerMessage ι β)
  handleError : β → Bool
  maxLineLength : Nat
  channelCapacity : Nat
  channelCapacity_pos : 0 < channelCapacity
  reconnect : Option Str → Except Str (List Bytes)

/-- `DEFAULT_CHANNEL_CAPACITY` of the channel to the reader. -/
def readCapacity : Nat :=
  64

inductive Post where
  | idle
  | running
  | returned (result : Except Str Unit)

/-- The `receive_task` of `start_stream`.  It panics when its stream ends. -/
inductive Receive where
  | waiting
  | replying
  | returned
  | panicked
deriving Repr, DecidableEq

/-- The call, the POST, the reader, and the handler of a request. -/
structure State (ι : Type u) (β : Type v) where
  call : SendMessage.State ι (ServerMessage ι β)
  post : Post
  /-- The chunks of the response that have not arrived yet. -/
  body : List Bytes
  parser : SseParser
  /-- The events of the last chunk that are still to be looked at. -/
  events : List SseEvent
  lastEventId : Option Str
  hasPrimingEvent : Bool
  receivedResponse : Bool
  readChannel : List Bytes
  /-- The rest of an item that the reader's buffer could not hold. -/
  readBuffer : Bytes
  /-- What the reader has been given, unless it has ended. -/
  reader : Option (List Bytes)
  stream : List (ServerMessage ι β)
  receive : Receive
  handled : List (ServerMessage ι β)

/-- A step of one of the four tasks. -/
inductive Action where
  | register
  | registered
  | serialize
  | post
  | chunk
  | event
  | runReturns
  | streamEnds
  | ack
  /-- The reader's buffer has room for this many bytes. -/
  | read (room : Nat)
  | readLine
  | receive
  | streamClosed
  | reply
  | take
  | finish
  | timeout
deriving Repr, DecidableEq

def message (id : ι) : SendMessage.Messages ι :=
  .single (.request id)

variable [DecidableEq ι]

/-- The call has not registered its request. -/
def initial (id : ι) (body : List Bytes) : State ι β :=
  { call := SendMessage.initial .client (message id) []
    post := .idle
    body := body
    parser := .new
    events := []
    lastEventId := none
    hasPrimingEvent := false
    receivedResponse := false
    readChannel := []
    readBuffer := []
    reader := some []
    stream := []
    receive := .waiting
    handled := [] }

/-- A step of the call itself; nothing of it is left after a panic. -/
def callStep (id : ι) (self : State ι β) (action : SendMessage.Action ι (ServerMessage ι β)) :
    Option (State ι β) :=
  if self.receive = .panicked then none
  else (SendMessage.step .client (message id) self.call action).map
    fun call => { self with call }

/-- The call has returned, which also stops the `receive_task`. -/
def callReturned (self : State ι β) : Bool :=
  match self.call.phase with
  | .returned _ => true
  | _ => false

/-- One event of a chunk; its data waits for room in the channel. -/
def processEvent (self : State ι β) : Option (State ι β) :=
  match self.post, self.events with
  | .running, event :: events =>
    match event.data with
    | some data =>
      if self.readChannel.length < readCapacity then
        some { self with
          events
          lastEventId := event.id.or self.lastEventId
          hasPrimingEvent := self.hasPrimingEvent || event.id.isSome
          receivedResponse := true
          readChannel := self.readChannel ++ [data] }
      else none
    | none =>
      some { self with
        events
        lastEventId := event.id.or self.lastEventId
        hasPrimingEvent := self.hasPrimingEvent || event.id.isSome }
  | _, _ => none

/-- The response has ended: reconnect after a priming event, else fail. -/
def endOfStream (client : Client ι β) (self : State ι β) : State ι β :=
  if self.hasPrimingEvent ∧ self.receivedResponse = false then
    match client.reconnect self.lastEventId with
    | .ok body => { self with body }
    | .error error => { self with post := .returned (.error error) }
  else { self with post := .returned (.error "Stream has ended.") }

/-- `poll_read`: the rest of the last item, or the next item. -/
def pollRead (room : Nat) (self : State ι β) : Option (Bytes × State ι β) :=
  if self.readBuffer.isEmpty then
    match self.readChannel with
    | [] => none
    | data :: readChannel =>
      some (data.take room, { self with readBuffer := data.drop room, readChannel })
  else
    some (self.readBuffer.take room, { self with readBuffer := self.readBuffer.drop room })

/-- One round of the reader; a line that is too long or no message is dropped. -/
def readLine (client : Client ι β) (self : State ι β) : Option (State ι β) :=
  match self.reader.bind (readCappedLine client.maxLineLength false) with
  | none => none
  | some (.eof, _) => some { self with reader := none }
  | some (.tooLong, unread) => some { self with reader := some unread }
  | some (.line text, unread) =>
    match client.decode text with
    | none => some { self with reader := some unread }
    | some message =>
      if self.stream.length < client.channelCapacity then
        some { self with
          reader := some unread
          stream := self.stream ++ [message] }
      else none

/-- Pass a response to the call that waits; any other one is only logged. -/
def resolve (id : ι) (self : State ι β) (answered : Option ι)
    (message : ServerMessage ι β) : State ι β :=
  match answered.bind fun answered =>
      SendMessage.step .client (PostStream.message id) self.call
        (.respond answered message) with
  | some call => { self with call, receive := .returned }
  | none => { self with receive := .returned }

/-- `handle_message` and the end of `receive_task`, whose result is thrown away. -/
def handleMessage (client : Client ι β) (id : ι) (self : State ι β)
    (message : ServerMessage ι β) : State ι β :=
  match message with
  | .request _ _ => { self with receive := .replying }
  | .notification _ => { self with receive := .returned }
  | .error answered error =>
    if client.handleError error then resolve id self answered message
    else { self with receive := .returned }
  | .response answered _ => resolve id self (some answered) message

/-- Every step but the timeout of the request. -/
def promptStep (client : Client ι β) (id : ι) (self : State ι β) :
    Action → Option (State ι β)
  | .register => callStep id self (.register id)
  | .registered => callStep id self .registered
  | .serialize => callStep id self .serialize
  | .post =>
    match self.post with
    | .idle =>
      (callStep id self .writePayload).map
        fun next => { next with post := .running }
    | _ => none
  | .chunk =>
    match self.post, self.events, self.receivedResponse, self.body with
    | .running, [], false, chunk :: body =>
      let parsed := self.parser.processNewChunk chunk
      some { self with body, events := parsed.1, parser := parsed.2 }
    | _, _, _, _ => none
  | .event => processEvent self
  | .runReturns =>
    match self.post, self.events, self.receivedResponse with
    | .running, [], true =>
      some { self with post := .returned (.ok ()), body := [] }
    | _, _, _ => none
  | .streamEnds =>
    match self.post, self.events, self.receivedResponse, self.body with
    | .running, [], false, [] => some (endOfStream client self)
    | _, _, _, _ => none
  | .ack =>
    match self.post with
    | .returned (.ok _) => callStep id self .writeReturns
    | .returned (.error _) => callStep id self .writeFails
    | _ => none
  | .read room =>
    match self.reader with
    | some chunks =>
      if 0 < room then
        (pollRead room self).map fun result =>
          { result.2 with reader := some (chunks ++ [result.1]) }
      else none
    | none => none
  | .readLine => readLine client self
  | .receive =>
    match self.receive, callReturned self, self.stream with
    | .waiting, false, message :: stream =>
      some (handleMessage client id
        { self with stream, handled := self.handled ++ [message] } message)
    | _, _, _ => none
  | .streamClosed =>
    match self.receive, callReturned self, self.stream, self.reader with
    | .waiting, false, [], none => some { self with receive := .panicked }
    | _, _, _, _ => none
  | .reply =>
    match self.receive, self.post with
    | .replying, .returned _ => some { self with receive := .returned }
    | _, _ => none
  | .take => callStep id self (.take 0)
  | .finish => callStep id self .finish
  | .timeout => none

/-- The steps that need no time; room for one byte stands for all buffers. -/
def promptActions : List Action :=
  [.register, .registered, .serialize, .post, .chunk, .event, .runReturns,
    .streamEnds, .ack, .read 1, .readLine, .receive, .streamClosed, .reply,
    .take, .finish]

/-- Nothing can happen before more time has passed. -/
def quiescent (client : Client ι β) (id : ι) (self : State ι β) : Bool :=
  promptActions.all fun action => (promptStep client id self action).isNone

/-- The request times out only when nothing else is left to do. -/
def step (client : Client ι β) (id : ι) (self : State ι β) :
    Action → Option (State ι β)
  | .timeout =>
    if quiescent client id self then callStep id self (.timeout 0) else none
  | action => promptStep client id self action

/-- The steps that are steps of the call alone. -/
def callAction (id : ι) :
    Action → Option (SendMessage.Action ι (ServerMessage ι β))
  | .register => some (.register id)
  | .registered => some .registered
  | .serialize => some .serialize
  | .take => some (.take 0)
  | .finish => some .finish
  | _ => none

/-- What a step can do, with its guard. -/
inductive Step (client : Client ι β) (id : ι) (self : State ι β) :
    Action → State ι β → Prop where
  | call {action : Action} {own : SendMessage.Action ι (ServerMessage ι β)}
      {call : SendMessage.State ι (ServerMessage ι β)}
      (haction : callAction id action = some own)
      (hcall : SendMessage.step .client (message id) self.call own = some call) :
      Step client id self action { self with call }
  | post {call : SendMessage.State ι (ServerMessage ι β)}
      (hpost : self.post = .idle)
      (hcall : SendMessage.step .client (message id) self.call .writePayload = some call) :
      Step client id self .post { self with call, post := .running }
  | chunk {chunk : Bytes} {body : List Bytes} (hpost : self.post = .running)
      (hevents : self.events = []) (hreceived : self.receivedResponse = false)
      (hbody : self.body = chunk :: body) :
      Step client id self .chunk
        { self with
          body
          events := (self.parser.processNewChunk chunk).1
          parser := (self.parser.processNewChunk chunk).2 }
  | eventData {event : SseEvent} {events : List SseEvent} {data : Bytes}
      (hpost : self.post = .running) (hevents : self.events = event :: events)
      (hdata : event.data = some data)
      (hroom : self.readChannel.length < readCapacity) :
      Step client id self .event
        { self with
          events
          lastEventId := event.id.or self.lastEventId
          hasPrimingEvent := self.hasPrimingEvent || event.id.isSome
          receivedResponse := true
          readChannel := self.readChannel ++ [data] }
  | eventNoData {event : SseEvent} {events : List SseEvent}
      (hpost : self.post = .running) (hevents : self.events = event :: events)
      (hdata : event.data = none) :
      Step client id self .event
        { self with
          events
          lastEventId := event.id.or self.lastEventId
          hasPrimingEvent := self.hasPrimingEvent || event.id.isSome }
  | runReturns (hpost : self.post = .running) (hevents : self.events = [])
      (hreceived : self.receivedResponse = true) :
      Step client id self .runReturns
        { self with post := .returned (.ok ()), body := [] }
  | streamEnds (hpost : self.post = .running) (hevents : self.events = [])
      (hreceived : self.receivedResponse = false) (hbody : self.body = []) :
      Step client id self .streamEnds (endOfStream client self)
  | ackOk {call : SendMessage.State ι (ServerMessage ι β)}
      (hpost : self.post = .returned (.ok ()))
      (hcall : SendMessage.step .client (message id) self.call .writeReturns = some call) :
      Step client id self .ack { self with call }
  | ackError {call : SendMessage.State ι (ServerMessage ι β)} {error : Str}
      (hpost : self.post = .returned (.error error))
      (hcall : SendMessage.step .client (message id) self.call .writeFails = some call) :
      Step client id self .ack { self with call }
  | readItem {room : Nat} {chunks : List Bytes} {data : Bytes}
      {readChannel : List Bytes} (hroom : 0 < room)
      (hreader : self.reader = some chunks) (hbuffer : self.readBuffer = [])
      (hchannel : self.readChannel = data :: readChannel) :
      Step client id self (.read room)
        { self with
          readBuffer := data.drop room
          readChannel
          reader := some (chunks ++ [data.take room]) }
  | readRest {room : Nat} {chunks : List Bytes} (hroom : 0 < room)
      (hreader : self.reader = some chunks) (hbuffer : self.readBuffer ≠ []) :
      Step client id self (.read room)
        { self with
          readBuffer := self.readBuffer.drop room
          reader := some (chunks ++ [self.readBuffer.take room]) }
  | readEof {chunks unread : List Bytes} (hreader : self.reader = some chunks)
      (hread : readCappedLine client.maxLineLength false chunks = some (.eof, unread)) :
      Step client id self .readLine { self with reader := none }
  | readDropped {chunks unread : List Bytes} {read : LineRead}
      (hreader : self.reader = some chunks)
      (hread : readCappedLine client.maxLineLength false chunks = some (read, unread))
      (hdropped : read = .tooLong ∨ ∃ text, read = .line text ∧ client.decode text = none) :
      Step client id self .readLine { self with reader := some unread }
  | readMessage {chunks unread : List Bytes} {text : Str}
      {message : ServerMessage ι β} (hreader : self.reader = some chunks)
      (hread : readCappedLine client.maxLineLength false chunks = some (.line text, unread))
      (hdecode : client.decode text = some message)
      (hroom : self.stream.length < client.channelCapacity) :
      Step client id self .readLine
        { self with reader := some unread, stream := self.stream ++ [message] }
  | receive {message : ServerMessage ι β} {stream : List (ServerMessage ι β)}
      (hreceive : self.receive = .waiting)
      (hopen : callReturned self = false)
      (hstream : self.stream = message :: stream) :
      Step client id self .receive
        (handleMessage client id { self with stream, handled := self.handled ++ [message] } message)
  | streamClosed (hreceive : self.receive = .waiting)
      (hopen : callReturned self = false) (hstream : self.stream = [])
      (hreader : self.reader = none) :
      Step client id self .streamClosed { self with receive := .panicked }
  | reply {result : Except Str Unit} (hreceive : self.receive = .replying)
      (hpost : self.post = .returned result) :
      Step client id self .reply { self with receive := .returned }
  | timeout {call : SendMessage.State ι (ServerMessage ι β)}
      (hquiet : quiescent client id self = true)
      (hcall : SendMessage.step .client (message id) self.call (.timeout 0) = some call) :
      Step client id self .timeout { self with call }

theorem callStep_cases {id : ι} {self next : State ι β}
    {own : SendMessage.Action ι (ServerMessage ι β)} (hstep : callStep id self own = some next) :
    ∃ call, SendMessage.step .client (message id) self.call own = some call ∧
      next = { self with call } := by
  unfold callStep at hstep
  split at hstep
  · cases hstep
  · obtain ⟨call, hcall, rfl⟩ := map_eq_some_iff.mp hstep
    exact ⟨call, hcall, rfl⟩

theorem step_cases {client : Client ι β} {id : ι} {self next : State ι β} {action : Action}
    (hstep : step client id self action = some next) : Step client id self action next := by
  cases action with
  | register | registered | serialize | take | finish =>
    obtain ⟨call, hcall, rfl⟩ := callStep_cases hstep
    exact .call rfl hcall
  | post =>
    simp only [step, promptStep] at hstep
    split at hstep
    · next hpost =>
      obtain ⟨middle, hmiddle, rfl⟩ := map_eq_some_iff.mp hstep
      obtain ⟨call, hcall, rfl⟩ := callStep_cases hmiddle
      exact .post hpost hcall
    · cases hstep
  | chunk =>
    simp only [step, promptStep] at hstep
    split at hstep
    · next chunk body hpost hevents hreceived hbody =>
      cases hstep
      exact .chunk hpost hevents hreceived hbody
    · cases hstep
  | event =>
    simp only [step, promptStep, processEvent] at hstep
    split at hstep
    · next event events hpost hevents =>
      split at hstep
      · next data hdata =>
        rw [ite_none_right_eq_some] at hstep
        obtain ⟨hroom, hnext⟩ := hstep
        cases hnext
        exact .eventData hpost hevents hdata hroom
      · next hdata =>
        cases hstep
        exact .eventNoData hpost hevents hdata
    · cases hstep
  | runReturns =>
    simp only [step, promptStep] at hstep
    split at hstep
    · next hpost hevents hreceived =>
      cases hstep
      exact .runReturns hpost hevents hreceived
    · cases hstep
  | streamEnds =>
    simp only [step, promptStep] at hstep
    split at hstep
    · next hpost hevents hreceived hbody =>
      cases hstep
      exact .streamEnds hpost hevents hreceived hbody
    · cases hstep
  | ack =>
    simp only [step, promptStep] at hstep
    split at hstep
    · next hpost =>
      obtain ⟨call, hcall, rfl⟩ := callStep_cases hstep
      exact .ackOk hpost hcall
    · next error hpost =>
      obtain ⟨call, hcall, rfl⟩ := callStep_cases hstep
      exact .ackError hpost hcall
    · cases hstep
  | read room =>
    simp only [step, promptStep] at hstep
    split at hstep
    · next chunks hreader =>
      rw [ite_none_right_eq_some] at hstep
      obtain ⟨hroom, hstep⟩ := hstep
      obtain ⟨⟨piece, middle⟩, hmiddle, rfl⟩ := map_eq_some_iff.mp hstep
      unfold pollRead at hmiddle
      split at hmiddle
      · next hbuffer =>
        split at hmiddle
        · cases hmiddle
        · next data readChannel hchannel =>
          cases hmiddle
          exact .readItem hroom hreader (List.isEmpty_iff.mp hbuffer) hchannel
      · next hbuffer =>
        cases hmiddle
        exact .readRest hroom hreader (by simpa using hbuffer)
    · cases hstep
  | readLine =>
    simp only [step, promptStep, readLine] at hstep
    split at hstep
    · cases hstep
    · next unread hread =>
      obtain ⟨chunks, hreader, hread⟩ := bind_eq_some_iff.mp hread
      cases hstep
      exact .readEof hreader hread
    · next unread hread =>
      obtain ⟨chunks, hreader, hread⟩ := bind_eq_some_iff.mp hread
      cases hstep
      exact .readDropped hreader hread (.inl rfl)
    · next text unread hread =>
      obtain ⟨chunks, hreader, hread⟩ := bind_eq_some_iff.mp hread
      split at hstep
      · next hdecode =>
        cases hstep
        exact .readDropped hreader hread (.inr ⟨text, rfl, hdecode⟩)
      · next message hdecode =>
        rw [ite_none_right_eq_some] at hstep
        obtain ⟨hroom, hnext⟩ := hstep
        cases hnext
        exact .readMessage hreader hread hdecode hroom
  | receive =>
    simp only [step, promptStep] at hstep
    split at hstep
    · next message stream hreceive hopen hstream =>
      cases hstep
      exact .receive hreceive hopen hstream
    · cases hstep
  | streamClosed =>
    simp only [step, promptStep] at hstep
    split at hstep
    · next hreceive hopen hstream hreader =>
      cases hstep
      exact .streamClosed hreceive hopen hstream hreader
    · cases hstep
  | reply =>
    simp only [step, promptStep] at hstep
    split at hstep
    · next result hreceive hpost =>
      cases hstep
      exact .reply hreceive hpost
    · cases hstep
  | timeout =>
    simp only [step] at hstep
    rw [ite_none_right_eq_some] at hstep
    obtain ⟨hquiet, hstep⟩ := hstep
    obtain ⟨call, hcall, rfl⟩ := callStep_cases hstep
    exact .timeout hquiet hcall

end McpSdk.PostStream
