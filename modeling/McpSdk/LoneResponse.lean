/-
The event stream that holds nothing but the response: where that can be, how far
each task can be, and that some task can always move.
-/
import McpSdk.CallList
import McpSdk.PostDelivery

namespace McpSdk.PostStream

open List Option SendMessage

universe u v

variable {ι : Type u} {β : Type v}

/-- The receiver of the call, and its entry while it waits. -/
def Holds (id : ι) (response : ServerMessage ι β) (answered : Bool)
    (outcome : Option (Except TransportError (ServerMessage ι β)))
    (receivers : List (Receiver ι (ServerMessage ι β))) : Prop :=
  receivers = [⟨id, if answered then .sent response else .empty, outcome⟩]

def remaining (self : State ι β) : List SseEvent :=
  self.events ++ (self.parser.processChunks self.body).1

def inFlight (self : State ι β) : Bytes :=
  (self.reader.getD []).flatten ++ (self.readBuffer ++
    (self.readChannel.flatten ++ (eventData (remaining self)).flatten))

/-- How far the POST can be, by whether data has been passed on. -/
def PostAt (received : Bool) : Post → Prop
  | .idle => received = false
  | .running => True
  | .returned (.ok _) => received = true
  | .returned (.error _) => False

def callRank (call : SendMessage.State ι (ServerMessage ι β)) : Nat :=
  match call.phase with
  | .register todo => 6 + todo.length
  | .serialize => 5
  | .write => 4
  | .written => 3
  | .wait => 1 + call.receivers.countP (·.outcome.isNone)
  | .returned _ => 0

/-- The work that an event makes for the tasks behind it. -/
def eventWork (event : SseEvent) : Nat :=
  match event.data with
  | some data => 3 * data.length + 2
  | none => 1

def postRank : Post → Nat
  | .idle => 2
  | .running => 1
  | .returned _ => 0

/-- The work that is left: every step takes some away. -/
def work (self : State ι β) : Nat :=
  callRank self.call + postRank self.post + self.body.length +
    CallList.total eventWork (remaining self) +
    CallList.total (fun item => 3 * item.length + 1) self.readChannel +
    3 * self.readBuffer.length + 2 * (self.reader.getD []).flatten.length +
    self.stream.length

theorem work_call (self : State ι β)
    (call : SendMessage.State ι (ServerMessage ι β)) (post : Post) :
    work { self with call, post } + callRank self.call + postRank self.post =
      work self + callRank call + postRank post := by
  simp only [work, remaining]
  omega

variable [DecidableEq ι]

/-- How far the call can be, by the POST and by whether it was answered. -/
def CallAt (id : ι) (response : ServerMessage ι β) (answered : Bool)
    (post : Post) (call : SendMessage.State ι (ServerMessage ι β)) : Prop :=
  (answered = false → call.phase ≠ .register [id] →
    call.pendingRequests.lookup id = some (.own 0)) ∧
  match call.phase with
  | .register todo =>
    post = .idle ∧ answered = false ∧
      (todo = [id] ∧ call.receivers = [] ∧ call.pendingRequests.lookup id = none ∨
        todo = [] ∧ Holds id response false none call.receivers)
  | .serialize | .write =>
    post = .idle ∧ answered = false ∧ Holds id response false none call.receivers
  | .written => post ≠ .idle ∧ Holds id response answered none call.receivers
  | .wait =>
    post = .returned (.ok ()) ∧
      (Holds id response answered none call.receivers ∨
        answered = true ∧ Holds id response true (some (.ok response)) call.receivers)
  | .returned result =>
    answered = true ∧ result = .ok (some (.single response))

variable {response : ServerMessage ι β} {id : ι} {answered : Bool}

theorem CallAt.own {post : Post} {call next : SendMessage.State ι (ServerMessage ι β)}
    {action : Action} {own : SendMessage.Action ι (ServerMessage ι β)}
    (hcall : CallAt id response answered post call) (haction : callAction id action = some own)
    (hstep : SendMessage.step .client (message id) call own = some next) :
    CallAt id response answered post next ∧ callRank next < callRank call := by
  obtain ⟨hentry, hat⟩ := hcall
  cases action with
  | register =>
    cases haction
    cases SendMessage.step_cases hstep with
    | @register _ todo hphase =>
      simp only [hphase, cons.injEq, true_and] at hat
      obtain ⟨hpost, rfl, ⟨rfl, hempty, hnone⟩ | ⟨hnil, -⟩⟩ := hat
      · simp [CallAt, callRank, Holds, dropSender, hphase, hpost, hempty, hnone]
      · cases hnil
  | registered =>
    cases haction
    cases SendMessage.step_cases hstep with
    | registered hphase =>
      rw [hphase] at hat hentry
      obtain ⟨hpost, rfl, ⟨hnil, -⟩ | ⟨-, hholds⟩⟩ := hat
      · cases hnil
      · have hlookup := hentry rfl (by simp)
        simp [CallAt, callRank, hphase, registersFirst, hpost, hholds, hlookup]
  | serialize =>
    cases haction
    cases SendMessage.step_cases hstep with
    | serialize hphase =>
      rw [hphase] at hat hentry
      obtain ⟨hpost, rfl, hholds⟩ := hat
      have hlookup := hentry rfl (by simp)
      simp [CallAt, callRank, hphase, hpost, hholds, hlookup]
  | take =>
    cases haction
    cases SendMessage.step_cases hstep with
    | @take _ receiver outcome hphase hget hnone hpoll =>
      rw [hphase] at hat
      obtain ⟨hpost, hholds | ⟨-, hholds⟩⟩ := hat
      · rw [Holds] at hholds
        rw [hholds] at hget
        cases hget
        -- only a response that has been sent can be taken
        cases answered with
        | false => cases hpoll
        | true =>
          cases hpoll
          simp [CallAt, callRank, Holds, Receiver.settle, hphase, hholds, hpost]
      · rw [Holds] at hholds
        rw [hholds] at hget
        cases hget
        cases hnone
  | finish =>
    cases haction
    cases SendMessage.step_cases hstep with
    | finish hphase hall =>
      rw [hphase] at hat
      obtain ⟨hpost, hholds | ⟨rfl, hholds⟩⟩ := hat
      · rw [Holds] at hholds
        simp [hholds] at hall
      · rw [Holds] at hholds
        simp [CallAt, callRank, SendMessage.result, message, hphase, hholds]
  | _ => cases haction

theorem CallAt.post {call next : SendMessage.State ι (ServerMessage ι β)}
    (hcall : CallAt id response answered .idle call)
    (hstep : SendMessage.step .client (message id) call .writePayload = some next) :
    CallAt id response answered .running next ∧ callRank next < callRank call := by
  obtain ⟨hentry, hat⟩ := hcall
  cases SendMessage.step_cases hstep with
  | writePayload hphase =>
    rw [hphase] at hat hentry
    obtain ⟨-, rfl, hholds⟩ := hat
    have hlookup := hentry rfl (by simp)
    simp [CallAt, callRank, hphase, hholds, hlookup]

theorem CallAt.ack {call next : SendMessage.State ι (ServerMessage ι β)}
    (hcall : CallAt id response answered (.returned (.ok ())) call)
    (hstep : SendMessage.step .client (message id) call .writeReturns = some next) :
    CallAt id response answered (.returned (.ok ())) next ∧ callRank next < callRank call := by
  obtain ⟨hentry, hat⟩ := hcall
  cases SendMessage.step_cases hstep with
  | writeReturns hphase =>
    rw [hphase] at hat hentry
    obtain ⟨-, hholds⟩ := hat
    have hids : (message id).requestIds ≠ [] := by
      simp [message, Messages.requestIds, Message.requestId]
    have hlookup : answered = false → call.pendingRequests.lookup id = some (.own 0) :=
      fun hanswered => hentry hanswered (by simp)
    have hcount : call.receivers.countP (·.outcome.isNone) = 1 := by
      rw [hholds]
      rfl
    refine ⟨⟨fun hanswered _ => hlookup hanswered, ?_⟩, ?_⟩
    · simp [hids, registersFirst, hholds]
    · simp [callRank, hphase, hids, registersFirst, hcount]

theorem CallAt.returned {call : SendMessage.State ι (ServerMessage ι β)}
    (hcall : CallAt id response answered .running call) :
    CallAt id response answered (.returned (.ok ())) call := by
  obtain ⟨hentry, hat⟩ := hcall
  refine ⟨hentry, ?_⟩
  cases hphase : call.phase with
  | written =>
    rw [hphase] at hat
    exact ⟨nofun, hat.2⟩
  | returned result =>
    rw [hphase] at hat
    exact hat
  | _ =>
    rw [hphase] at hat
    cases hat.1

theorem CallAt.respond {post : Post} {call : SendMessage.State ι (ServerMessage ι β)}
    (hcall : CallAt id response false post call) (hpost : post ≠ .idle) :
    ∃ next, SendMessage.step .client (message id) call (.respond id response) = some next ∧
      CallAt id response true post next ∧ callRank next = callRank call := by
  obtain ⟨hentry, hat⟩ := hcall
  have hmem : id ∈ (message id).requestIds := by
    simp [message, Messages.requestIds, Message.requestId]
  cases hphase : call.phase with
  | written =>
    rw [hphase] at hat hentry
    have hlookup := hentry rfl (by simp)
    have hholds := hat.2
    rw [Holds] at hholds
    simp [SendMessage.step, hmem, hlookup, CallAt, callRank, Holds, hphase,
      hholds, hpost, Receiver.send]
  | wait =>
    rw [hphase] at hat hentry
    have hlookup := hentry rfl (by simp)
    obtain ⟨hreturned, hholds | ⟨hanswered, -⟩⟩ := hat
    · rw [Holds] at hholds
      simp [SendMessage.step, hmem, hlookup, CallAt, callRank, Holds, hphase,
        hholds, hreturned, Receiver.send]
    · cases hanswered
  | returned result =>
    rw [hphase] at hat
    cases hat.1
  | _ =>
    rw [hphase] at hat
    exact absurd hat.1 hpost

/-- Where the only response is. -/
inductive Place (id : ι) (response : ServerMessage ι β) (data : Bytes)
    (state : State ι β) : Prop where
  | flying (hhandled : state.handled = []) (hreceive : state.receive = .waiting)
      (hcall : CallAt id response false state.post state.call)
      (hstream : state.stream = []) (hflight : inFlight state = data)
  | decoded (hhandled : state.handled = [])
      (hreceive : state.receive = .waiting)
      (hcall : CallAt id response false state.post state.call)
      (hstream : state.stream = [response]) (hflight : inFlight state = [])
  | handled (hhandled : state.handled = [response])
      (hreceive : state.receive = .returned)
      (hcall : CallAt id response true state.post state.call)
      (hstream : state.stream = []) (hflight : inFlight state = [])

/-- The system while it works on a lone response. -/
structure Alone (id : ι) (response : ServerMessage ι β) (data : Bytes)
    (state : State ι β) : Prop where
  remaining : eventData (remaining state) = if state.receivedResponse then [] else [data]
  post : PostAt state.receivedResponse state.post
  reader : ∃ chunks, state.reader = some chunks ∧ [] ∉ chunks
  channel : [] ∉ state.readChannel
  place : Place id response data state

variable {data : Bytes}

theorem Place.move {self next : State ι β} (hself : Place id response data self)
    (hhandled : next.handled = self.handled) (hreceive : next.receive = self.receive)
    (hcall : ∀ {answered}, CallAt id response answered self.post self.call →
      CallAt id response answered next.post next.call)
    (hstream : next.stream = self.stream) (hflight : inFlight next = inFlight self) :
    Place id response data next := by
  cases hself with
  | flying h1 h2 hat h3 h4 =>
    exact .flying (hhandled.trans h1) (hreceive.trans h2) (hcall hat)
      (hstream.trans h3) (hflight.trans h4)
  | decoded h1 h2 hat h3 h4 =>
    exact .decoded (hhandled.trans h1) (hreceive.trans h2) (hcall hat)
      (hstream.trans h3) (hflight.trans h4)
  | handled h1 h2 hat h3 h4 =>
    exact .handled (hhandled.trans h1) (hreceive.trans h2) (hcall hat)
      (hstream.trans h3) (hflight.trans h4)

variable {self : State ι β}

theorem callStep_isSome {own : SendMessage.Action ι (ServerMessage ι β)}
    (hreceive : self.receive ≠ .panicked)
    (hown : (SendMessage.step .client (message id) self.call own).isSome) :
    (callStep id self own).isSome := by
  simpa [callStep, hreceive] using hown

section

variable (hself : Alone id response data self)

include hself

theorem Alone.call {call : SendMessage.State ι (ServerMessage ι β)} {post : Post}
    (hpost : PostAt self.receivedResponse post)
    (hcall : ∀ {answered}, CallAt id response answered self.post self.call →
      CallAt id response answered post call) :
    Alone id response data { self with call, post } :=
  ⟨hself.remaining, hpost, hself.reader, hself.channel, hself.place.move rfl rfl hcall rfl rfl⟩

theorem Alone.shift {chunks readChannel : List Bytes} {piece readBuffer : Bytes}
    (hreader : self.reader = some chunks) (hpiece : piece ≠ []) (hchannel : [] ∉ readChannel)
    (hbytes : piece ++ readBuffer ++ readChannel.flatten =
      self.readBuffer ++ self.readChannel.flatten) :
    Alone id response data
      { self with
        readBuffer, readChannel, reader := some (chunks ++ [piece]) } := by
  obtain ⟨chunks', hreader', hnil⟩ := hself.reader
  rw [hreader] at hreader'
  cases hreader'
  refine ⟨hself.remaining, hself.post, ⟨_, rfl, ?_⟩, hchannel, ?_⟩
  · simp [hnil, Ne.symm hpiece]
  · refine hself.place.move rfl rfl (fun hat => hat) rfl ?_
    have hflight := congrArg
      (chunks.flatten ++ · ++ (eventData (PostStream.remaining self)).flatten) hbytes
    simpa [inFlight, PostStream.remaining, hreader] using hflight

theorem Alone.exists_callAt : ∃ answered, CallAt id response answered self.post self.call := by
  cases hself.place with
  | flying _ _ hat _ _ | decoded _ _ hat _ _ => exact ⟨false, hat⟩
  | handled _ _ hat _ _ => exact ⟨true, hat⟩

variable {client : Client ι β}

theorem Alone.read {chunks unread : List Bytes} {read : LineRead}
    (hdata : Reads client data response) (hreader : self.reader = some chunks)
    (hread : readCappedLine client.maxLineLength false chunks = some (read, unread)) :
    (∃ text, read = .line text ∧ client.decode text = some response) ∧
      inFlight self = data ∧ chunks.flatten = data ∧ unread.flatten = [] ∧ [] ∉ unread := by
  obtain ⟨line, text, rfl, hline, hcap, hdecode⟩ := hdata
  obtain ⟨chunks', hreader', hnil⟩ := hself.reader
  rw [hreader] at hreader'
  cases hreader'
  have hnewline : newline ∈ chunks.flatten := by
    by_contra hpart
    rw [readCappedLine_pending hnil hpart] at hread
    cases hread
  have hflight : inFlight self = line ++ [newline] := by
    have hempty : inFlight self ≠ [] := by
      simp only [inFlight, hreader, getD_some, ne_eq, append_eq_nil_iff, not_and]
      intro hchunks
      rw [hchunks] at hnewline
      cases hnewline
    cases hself.place with
    | flying _ _ _ _ hflight => exact hflight
    | decoded _ _ _ _ hflight | handled _ _ _ _ hflight =>
      exact absurd hflight hempty
  -- the newline is the last byte in flight, so nothing is left behind it
  have hwhole : chunks.flatten = line ++ [newline] := by
    have hsplit := hflight
    simp only [inFlight, hreader, getD_some] at hsplit
    rcases append_eq_append_iff.mp hsplit with
      ⟨later, hlater, -⟩ | ⟨later, hlater, hlast⟩
    · exact absurd (hlater ▸ mem_append_left later hnewline) hline
    · cases later with
      | nil =>
        rw [append_nil] at hlater
        exact absurd (hlater ▸ hnewline) hline
      | cons byte later =>
        rw [cons_append, cons.injEq] at hlast
        have hlater' := (append_eq_nil_iff.mp hlast.2.symm).1
        rw [hlater, ← hlast.1, hlater']
  obtain ⟨unread', hunread, htail, hnil'⟩ :=
    @readCappedLine_line client.maxLineLength false chunks line [] hnil hline hwhole
  rw [hunread] at hread
  cases hread
  exact ⟨⟨text, hcap, hdecode⟩, hflight, hwhole, htail, hnil'⟩

theorem Alone.receive_ne : self.receive ≠ .panicked := by
  cases hself.place with
  | flying _ hreceive _ _ _ | decoded _ hreceive _ _ _
  | handled _ hreceive _ _ _ => simp [hreceive]

theorem Alone.progress_written (hpost : self.post ≠ .idle) (hphase : self.call.phase = .written) :
    ∃ action ∈ promptActions, (promptStep client id self action).isSome := by
  obtain ⟨chunks, hreader, -⟩ := hself.reader
  cases hcase : self.post with
  | idle => exact absurd hcase hpost
  | returned result =>
    refine ⟨.ack, by decide, ?_⟩
    cases result with
    | error error => simpa [hcase, PostAt] using hself.post
    | ok value =>
      simp only [promptStep, hcase]
      apply callStep_isSome hself.receive_ne
      simp [SendMessage.step, hphase]
  | running =>
    cases hevents : self.events with
    | nil =>
      cases hreceived : self.receivedResponse with
      | true =>
        exact ⟨.runReturns, by decide, by simp [promptStep, hcase, hevents, hreceived]⟩
      | false =>
        cases hbody : self.body with
        | nil =>
          exact ⟨.streamEnds, by decide, by simp [promptStep, hcase, hevents, hreceived, hbody]⟩
        | cons chunk body =>
          exact ⟨.chunk, by decide, by simp [promptStep, hcase, hevents, hreceived, hbody]⟩
    | cons event events =>
      cases hdata : event.data with
      | none =>
        exact ⟨.event, by decide, by simp [promptStep, processEvent, hcase, hevents, hdata]⟩
      | some data =>
        by_cases hroom : self.readChannel.length < readCapacity
        · exact ⟨.event, by decide, by
            simp [promptStep, processEvent, hcase, hevents, hdata, hroom]⟩
        · -- the reader makes room in the full channel
          refine ⟨.read 1, by decide, ?_⟩
          cases hchannel : self.readChannel with
          | nil => simp [hchannel, readCapacity] at hroom
          | cons item items =>
            by_cases hbuffer : self.readBuffer = []
            · simp [promptStep, pollRead, hreader, hbuffer, hchannel]
            · simp [promptStep, pollRead, hreader, hbuffer]

theorem Alone.progress_flying (hdata : Reads client data response)
    (hpost : self.post = .returned (.ok ()))
    (hstream : self.stream = []) (hflight : inFlight self = data) :
    ∃ action ∈ promptActions, (promptStep client id self action).isSome := by
  obtain ⟨chunks, hreader, hnil⟩ := hself.reader
  have hreceived : self.receivedResponse = true := by
    simpa [hpost, PostAt] using hself.post
  have hremaining : eventData (PostStream.remaining self) = [] := by
    simpa [hreceived] using hself.remaining
  by_cases hbuffer : self.readBuffer = []
  · cases hchannel : self.readChannel with
    | cons item items =>
      exact ⟨.read 1, by decide, by simp [promptStep, pollRead, hreader, hbuffer, hchannel]⟩
    | nil =>
      obtain ⟨line, text, rfl, hline, hcap, hdecode⟩ := hdata
      have hwhole : chunks.flatten = line ++ [newline] := by
        simpa [inFlight, hreader, hbuffer, hchannel, hremaining] using hflight
      obtain ⟨unread, hread, -⟩ :=
        @readCappedLine_line client.maxLineLength false chunks line [] hnil hline hwhole
      refine ⟨.readLine, by decide, ?_⟩
      simp [promptStep, readLine, hreader, hread, hcap, hdecode, hstream,
        client.channelCapacity_pos]
  · exact ⟨.read 1, by decide, by simp [promptStep, pollRead, hreader, hbuffer]⟩

theorem Alone.progress (hdata : Reads client data response) (hopen : callReturned self = false) :
    ∃ action ∈ promptActions, (promptStep client id self action).isSome := by
  have hreceive := hself.receive_ne
  obtain ⟨answered, hentry, hat⟩ := hself.exists_callAt
  cases hphase : self.call.phase with
  | register todo =>
    rw [hphase] at hat
    obtain ⟨-, -, ⟨rfl, -, -⟩ | ⟨rfl, -⟩⟩ := hat
    · exact ⟨.register, by decide, callStep_isSome hreceive (by simp [SendMessage.step, hphase])⟩
    · exact ⟨.registered, by decide, callStep_isSome hreceive (by simp [SendMessage.step, hphase])⟩
  | serialize =>
    exact ⟨.serialize, by decide, callStep_isSome hreceive (by simp [SendMessage.step, hphase])⟩
  | write =>
    rw [hphase] at hat
    refine ⟨.post, by decide, ?_⟩
    simp only [promptStep, hat.1, isSome_map]
    exact callStep_isSome hreceive (by simp [SendMessage.step, hphase])
  | written =>
    rw [hphase] at hat
    exact hself.progress_written hat.1 hphase
  | returned result => simp [callReturned, hphase] at hopen
  | wait =>
    rw [hphase] at hat
    cases hself.place with
    | flying hhandled hwaiting hcall hstream hflight =>
      exact hself.progress_flying hdata hat.1 hstream hflight
    | decoded hhandled hwaiting hcall hstream hflight =>
      exact ⟨.receive, by decide, by simp [promptStep, hwaiting, hopen, hstream]⟩
    | handled hhandled hreturned hcall hstream hflight =>
      obtain ⟨-, hanswered⟩ := hcall
      rw [hphase] at hanswered
      obtain ⟨-, hholds | ⟨-, hholds⟩⟩ := hanswered
      · rw [Holds] at hholds
        exact ⟨.take, by decide, callStep_isSome hreceive (by
          simp [SendMessage.step, hphase, hholds, Slot.poll])⟩
      · rw [Holds] at hholds
        exact ⟨.finish, by decide, callStep_isSome hreceive (by
          simp [SendMessage.step, hphase, hholds])⟩

theorem Alone.not_quiescent (hdata : Reads client data response)
    (hopen : callReturned self = false) :
    quiescent client id self = false := by
  obtain ⟨action, hmem, hsome⟩ := hself.progress hdata hopen
  rw [quiescent, List.all_eq_false]
  refine ⟨action, hmem, ?_⟩
  simpa [Option.isSome_iff_ne_none] using hsome

end

end McpSdk.PostStream
