/-
The response to a POST as a whole: in every interleaving a lone response reaches
the caller, and no other stream is handled completely.
-/
import McpSdk.LoneResponse

namespace McpSdk.PostStream

open List Option

universe u v

variable {ι : Type u} {β : Type v} [DecidableEq ι] {self : State ι β}
  {data : Bytes} {response : ServerMessage ι β} {id : ι}

theorem Alone.post_ne_idle {client : Client ι β} (hdata : Reads client data response)
    (hself : Alone id response data self) (hflight : inFlight self = []) : self.post ≠ .idle := by
  intro hidle
  have hreceived : self.receivedResponse = false := by
    simpa [hidle, PostAt] using hself.post
  have hremaining := hself.remaining
  obtain ⟨line, text, rfl, -⟩ := hdata
  simp [inFlight, hremaining, hreceived] at hflight

theorem handleMessage_answers {client : Client ι β} (self : State ι β)
    {call : SendMessage.State ι (ServerMessage ι β)}
    (hanswers : Answers id response) (haccepts : accepts client response = true)
    (hrespond : SendMessage.step .client (message id) self.call
      (.respond id response) = some call) :
    handleMessage client id self response =
      { self with call, receive := .returned } := by
  cases response with
  | request | notification => cases hanswers
  | response answered result =>
    change answered = id at hanswers
    subst hanswers
    simp [handleMessage, resolve, hrespond]
  | error answered error =>
    change answered = some id at hanswers
    change client.handleError error = true at haccepts
    subst hanswers
    simp [handleMessage, haccepts, resolve, hrespond]

section

variable (hself : Alone id response data self)

include hself

theorem Alone.call_work {call : SendMessage.State ι (ServerMessage ι β)} {post : Post}
    (hpost : PostAt self.receivedResponse post) (hrank : postRank post ≤ postRank self.post)
    (hcall : ∀ {answered}, CallAt id response answered self.post self.call →
      CallAt id response answered post call ∧ callRank call < callRank self.call) :
    Alone id response data { self with call, post } ∧
      work { self with call, post } < work self := by
  refine ⟨hself.call hpost fun hat => (hcall hat).1, ?_⟩
  obtain ⟨answered, hat⟩ := hself.exists_callAt
  have hless := (hcall hat).2
  have hwork := work_call self call post
  omega

variable {next : State ι β}

theorem Alone.chunk {chunk : Bytes} {body : List Bytes}
    (hevents : self.events = [])
    (hbody : self.body = chunk :: body)
    (hnext : next = { self with
      body
      events := (self.parser.processNewChunk chunk).1
      parser := (self.parser.processNewChunk chunk).2 }) :
    Alone id response data next ∧ work next < work self := by
  subst hnext
  have hremaining : PostStream.remaining
      { self with
        body
        events := (self.parser.processNewChunk chunk).1
        parser := (self.parser.processNewChunk chunk).2 } =
        PostStream.remaining self := by
    simp [PostStream.remaining, hevents, hbody, SseParser.processChunks]
  refine ⟨⟨?_, hself.post, hself.reader, hself.channel, ?_⟩, ?_⟩
  · rw [hremaining]
    exact hself.remaining
  · refine hself.place.move rfl rfl (fun hat => hat) rfl ?_
    simp only [inFlight, hremaining]
  · simp only [work, hremaining, hbody, length_cons]
    omega

theorem Alone.eventData {client : Client ι β} {item : Bytes} {event : SseEvent}
    {events : List SseEvent} (hdata : Reads client data response)
    (hpost : self.post = .running)
    (hevents : self.events = event :: events) (hitem : event.data = some item)
    (hnext : next = { self with
      events
      lastEventId := event.id.or self.lastEventId
      hasPrimingEvent := self.hasPrimingEvent || event.id.isSome
      receivedResponse := true
      readChannel := self.readChannel ++ [item] }) :
    Alone id response data next ∧ work next < work self := by
  subst hnext
  have honly := hself.remaining
  simp only [PostStream.remaining, hevents, PostStream.eventData,
    cons_append, filterMap_cons, hitem] at honly
  cases hreceived : self.receivedResponse with
  | true => simp [hreceived] at honly
  | false =>
    simp only [hreceived, Bool.false_eq_true, if_false, cons.injEq] at honly
    obtain ⟨rfl, hrest⟩ := honly
    refine ⟨⟨hrest, ?_, hself.reader, ?_, ?_⟩, ?_⟩
    · simp only [hpost]
      trivial
    · obtain ⟨line, text, rfl, -⟩ := hdata
      simpa using hself.channel
    · refine hself.place.move rfl rfl (fun hat => hat) rfl ?_
      simp [inFlight, PostStream.remaining, PostStream.eventData, hevents, hitem]
    · simp only [work, PostStream.remaining, hevents, cons_append, CallList.total_cons,
        CallList.total_concat, eventWork, hitem]
      omega

theorem Alone.eventNoData {event : SseEvent} {events : List SseEvent}
    (hevents : self.events = event :: events) (hitem : event.data = none)
    (hnext : next = { self with
      events
      lastEventId := event.id.or self.lastEventId
      hasPrimingEvent := self.hasPrimingEvent || event.id.isSome }) :
    Alone id response data next ∧ work next < work self := by
  subst hnext
  have hskip : PostStream.eventData (PostStream.remaining self) =
      PostStream.eventData
        (events ++ (self.parser.processChunks self.body).1) := by
    simp [PostStream.remaining, PostStream.eventData, hevents, hitem]
  refine ⟨⟨?_, hself.post, hself.reader, hself.channel, ?_⟩, ?_⟩
  · exact hskip.symm.trans hself.remaining
  · refine hself.place.move rfl rfl (fun hat => hat) rfl ?_
    simp only [inFlight, hskip]
    rfl
  · simp only [work, PostStream.remaining, hevents, cons_append, CallList.total_cons, eventWork,
      hitem]
    omega

theorem Alone.runReturns
    (hpost : self.post = .running) (hevents : self.events = [])
    (hreceived : self.receivedResponse = true)
    (hnext : next = { self with post := .returned (.ok ()), body := [] }) :
    Alone id response data next ∧ work next < work self := by
  subst hnext
  have hempty : PostStream.eventData (PostStream.remaining self) = [] := by
    simpa [hreceived] using hself.remaining
  refine ⟨⟨?_, hreceived, hself.reader, hself.channel, ?_⟩, ?_⟩
  · simp [PostStream.remaining, PostStream.eventData, hevents, hreceived, SseParser.processChunks]
  · refine hself.place.move rfl rfl ?_ rfl ?_
    · intro answered hat
      rw [hpost] at hat
      exact hat.returned
    · simp only [inFlight, hempty]
      simp [PostStream.remaining, PostStream.eventData, hevents, SseParser.processChunks]
  · simp only [work, hpost, postRank, PostStream.remaining, hevents,
      SseParser.processChunks, length_nil, append_nil, CallList.total, foldr_nil]
    omega

variable {chunks : List Bytes}

theorem Alone.readItem {room : Nat} {readChannel : List Bytes} {item : Bytes}
    (hroom : 0 < room)
    (hreader : self.reader = some chunks) (hbuffer : self.readBuffer = [])
    (hchannel : self.readChannel = item :: readChannel)
    (hnext : next = { self with
      readBuffer := item.drop room
      readChannel
      reader := some (chunks ++ [item.take room]) }) :
    Alone id response data next ∧ work next < work self := by
  subst hnext
  have hitems := hself.channel
  rw [hchannel, mem_cons, not_or] at hitems
  refine ⟨hself.shift hreader ?_ hitems.2 ?_, ?_⟩
  · simp [Nat.ne_of_gt hroom, Ne.symm hitems.1]
  · rw [take_append_drop, hbuffer, hchannel]
    rfl
  · have hlength : (item.take room).length + (item.drop room).length =
        item.length := by
      rw [← length_append, take_append_drop]
    simp only [work, hreader, hbuffer, hchannel, PostStream.remaining,
      getD_some, flatten_append, flatten_singleton, length_append, CallList.total_cons, length_nil]
    omega

theorem Alone.readRest {room : Nat}
    (hroom : 0 < room) (hreader : self.reader = some chunks)
    (hbuffer : self.readBuffer ≠ [])
    (hnext : next = { self with
      readBuffer := self.readBuffer.drop room
      reader := some (chunks ++ [self.readBuffer.take room]) }) :
    Alone id response data next ∧ work next < work self := by
  subst hnext
  have hpiece : self.readBuffer.take room ≠ [] := by
    simp [Nat.ne_of_gt hroom, hbuffer]
  refine ⟨hself.shift hreader hpiece hself.channel ?_, ?_⟩
  · rw [take_append_drop]
  · have hlength : (self.readBuffer.take room).length +
        (self.readBuffer.drop room).length = self.readBuffer.length := by
      rw [← length_append, take_append_drop]
    have hpositive := length_pos_iff.mpr hpiece
    simp only [work, hreader, PostStream.remaining, getD_some,
      flatten_append, flatten_singleton, length_append]
    omega

theorem Alone.readMessage {client : Client ι β} {message : ServerMessage ι β}
    {unread : List Bytes} {text : Str} (hdata : Reads client data response)
    (hreader : self.reader = some chunks)
    (hread : readCappedLine client.maxLineLength false chunks =
      some (.line text, unread)) (hdecode : client.decode text = some message)
    (hnext : next = { self with
      reader := some unread, stream := self.stream ++ [message] }) :
    Alone id response data next ∧ work next < work self := by
  subst hnext
  obtain ⟨⟨text', htext, hdecode'⟩, hflight, hwhole, htail, hnil⟩ := hself.read hdata hreader hread
  cases htext
  rw [hdecode] at hdecode'
  cases hdecode'
  have hpositive : 0 < chunks.flatten.length := by
    obtain ⟨line, text, rfl, -⟩ := hdata
    simp [hwhole]
  have hbehind : self.readBuffer ++ (self.readChannel.flatten ++
      (PostStream.eventData (PostStream.remaining self)).flatten) = [] := by
    simp only [inFlight, hreader, getD_some, hwhole] at hflight
    exact append_right_eq_self.mp hflight
  refine ⟨⟨hself.remaining, hself.post, ⟨unread, rfl, hnil⟩, hself.channel, ?_⟩, ?_⟩
  · cases hself.place with
    | flying hhandled hwaiting hat hstream _ =>
      refine .decoded hhandled hwaiting hat ?_ ?_
      · simp [hstream]
      · simp only [inFlight, getD_some, htail, nil_append]
        exact hbehind
    | decoded _ _ _ _ hempty | handled _ _ _ _ hempty =>
      simp [inFlight, hreader, length_pos_iff.mp hpositive] at hempty
  · simp only [work, hreader, PostStream.remaining, getD_some, htail,
      length_append, length_singleton, length_nil]
    omega

end

theorem Alone.receive {client : Client ι β} {id : ι}
    {response message : ServerMessage ι β} {stream : List (ServerMessage ι β)}
    (hdata : Reads client data response) (hanswers : Answers id response)
    (haccepts : accepts client response = true)
    (hself : Alone id response data self) (hreceive : self.receive = .waiting)
    (hstream : self.stream = message :: stream) {next : State ι β}
    (hnext : next = handleMessage client id
      { self with stream, handled := self.handled ++ [message] } message) :
    Alone id response data next ∧ work next < work self := by
  subst hnext
  cases hself.place with
  | flying _ _ _ hempty _ =>
    rw [hstream] at hempty
    cases hempty
  | handled _ hreturned _ _ _ =>
    rw [hreceive] at hreturned
    cases hreturned
  | decoded hhandled _ hat hdecoded hflight =>
    rw [hstream, cons.injEq] at hdecoded
    obtain ⟨rfl, rfl⟩ := hdecoded
    have hpost : self.post ≠ .idle := hself.post_ne_idle hdata hflight
    obtain ⟨call, hrespond, hat', hrank⟩ := hat.respond hpost
    rw [handleMessage_answers
      { self with stream := [], handled := self.handled ++ [message] }
      hanswers haccepts hrespond]
    refine ⟨⟨hself.remaining, hself.post, hself.reader, hself.channel, ?_⟩, ?_⟩
    · exact .handled (by simp [hhandled]) rfl hat' rfl hflight
    · simp only [work, hrank, hstream, PostStream.remaining, length_cons]
      omega

theorem Alone.receive_ne_replying (hself : Alone id response data self) :
    self.receive ≠ .replying := by
  cases hself.place with
  | flying _ hreceive _ _ _ | decoded _ hreceive _ _ _
  | handled _ hreceive _ _ _ => simp [hreceive]

/-- A step keeps the only response on its way, and alone. -/
theorem Alone.step {client : Client ι β} {id : ι} {response : ServerMessage ι β}
    {self next : State ι β} {action : Action} (hdata : Reads client data response)
    (hanswers : Answers id response) (haccepts : accepts client response = true)
    (hself : Alone id response data self)
    (hstep : PostStream.step client id self action = some next) :
    Alone id response data next ∧ work next < work self := by
  cases step_cases hstep with
  | call haction hcall =>
    exact hself.call_work hself.post le_rfl fun hat => hat.own haction hcall
  | post hpost hcall =>
    refine hself.call_work trivial (by simp [hpost, postRank]) ?_
    intro answered hat
    rw [hpost] at hat
    exact hat.post hcall
  | ackOk hpost hcall =>
    refine hself.call_work hself.post le_rfl ?_
    intro answered hat
    rw [hpost] at hat ⊢
    exact hat.ack hcall
  | ackError hpost hcall =>
    have hfalse := hself.post
    rw [hpost] at hfalse
    cases hfalse
  | timeout hquiet hcall =>
    cases SendMessage.step_cases hcall with
    | timeout hphase hget hnone hpoll =>
      have hopen : callReturned self = false := by
        simp [callReturned, hphase]
      rw [hself.not_quiescent hdata hopen] at hquiet
      cases hquiet
  | chunk hpost hevents hreceived hbody =>
    exact hself.chunk hevents hbody rfl
  | eventData hpost hevents hitem hroom =>
    exact hself.eventData hdata hpost hevents hitem rfl
  | eventNoData hpost hevents hitem =>
    exact hself.eventNoData hevents hitem rfl
  | runReturns hpost hevents hreceived =>
    exact hself.runReturns hpost hevents hreceived rfl
  | streamEnds hpost hevents hreceived hbody =>
    have hfalse := hself.remaining
    simp [PostStream.remaining, hevents, hreceived, hbody,
      SseParser.processChunks, PostStream.eventData] at hfalse
  | readItem hroom hreader hbuffer hchannel =>
    exact hself.readItem hroom hreader hbuffer hchannel rfl
  | readRest hroom hreader hbuffer =>
    exact hself.readRest hroom hreader hbuffer rfl
  | readEof hreader hread =>
    obtain ⟨⟨text, htext, -⟩, -⟩ := hself.read hdata hreader hread
    cases htext
  | readDropped hreader hread hdropped =>
    obtain ⟨⟨text, rfl, hdecode⟩, -⟩ := hself.read hdata hreader hread
    rcases hdropped with htooLong | ⟨other, hother, hnone⟩
    · cases htooLong
    · cases hother
      rw [hdecode] at hnone
      cases hnone
  | readMessage hreader hread hdecode hroom =>
    exact hself.readMessage hdata hreader hread hdecode rfl
  | receive hreceive hopen hstream =>
    exact hself.receive hdata hanswers haccepts hreceive hstream rfl
  | streamClosed hreceive hopen hstream hreader =>
    obtain ⟨chunks, hsome, -⟩ := hself.reader
    rw [hreader] at hsome
    cases hsome
  | reply hreceive hpost =>
    exact absurd hreceive hself.receive_ne_replying

theorem step_eq_promptStep (client : Client ι β) (id : ι) (self : State ι β)
    {action : Action} (haction : action ∈ promptActions) :
    step client id self action = promptStep client id self action := by
  cases action with
  | timeout => exact absurd haction (by decide)
  | _ => rfl

theorem Alone.complete {client : Client ι β} {id : ι} {response : ServerMessage ι β}
    (hdata : Reads client data response) (hself : Alone id response data self)
    (hnone : ∀ action, PostStream.step client id self action = none) :
    Complete [response] response self := by
  have hreturned : callReturned self = true := by
    by_contra hopen
    rw [Bool.not_eq_true] at hopen
    obtain ⟨action, haction, hsome⟩ := hself.progress hdata hopen
    rw [← step_eq_promptStep client id self haction, hnone action] at hsome
    cases hsome
  obtain ⟨result, hphase⟩ : ∃ result, self.call.phase = .returned result := by
    unfold callReturned at hreturned
    split at hreturned
    · next result hphase => exact ⟨result, hphase⟩
    · cases hreturned
  cases hself.place with
  | flying _ _ hat _ _ | decoded _ _ hat _ _ =>
    have hanswered := hat.2
    rw [hphase] at hanswered
    cases hanswered.1
  | handled hhandled _ hat _ _ =>
    have hanswered := hat.2
    rw [hphase] at hanswered
    refine ⟨hhandled, ?_⟩
    rw [hphase, hanswered.2]

theorem exists_alone_initial {client : Client ι β} (id : ι)
    (hcarries : Carries client chunks.flatten [response]) :
    ∃ data, Reads client data response ∧ Alone id response data (initial id chunks) := by
  have hparsed := SseParser.new_settled.processChunks chunks
  unfold Carries at hcarries
  rw [← hparsed] at hcarries
  generalize hevents : eventData (SseParser.new.processChunks chunks).1 = items
    at hcarries
  cases hcarries with
  | @cons data _ _ _ hdata hnil =>
    cases hnil
    refine ⟨data, hdata, hevents, rfl, ⟨[], rfl, by simp⟩, by simp [initial], ?_⟩
    refine .flying rfl rfl ⟨fun _ hne => absurd rfl hne, ?_⟩ rfl ?_
    · exact ⟨rfl, rfl, .inl ⟨rfl, rfl, rfl⟩⟩
    · simp only [inFlight, remaining, initial, getD_some,
        flatten_nil, nil_append, hevents, flatten_singleton]

/-- A lone response that is accepted is returned for sure. -/
theorem inevitable_of_lone {client : Client ι β} (hanswers : Answers id response)
    (hcarries : Carries client chunks.flatten [response])
    (haccepts : accepts client response = true) :
    Lts.Inevitable (step client id) (initial id chunks) (Complete [response] response) := by
  obtain ⟨data, hdata, hinit⟩ := exists_alone_initial id hcarries
  refine @Lts.inevitable_of_measure _ _ _ work (Alone id response data) _ _ ?_ ?_ hinit
  · intro state next action hstate hstep
    exact hstate.step hdata hanswers haccepts hstep
  · intro state hstate hnone
    exact hstate.complete hdata hnone

/-- A run in which all is handled and answered exists only for a lone response. -/
theorem lone_of_complete {client : Client ι β} {id : ι}
    {chunks : List Bytes} {actions : List Action} {final : State ι β}
    {before : List (ServerMessage ι β)} {response : ServerMessage ι β}
    (hrun : Lts.run (step client id) (initial id chunks) actions = some final)
    (hfinal : Complete (before ++ [response]) response final) :
    before = [] ∧ accepts client response = true := by
  have honce : Once client id final := by
    exact Lts.run_keeps Once.step (initial_once client id chunks) hrun
  obtain ⟨hhandled, hphase⟩ := hfinal
  have hbefore : before = [] := by
    have hlength := honce.handled
    rw [hhandled, length_append, length_singleton] at hlength
    exact eq_nil_of_length_eq_zero (by omega)
  subst hbefore
  refine ⟨rfl, ?_⟩
  rcases honce.answer with hunanswered | ⟨message, hmem, haccepts⟩
  · exact absurd rfl (hunanswered.result _ hphase id response)
  · rw [hhandled, nil_append, mem_singleton] at hmem
    rw [← hmem]
    exact haccepts

end McpSdk.PostStream
