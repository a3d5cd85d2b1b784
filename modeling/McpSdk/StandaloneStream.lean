/-
The GET request of the streamable HTTP transport: header checks, the set-up of
the standalone stream, and the replay for a Last-Event-ID. Stored messages carry
their session as a label.
-/
import McpSdk.ServerFraming

namespace McpSdk

open List

universe u

variable {μ : Type u}

/-- Headers by lower-case name, in order; `none` is a value that is no text. -/
structure HeaderMap where
  entries : List (Str × Option Str)
deriving Repr, DecidableEq

def HeaderMap.get (self : HeaderMap) (name : Str) : Option (Option Str) :=
  (self.entries.find? (·.1 = name)).map (·.2)

def mcpSessionIdHeader : Str := "mcp-session-id"

def mcpProtocolVersionHeader : Str := "mcp-protocol-version"

def mcpLastEventIdHeader : Str := "last-event-id"

def acceptHeader : Str := "accept"

def maxSessionIdLen : Nat := 128

/-- Non-empty, of at most 128 bytes, all of them graphic ASCII. -/
def isValidSessionId (value : Str) : Except Str Unit :=
  let bytes := Utf8.encode value
  if value.isEmpty then .error "session ID must not be empty"
  else if bytes.length > maxSessionIdLen then
    .error "session ID exceeds maximum length of 128 bytes"
  else if !bytes.all (fun b => 0x21 ≤ b.toNat && b.toNat ≤ 0x7E) then
    .error "session ID contains invalid characters"
  else .ok ()

/-- A header that holds an id: absent, valid, or refused with a reason. -/
def parseSessionIdHeader (headers : HeaderMap) (headerName : Str) : Except Str (Option Str) :=
  match headers.get headerName with
  | none => .ok none
  | some none => .error "session ID is not valid UTF-8"
  | some (some value) =>
    match isValidSessionId value with
    | .error msg => .error msg
    | .ok () => .ok (some value)

def acceptsEventStream (headers : HeaderMap) : Bool :=
  let accept := ((headers.get acceptHeader).getD none).getD []
  (RustStr.split [','] accept).any fun val =>
    "text/event-stream".toList.isPrefixOf (RustStr.trim val)

/-- The checks made outside: `ProtocolVersion::try_from`, `HeaderValue::from_str`. -/
structure HttpChecks where
  protocolVersion : Str → Except Str Unit
  headerValue : Str → Except Str Unit

def validateMcpProtocolVersionHeader (checks : HttpChecks)
    (headers : HeaderMap) : Except Str Unit :=
  let version := ((headers.get mcpProtocolVersionHeader).getD none).getD []
  if version.isEmpty then .ok () else checks.protocolVersion version

inductive McpHttpError where
  | sessionIdInvalid (sessionId : Str)
  | httpError (message : Str)
deriving Repr, DecidableEq

/-- An error with a status, an open event stream, or a failure of the server. -/
inductive HttpReply where
  | error (status : Nat) (message : Str)
  | eventStream (status : Nat) (sessionId : Str)
  | failed (error : McpHttpError)
deriving Repr, DecidableEq

/-- What a GET request finds at the runtime of a session. -/
structure SessionRuntime where
  defaultStreamExists : Bool
  transportReady : Except Str Unit

/-- The part of the server's state that a GET request reads. -/
structure McpAppState (μ : Type u) where
  sessionStore : AList fun _ : Str => SessionRuntime
  eventStore : Option (InMemoryEventStore μ)

/-- The messages for a new stream; an error of the store replays nothing. -/
def replayedMessages (eventStore : Option (InMemoryEventStore μ))
    (lastEventId : Option Str) : List μ :=
  match lastEventId, eventStore with
  | some lastEventId, some eventStore =>
    match eventStore.eventsAfter lastEventId with
    | .ok (some events) => events.messages
    | _ => []
  | _, _ => []

/-- `create_sse_stream` without a payload: the reply, and what is replayed. -/
def createSseStream (checks : HttpChecks) (sessionId : Str)
    (state : McpAppState μ) (lastEventId : Option Str) : HttpReply × List μ :=
  match checks.headerValue sessionId with
  | .error err => (.failed (.httpError err), [])
  | .ok () =>
    (.eventStream 202 sessionId, replayedMessages state.eventStore lastEventId)

def createStandaloneStream (checks : HttpChecks) (sessionId : Str)
    (lastEventId : Option Str) (state : McpAppState μ) : HttpReply × List μ :=
  match state.sessionStore.lookup sessionId with
  | none => (.failed (.sessionIdInvalid sessionId), [])
  | some runtime =>
    if runtime.defaultStreamExists then
      (.error 409 "Only one SSE stream is allowed per session", [])
    else
      let result := createSseStream checks sessionId state lastEventId
      match result.1 with
      | .eventStream _ sessionId =>
        match runtime.transportReady with
        | .error err =>
          (.failed (.httpError
            ("Failed waiting for transport readiness: " ++ err)),
            result.2)
        | .ok () => (.eventStream 200 sessionId, result.2)
      | reply => (reply, result.2)

def handleHttpGet (checks : HttpChecks) (headers : HeaderMap)
    (state : McpAppState μ) : HttpReply × List μ :=
  if !acceptsEventStream headers then
    (.error 406 "Client must accept text/event-stream", [])
  else match validateMcpProtocolVersionHeader checks headers with
  | .error parseError =>
    (.error 400 ("Bad Request: " ++ parseError), [])
  | .ok () =>
    match parseSessionIdHeader headers mcpSessionIdHeader with
    | .error msg =>
      (.error 400 ("Invalid Mcp-Session-Id header: " ++ msg), [])
    | .ok sessionId =>
      match parseSessionIdHeader headers mcpLastEventIdHeader with
      | .error msg =>
        (.error 400 ("Invalid Mcp-Last-Event-Id header: " ++ msg), [])
      | .ok lastEventId =>
        match sessionId with
        | some sessionId =>
          createStandaloneStream checks sessionId lastEventId state
        | none => (.error 400 "Bad request: session not found", [])

/-- The sessions for which a stream can be set up. -/
def CanOpen (checks : HttpChecks) (state : McpAppState μ) (sessionId : Str) : Prop :=
  (∃ runtime, state.sessionStore.lookup sessionId = some runtime ∧
      runtime.defaultStreamExists = false) ∧
    checks.headerValue sessionId = .ok ()

theorem createStandaloneStream_replayed {checks : HttpChecks} {state : McpAppState μ}
    {sessionId : Str} (hopen : CanOpen checks state sessionId) (lastEventId : Option Str) :
    (createStandaloneStream checks sessionId lastEventId state).2 =
      replayedMessages state.eventStore lastEventId := by
  obtain ⟨⟨runtime, hruntime, hexists⟩, hvalue⟩ := hopen
  unfold createStandaloneStream createSseStream
  simp only [hruntime, hexists, hvalue, Bool.false_eq_true, ↓reduceIte]
  cases runtime.transportReady with
  | error | ok => rfl

theorem createStandaloneStream_refused {checks : HttpChecks} {state : McpAppState μ}
    {sessionId : Str} (hopen : ¬ CanOpen checks state sessionId) (lastEventId : Option Str) :
    (createStandaloneStream checks sessionId lastEventId state).2 = [] := by
  unfold createStandaloneStream createSseStream
  cases hruntime : state.sessionStore.lookup sessionId with
  | none => rfl
  | some runtime =>
    cases hexists : runtime.defaultStreamExists with
    | true => simp only [hexists, ↓reduceIte]
    | false =>
      cases hvalue : checks.headerValue sessionId with
      | error err =>
        simp only [hexists, Bool.false_eq_true, ↓reduceIte]
      | ok _ =>
        exact absurd ⟨⟨runtime, hruntime, hexists⟩, hvalue⟩ hopen

/-- The requests that come as far as the set-up of the stream. -/
def Admitted (checks : HttpChecks) (headers : HeaderMap)
    (state : McpAppState μ) (sessionId : Str) : Prop :=
  acceptsEventStream headers = true ∧
    validateMcpProtocolVersionHeader checks headers = .ok () ∧
    CanOpen checks state sessionId

/-- A request that comes as far as the set-up replays, and no other. -/
theorem handleHttpGet_replayed {checks : HttpChecks} {headers : HeaderMap}
    {state : McpAppState μ} {sessionId : Str} {lastEventId : Option Str}
    (hsession : parseSessionIdHeader headers mcpSessionIdHeader = .ok (some sessionId))
    (hlast : parseSessionIdHeader headers mcpLastEventIdHeader = .ok lastEventId) :
    (Admitted checks headers state sessionId →
        (handleHttpGet checks headers state).2 = replayedMessages state.eventStore lastEventId) ∧
      (¬ Admitted checks headers state sessionId →
        (handleHttpGet checks headers state).2 = []) := by
  unfold handleHttpGet
  cases haccept : acceptsEventStream headers with
  | false =>
    refine ⟨fun hreached => ?_, fun _ => rfl⟩
    rw [hreached.1] at haccept
    cases haccept
  | true =>
    cases hversion : validateMcpProtocolVersionHeader checks headers with
    | error err =>
      refine ⟨fun hreached => ?_, fun _ => rfl⟩
      rw [hreached.2.1] at hversion
      cases hversion
    | ok _ =>
      simp only [Bool.not_true, Bool.false_eq_true, ↓reduceIte, hsession, hlast]
      constructor
      · intro hreached
        exact createStandaloneStream_replayed hreached.2.2 lastEventId
      · intro hreached
        apply createStandaloneStream_refused
        exact fun hopen => hreached ⟨haccept, hversion, hopen⟩

theorem replayedMessages_eq (eventStore : InMemoryEventStore μ) (lastEventId : Str) :
    replayedMessages (some eventStore) (some lastEventId) =
      match InMemoryEventStore.parseEventId lastEventId with
      | .ok (sessionId, streamId, timeStamp) =>
        InMemoryEventStore.subsequent (eventStore.queue sessionId) streamId
          timeStamp
      | .error _ => [] := by
  unfold replayedMessages InMemoryEventStore.eventsAfter InMemoryEventStore.queue
  cases hparse : InMemoryEventStore.parseEventId lastEventId with
  | error err => simp only [hparse]
  | ok parts =>
    obtain ⟨sessionId, streamId, timeStamp⟩ := parts
    simp only [hparse]
    cases eventStore.storageMap.lookup sessionId with
    | none | some => rfl

theorem InMemoryEventStore.mem_of_mem_subsequent {events : List (EventEntry μ)} {streamId : Str}
    {timeStamp : Nat} {message : μ} (hmessage : message ∈ subsequent events streamId timeStamp) :
    ∃ entry ∈ events, entry.message = message := by
  unfold subsequent at hmessage
  split at hmessage
  · split at hmessage
    · obtain ⟨entry, hentry, rfl⟩ := mem_map.mp hmessage
      rw [sortByTimeStamp, mem_insertionSort, mem_filter] at hentry
      exact ⟨entry, mem_of_mem_drop hentry.1, rfl⟩
    · cases hmessage
  · cases hmessage

/-- Every stored message is labelled with the session it is stored under. -/
def InMemoryEventStore.Labelled (self : InMemoryEventStore (Str × μ)) : Prop :=
  ∀ sessionId, ∀ entry ∈ self.queue sessionId, entry.message.1 = sessionId

def InMemoryEventStore.StoreOp.label : StoreOp μ → StoreOp (Str × μ)
  | .storeEvent sessionId streamId timeStamp message =>
    .storeEvent sessionId streamId timeStamp (sessionId, message)
  | .removeStreamInSession sessionId streamId =>
    .removeStreamInSession sessionId streamId
  | .removeBySessionId sessionId => .removeBySessionId sessionId
  | .clear => .clear

theorem InMemoryEventStore.Labelled.apply {self : InMemoryEventStore (Str × μ)}
    (hself : self.Labelled) (op : StoreOp μ) : (self.apply op.label).Labelled := by
  intro sessionId entry hentry
  obtain ⟨kept, hkept, hcases⟩ := self.queue_apply_cases op.label sessionId
  rcases hcases with hqueue | ⟨streamId, timeStamp, message, hop, hqueue⟩
  · rw [hqueue] at hentry
    exact hself sessionId entry (hkept.subset hentry)
  · rw [hqueue, mem_append, mem_singleton] at hentry
    rcases hentry with hentry | rfl
    · exact hself sessionId entry (hkept.subset hentry)
    · cases op with
      | storeEvent target stream reading content =>
        simp only [StoreOp.label, StoreOp.storeEvent.injEq] at hop
        obtain ⟨rfl, -, -, rfl⟩ := hop
        rfl
      | removeStreamInSession | removeBySessionId | clear => cases hop

/-- Whatever calls fill the store, the labels are right. -/
theorem InMemoryEventStore.run_label_labelled (limit : Option Nat) (ops : List (StoreOp μ)) :
    ((new limit).run (ops.map StoreOp.label)).Labelled := by
  induction ops using List.reverseRecOn with
  | nil => intro sessionId entry hentry; cases hentry
  | append_singleton ops op ih =>
    rw [map_append, map_singleton, run_concat]
    exact ih.apply op

/-- What a GET replays was stored under its session exactly when its
Last-Event-ID names that session or finds nothing, or the request does not come
as far as the stream. -/
theorem replayed_isolated_iff (checks : HttpChecks) (headers : HeaderMap)
    (state : McpAppState (Str × μ)) (sessionId lastEventId : Str)
    (hsession : parseSessionIdHeader headers mcpSessionIdHeader = .ok (some sessionId))
    (hlast : parseSessionIdHeader headers mcpLastEventIdHeader = .ok (some lastEventId))
    (hlabels : ∀ eventStore, state.eventStore = some eventStore → eventStore.Labelled) :
    (∀ message ∈ (handleHttpGet checks headers state).2, message.1 = sessionId) ↔
      (Admitted checks headers state sessionId → ∀ eventStore owner streamId timeStamp,
          state.eventStore = some eventStore →
          InMemoryEventStore.parseEventId lastEventId = .ok (owner, streamId, timeStamp) →
          owner = sessionId ∨ InMemoryEventStore.subsequent (eventStore.queue owner) streamId
              timeStamp = []) := by
  obtain ⟨hadmitted, hrefused⟩ := @handleHttpGet_replayed _ checks headers state _ _ hsession hlast
  by_cases hreached : Admitted checks headers state sessionId
  · rw [hadmitted hreached]
    constructor
    · intro hisolated _ eventStore owner streamId timeStamp hstore hparse
      rw [hstore, replayedMessages_eq, hparse] at hisolated
      simp only at hisolated
      cases hreplay : InMemoryEventStore.subsequent (eventStore.queue owner)
          streamId timeStamp with
      | nil => exact .inr rfl
      | cons message rest =>
        left
        have hmem : message ∈ InMemoryEventStore.subsequent
            (eventStore.queue owner) streamId timeStamp := by
          rw [hreplay]
          exact mem_cons_self
        obtain ⟨entry, hentry, rfl⟩ := InMemoryEventStore.mem_of_mem_subsequent hmem
        rw [← hisolated _ hmem]
        exact (hlabels eventStore hstore owner entry hentry).symm
    · intro hnames message hmessage
      cases hstore : state.eventStore with
      | none =>
        rw [hstore] at hmessage
        cases hmessage
      | some eventStore =>
        rw [hstore, replayedMessages_eq] at hmessage
        cases hparse : InMemoryEventStore.parseEventId lastEventId with
        | error err =>
          rw [hparse] at hmessage
          cases hmessage
        | ok parts =>
          obtain ⟨owner, streamId, timeStamp⟩ := parts
          rw [hparse] at hmessage
          simp only at hmessage
          rcases hnames hreached eventStore owner streamId timeStamp hstore
            hparse with rfl | hnothing
          · obtain ⟨entry, hentry, rfl⟩ := InMemoryEventStore.mem_of_mem_subsequent hmessage
            exact hlabels eventStore hstore owner entry hentry
          · rw [hnothing] at hmessage
            cases hmessage
  · rw [hrefused hreached]
    exact ⟨fun _ h => absurd h hreached, by simp⟩

namespace ReplayIsolationWitness

def checks : HttpChecks :=
  ⟨fun _ => .ok (), fun _ => .ok ()⟩

def headers (lastEventId : Str) : HeaderMap :=
  ⟨[(acceptHeader, some "text/event-stream"),
    (mcpSessionIdHeader, some "s2"),
    (mcpLastEventIdHeader, some lastEventId)]⟩

def stored : List (InMemoryEventStore.StoreOp Str) :=
  [.storeEvent "s1" "STANDALONE-STREAM" 5 "a",
    .storeEvent "s1" "STANDALONE-STREAM" 6 "b",
    .storeEvent "s2" "STANDALONE-STREAM" 5 "c",
    .storeEvent "s2" "STANDALONE-STREAM" 6 "d"]

def state : McpAppState (Str × Str) :=
  ⟨(∅ : AList fun _ : Str => SessionRuntime).insert "s2" ⟨false, .ok ()⟩,
    some ((InMemoryEventStore.new none).run (stored.map .label))⟩

theorem labelled_state (eventStore : InMemoryEventStore (Str × Str))
    (hstore : state.eventStore = some eventStore) : eventStore.Labelled := by
  cases hstore
  exact InMemoryEventStore.run_label_labelled none stored

/-- The id of an event of `s1` makes a stream of `s2` replay `s1`. -/
theorem replays_other_session :
    ¬ ∀ message ∈ (handleHttpGet checks (headers "s1-.-STANDALONE-STREAM-.-5") state).2,
      message.1 = "s2" := by
  decide

theorem replays_own_session :
    ((handleHttpGet checks (headers "s2-.-STANDALONE-STREAM-.-5")
      state).2.all fun message => message.1 = "s2") = true := by
  have hparts : InMemoryEventStore.parseEventId
      "s2-.-STANDALONE-STREAM-.-5" = .ok ("s2", "STANDALONE-STREAM", 5) := by decide
  have hisolated := (replayed_isolated_iff checks
    (headers "s2-.-STANDALONE-STREAM-.-5") state "s2"
    "s2-.-STANDALONE-STREAM-.-5" (by decide) (by decide)
    labelled_state).mpr (by
      intro _ eventStore owner streamId timeStamp _ hparse
      rw [hparts] at hparse
      cases hparse
      exact .inl rfl)
  simpa using hisolated

end ReplayIsolationWitness

end McpSdk
