/-
The session id of a streamable HTTP stream. Every successful reply to a POST
rewrites it, also one without the header.
-/
import McpSdk.HttpStream

namespace McpSdk.HttpStream

open List Option

/-- A request that is made with this session id has the id among its
headers. -/
def Holds (client : Client) (sessionId : Option Str) (id : Str) : Prop :=
  sessionId = some id ∨ id ∈ client.customValues mcpSessionIdHeader

/-- Whatever request is made with this session id carries the known one. -/
def Carries (client : Client) (sessionId known : Option Str) : Prop :=
  ∀ headers, httpHeaders client.http sessionId client.customHeaders =
    some headers → ∀ id, known = some id → id ∈ headers.values mcpSessionIdHeader

/-- Every request so far has carried the id known then, and the next one will. -/
structure State.Retains (client : Client) (state : State) : Prop where
  next : Carries client state.sessionId state.known
  requests : ∀ request ∈ state.requests, ∀ id, request.known = some id →
    id ∈ request.headers.values mcpSessionIdHeader

/-- A successful reply to a POST has a session id, unless none is known; every
other reply has none but that of the stream; or the custom headers have one. -/
def Keeps (client : Client) (state : State) : Action → Prop
  | .post (.ok response) =>
    if 200 ≤ response.status ∧ response.status < 300 then
      response.sessionId = none → ∀ id, state.known = some id →
        id ∈ client.customValues mcpSessionIdHeader
    else ∀ id, response.sessionId = some id → Holds client state.sessionId id
  | .get (.ok response) =>
    ∀ id, response.sessionId = some id → Holds client state.sessionId id
  | _ => True

variable {sessionId : Option Str}

theorem httpHeaders_exists {http : HttpCrate} {headers : Option HeaderList} {request : HeaderList}
    (hrequest : httpHeaders http sessionId headers = some request) (others : Option HeaderList) :
    ∃ other, httpHeaders http sessionId others = some other := by
  unfold httpHeaders at hrequest ⊢
  cases sessionId with
  | none => exact ⟨_, rfl⟩
  | some id =>
    simp only at hrequest ⊢
    split at hrequest
    · exact ⟨_, rfl⟩
    · cases hrequest

variable {headers : HeaderList}

theorem mem_values_iff_holds {client : Client}
    (hheaders : httpHeaders client.http sessionId client.customHeaders = some headers) (id : Str) :
    id ∈ headers.values mcpSessionIdHeader ↔ Holds client sessionId id := by
  have hvalues := httpHeaders_values hheaders
    (show baseHeaders.values mcpSessionIdHeader = [] by decide)
  rw [if_pos rfl] at hvalues
  rw [hvalues, mem_append, mem_toList]
  exact Or.comm

theorem carries_iff {client : Client} {sessionId : Option Str} {request : HeaderList}
    (hrequest : httpHeaders client.http sessionId client.customHeaders = some request)
    (known : Option Str) :
    Carries client sessionId known ↔ ∀ id, known = some id → Holds client sessionId id := by
  constructor
  · intro hcarries id hknown
    exact (mem_values_iff_holds hrequest id).mp (hcarries _ hrequest id hknown)
  · intro hholds headers hheaders id hknown
    exact (mem_values_iff_holds hheaders id).mpr (hholds id hknown)

theorem carries_self (client : Client) (sessionId : Option Str) :
    Carries client sessionId sessionId := by
  intro headers hheaders id hknown
  exact (mem_values_iff_holds hheaders id).mpr (Or.inl hknown)

theorem State.Retains.start (client : Client) (sessionId : Option Str) :
    (State.start sessionId).Retains client where
  next := carries_self client sessionId
  requests := by
    intro request hrequest
    cases hrequest

variable {state : State}

theorem State.Retains.concat {client : Client} {request : Request}
    (hretains : state.Retains client) (hknown : request.known = state.known)
    (hcarries : ∀ id, state.known = some id → id ∈ request.headers.values mcpSessionIdHeader) :
    ∀ other ∈ state.requests ++ [request], ∀ id, other.known = some id →
      id ∈ other.headers.values mcpSessionIdHeader := by
  intro other hother id hid
  rcases mem_append.mp hother with hold | hnew
  · exact hretains.requests other hold id hid
  · rw [mem_singleton.mp hnew] at hid ⊢
    exact hcarries id (hknown ▸ hid)

theorem holds_or_iff {client : Client} {known : Option Str}
    (hholds : ∀ id, known = some id → Holds client sessionId id) (received : Option Str) :
    (∀ id, received.or known = some id → Holds client sessionId id) ↔
      ∀ id, received = some id → Holds client sessionId id := by
  cases received with
  | none => simpa using hholds
  | some other => simp

theorem posted_retains_iff {client : Client} (hretains : state.Retains client)
    (hheaders : httpHeaders client.http state.sessionId client.customHeaders = some headers)
    (reply : Except Str Response) :
    (state.posted headers reply).Retains client ↔ Keeps client state (.post reply) := by
  have hholds := (carries_iff hheaders state.known).mp hretains.next
  have hrequests := hretains.concat
    (show (⟨.run, false, headers, state.known, []⟩ : Request).known = state.known from rfl)
    (hretains.next headers hheaders)
  cases reply with
  | error text => exact iff_of_true ⟨hretains.next, hrequests⟩ trivial
  | ok response =>
    by_cases hstatus : 200 ≤ response.status ∧ response.status < 300
    · have hposted : state.posted headers (.ok response) =
          ⟨response.sessionId, response.sessionId.or state.known,
            some (Call.new .run (postPhase response)), state.requests ++
              [⟨.run, false, headers, state.known, []⟩]⟩ := by
        simp [State.posted, httpReply, hstatus, knownAfter]
      rw [hposted, Keeps, if_pos hstatus]
      cases hid : response.sessionId with
      | some id =>
        refine iff_of_true ⟨carries_self client (some id), hrequests⟩ ?_
        intro hnone
        cases hnone
      | none =>
        have hiff := @carries_iff client none _ rfl state.known
        constructor
        · rintro ⟨hnext, -⟩ - id hknown
          exact (hiff.mp hnext id hknown).resolve_left (by simp)
        · intro hcustom
          refine ⟨hiff.mpr ?_, hrequests⟩
          intro id hknown
          exact Or.inr (hcustom rfl id hknown)
    · have hposted : state.posted headers (.ok response) =
          ⟨state.sessionId, response.sessionId.or state.known,
            some (Call.new .run (.returned (.error (.http response.status)))),
            state.requests ++ [⟨.run, false, headers, state.known, []⟩]⟩ := by
        simp [State.posted, httpReply, hstatus, knownAfter]
      rw [hposted, Keeps, if_neg hstatus, ← holds_or_iff hholds, ← carries_iff hheaders]
      exact ⟨fun hnext => hnext.next, fun hnext => ⟨hnext, hrequests⟩⟩

theorem got_retains_iff {client : Client} {call : Call} (hretains : state.Retains client)
    (hheaders : httpHeaders client.http state.sessionId (connectionHeaders client call.lastEventId)
      = some headers) (reply : Except Str Response) (phase : Phase) :
    (state.got call headers reply phase).Retains client ↔ Keeps client state (.get reply) := by
  obtain ⟨request, hrequest⟩ := httpHeaders_exists hheaders client.customHeaders
  have hholds := (carries_iff hrequest state.known).mp hretains.next
  have hcarries : ∀ id, state.known = some id →
      id ∈ headers.values mcpSessionIdHeader := by
    intro id hid
    have hvalues := httpHeaders_values hheaders
      (show baseHeaders.values mcpSessionIdHeader = [] by decide)
    rw [if_pos rfl, connectionHeaders_of_ne (by decide)] at hvalues
    rw [hvalues, mem_append, mem_toList]
    exact Or.symm (hholds id hid)
  have hrequests := hretains.concat (show (⟨call.loop, true, headers, state.known, call.received⟩ :
      Request).known = state.known from rfl) hcarries
  cases reply with
  | error text => exact iff_of_true ⟨hretains.next, hrequests⟩ trivial
  | ok response =>
    rw [Keeps, ← holds_or_iff hholds, ← carries_iff hrequest]
    exact ⟨fun hnext => hnext.next, fun hnext => ⟨hnext, hrequests⟩⟩

/-- A step retains the session id exactly when it keeps it. -/
theorem State.Retains.step_iff {client : Client} {next : State} {action : Action}
    (htracks : Tracks client state) (hretains : state.Retains client)
    (hstep : HttpStream.step client state action = some next) :
    next.Retains client ↔ Keeps client state action := by
  rcases step_cases hstep with ⟨reply, headers, rfl, hheaders, rfl⟩ |
    ⟨reply, call, sessionId, connection, retryCount, headers, rfl, hcall,
      hphase, hheaders, rfl⟩ | ⟨hother, call, rfl, -⟩
  · exact posted_retains_iff hretains hheaders reply
  · obtain ⟨rfl, rfl⟩ := (htracks.call hcall).connecting hphase
    exact got_retains_iff hretains hheaders reply _
  · refine iff_of_true ⟨hretains.next, hretains.requests⟩ ?_
    cases action with
    | post reply => exact absurd rfl (hother reply).1
    | get reply => exact absurd rfl (hother reply).2
    | _ => trivial

/-- In every run: all requests, and the next one in any state, carry the session
id known last, exactly when every reply keeps it. -/
theorem sessionId_retained_iff (client : Client) (sessionId : Option Str) (actions : List Action)
    (state : State) (hrun : Lts.run (step client) (State.start sessionId) actions = some state) :
    (∀ before after middle, before ++ after = actions →
        Lts.run (step client) (State.start sessionId) before = some middle →
          middle.Retains client) ↔
      Lts.Along (step client) (Keeps client) (State.start sessionId) actions :=
  Lts.forall_states_iff_along (fun htracks hstep => htracks.step hstep)
    (fun _ _ => trivial)
    (fun htracks hretains _ hstep => hretains.step_iff htracks hstep)
    (Tracks.start client sessionId) (State.Retains.start client sessionId)
    hrun trivial

namespace HttpSessionWitness

open HttpStreamWitness (client eventStream priming)

/-- A reply that names the session, and the id of its event on the next GET. -/
def named : List Action :=
  [.post (eventStream (some [115])), .chunk priming 0, .ended, .wake, .get (eventStream none)]

def unnamed : List Action :=
  [.post (eventStream none), .chunk priming 0, .ended, .wake, .get (eventStream none)]

theorem sessionId_named :
    ∃ state, Lts.run (step client) (State.start (some ['s'])) named =
        some state ∧ state.requests.length = 2 ∧ state.Retains client := by
  have hrun : (Lts.run (step client) (State.start (some ['s'])) named).map
      (·.requests.length) = some 2 := by
    decide +kernel
  obtain ⟨state, hstate, hlength⟩ := map_eq_some_iff.mp hrun
  refine ⟨state, hstate, hlength, ?_⟩
  refine (sessionId_retained_iff client (some ['s']) named state hstate).mpr
    ?_ named [] state (append_nil named) hstate
  refine ⟨?_, fun first _ => ⟨trivial, fun second _ => ⟨trivial,
    fun third _ => ⟨trivial, fun fourth _ => ⟨?_, fun _ _ => trivial⟩⟩⟩⟩⟩
  · intro hnone
    cases hnone
  · intro id hid
    cases hid

/-- The reply without the header takes the id away from the next request. -/
theorem sessionId_unnamed :
    (Lts.run (step client) (State.start (some ['s'])) unnamed).map
        (fun state => state.requests.map fun request =>
          (request.isGet, request.known, request.headers.values mcpSessionIdHeader)) =
      some [(false, some ['s'], [['s']]), (true, some ['s'], [])] := by
  decide +kernel

end HttpSessionWitness

end McpSdk.HttpStream
