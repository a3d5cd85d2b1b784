/-
The standalone stream of a session over several connections. A request waits on
the transport that was there when it was sent, and a response goes to the one
that is there when it comes.
-/
import McpSdk.IncomingPost
import McpSdk.Lts

namespace McpSdk.Reconnection

open List Option
open HandleMessage IncomingPost

universe u v w

variable {ι : Type u} {β : Type v} {ε : Type w}

/-- The sessions, and the replaced transports, on which calls may still wait. -/
structure State (ι : Type u) (β : Type v) where
  app : AppState ι β
  retired : List (Transport ι β)

/-- Connections, messages, and the calls that wait for answers. -/
inductive Action (server : Server ι β ε) where
  /-- A GET starts a new standalone stream. -/
  | connect
  /-- The end of the stream is noticed, and its transport is shut down. -/
  | disconnect
  | send (id : ι)
  /-- The call on the transport with this number runs into its timeout. -/
  | giveUp (index : Nat) (id : ι)
  | post (body : Str) (delivery : Delivery server body)

/-- All transports of the session; the one in the map is the last. -/
def State.transports (self : State ι β) (sessionId : Str) : List (Transport ι β) :=
  self.retired ++ (self.app.standalone sessionId).toList

def State.storeTransport (self : State ι β) (sessionId : Str)
    (transport : Transport ι β) : State ι β :=
  { self with app := ⟨self.app.sessions.insert sessionId ⟨some transport⟩⟩ }

theorem standalone_storeTransport (self : State ι β) (sessionId : Str) (transport : Transport ι β) :
    (self.storeTransport sessionId transport).app.standalone sessionId = some transport := by
  simp [State.storeTransport, AppState.standalone]

/-- The transport with this number is the one in the map, and it is open. -/
def Held (sessionId : Str) (index : Nat) (state : State ι β) : Prop :=
  state.retired.length = index ∧ ∃ transport,
    state.app.standalone sessionId = some transport ∧ transport.isShutDown = false

/-- It has been replaced, or it is in the map and shut down. -/
def Lost (sessionId : Str) (index : Nat) (state : State ι β) : Prop :=
  index < state.retired.length ∨ (state.retired.length = index ∧ ∃ transport,
    state.app.standalone sessionId = some transport ∧ transport.isShutDown = true)

variable {sessionId : Str} {index : Nat}

theorem transports_of_held {state : State ι β} (hlength : state.retired.length = index) :
    (state.transports sessionId)[index]? = state.app.standalone sessionId := by
  rw [State.transports, ← hlength, getElem?_append_right (Nat.le_refl _), Nat.sub_self]
  cases state.app.standalone sessionId with
  | none | some => rfl

variable [DecidableEq ι]

/-- `store_pending_request`, before the request is written. -/
def register (transport : Transport ι β) (id : ι) : Transport ι β :=
  { transport with
    pendingRequests := transport.pendingRequests.insert id .waiting }

def giveUp (transport : Transport ι β) (id : ι) : Transport ι β :=
  if transport.Waits id then
    { transport with
      pendingRequests := transport.pendingRequests.insert id .gone }
  else transport

/-- One GET, message or call takes a step. -/
def step (server : Server ι β ε) (sessionId : Str) (state : State ι β) :
    Action server → Option (State ι β)
  | .connect =>
    match state.app.sessions.lookup sessionId with
    | none => none
    | some session =>
      some { state.storeTransport sessionId .new with
        retired := state.retired ++ session.transportMap.toList }
  | .disconnect =>
    (state.app.standalone sessionId).map fun transport =>
      -- the transport stays in the map
      state.storeTransport sessionId { transport with isShutDown := true }
  | .send id =>
    match state.app.standalone sessionId with
    | none => none
    | some transport =>
      -- the generator gives each request an id of its own
      if transport.isShutDown ∨ (transport.pendingRequests.lookup id).isSome then none
      else some (state.storeTransport sessionId (register transport id))
  | .giveUp index id =>
    if index < state.retired.length then
      some { state with
        retired := state.retired.modify index (giveUp · id) }
    else (state.app.standalone sessionId).map fun transport =>
      state.storeTransport sessionId (giveUp transport id)
  | .post _ delivery =>
    some { state with
      app := (handleHttpPost server state.app sessionId delivery).state }

/-- The call with this id on this transport receives the response. -/
def Returns (sessionId : Str) (before after : State ι β) (index : Nat) (id : ι)
    (response : ClientMessage ι β) : Prop :=
  ∃ transport next, (before.transports sessionId)[index]? = some transport ∧
    (after.transports sessionId)[index]? = some next ∧ (id, response) ∈ next.since transport

/-- What a step can do, with its guard. -/
inductive Step (server : Server ι β ε) (sessionId : Str) (state : State ι β) :
    Action server → State ι β → Prop where
  | connect {session : Session ι β}
      (hsession : state.app.sessions.lookup sessionId = some session) :
      Step server sessionId state .connect
        { state.storeTransport sessionId .new with
          retired := state.retired ++ session.transportMap.toList }
  | disconnect {transport : Transport ι β}
      (htransport : state.app.standalone sessionId = some transport) :
      Step server sessionId state .disconnect
        (state.storeTransport sessionId { transport with isShutDown := true })
  | send {id : ι} {transport : Transport ι β}
      (htransport : state.app.standalone sessionId = some transport)
      (hopen : transport.isShutDown = false) :
      Step server sessionId state (.send id)
        (state.storeTransport sessionId (register transport id))
  | giveUpRetired {index : Nat} {id : ι} (hindex : index < state.retired.length) :
      Step server sessionId state (.giveUp index id)
        { state with retired := state.retired.modify index (giveUp · id) }
  | giveUp {index : Nat} {id : ι} {transport : Transport ι β}
      (htransport : state.app.standalone sessionId = some transport) :
      Step server sessionId state (.giveUp index id)
        (state.storeTransport sessionId (Reconnection.giveUp transport id))
  | post {body : Str} (delivery : Delivery server body) :
      Step server sessionId state (.post body delivery)
        { state with
          app := (handleHttpPost server state.app sessionId delivery).state }

section

variable {server : Server ι β ε}

theorem step_cases {state next : State ι β} {action : Action server}
    (hstep : step server sessionId state action = some next) :
    Step server sessionId state action next := by
  cases action with
  | connect =>
    simp only [step] at hstep
    split at hstep
    · cases hstep
    · next session hsession =>
      cases hstep
      exact .connect hsession
  | disconnect =>
    obtain ⟨transport, htransport, hnext⟩ := map_eq_some_iff.mp hstep
    subst hnext
    exact .disconnect htransport
  | send id =>
    simp only [step] at hstep
    split at hstep
    · cases hstep
    · next transport htransport =>
      split at hstep
      · cases hstep
      · next hopen =>
        cases hstep
        rw [not_or, Bool.not_eq_true] at hopen
        exact .send htransport hopen.1
  | giveUp index id =>
    simp only [step] at hstep
    split at hstep
    · next hindex =>
      cases hstep
      exact .giveUpRetired hindex
    · obtain ⟨transport, htransport, hnext⟩ := map_eq_some_iff.mp hstep
      subst hnext
      exact .giveUp htransport
  | post body delivery =>
    cases hstep
    exact .post delivery

theorem isShutDown_giveUp (transport : Transport ι β) (id : ι) :
    (giveUp transport id).isShutDown = transport.isShutDown := by
  unfold giveUp
  split
  · rfl
  · rfl

theorem standalone_handleHttpPost {app : AppState ι β} {transport : Transport ι β} {body : Str}
    (htransport : app.standalone sessionId = some transport) (delivery : Delivery server body) :
    ∃ next, (handleHttpPost server app sessionId delivery).state.standalone
        sessionId = some next ∧ next.isShutDown = transport.isShutDown := by
  by_cases hrouted : Routed server transport body
  · exact ⟨_, handleHttpPost_of_routed htransport hrouted delivery,
      server.runtime.handleAll_isShutDown transport delivery.tasks⟩
  · rw [handleHttpPost_of_not_routed htransport hrouted]
    exact ⟨transport, htransport, rfl⟩

/-- A transport is held until the next connect or disconnect. -/
theorem Held.step {state next : State ι β}
    {action : Action server} (hstate : Held sessionId index state)
    (hstep : Reconnection.step server sessionId state action = some next) :
    (Held sessionId index next ∧ action ≠ .connect ∧ action ≠ .disconnect) ∨
      (Lost sessionId index next ∧ (action = .connect ∨ action = .disconnect)) := by
  obtain ⟨hlength, transport, htransport, hopen⟩ := hstate
  cases step_cases hstep with
  | connect hsession =>
    refine .inr ⟨.inl ?_, .inl rfl⟩
    have hmap : _ = some transport := htransport
    rw [AppState.standalone, hsession, bind_some] at hmap
    simp [hmap, hlength]
  | disconnect =>
    exact .inr ⟨.inr ⟨hlength, _, standalone_storeTransport .., rfl⟩, .inr rfl⟩
  | send hother hlive =>
    exact .inl ⟨⟨hlength, _, standalone_storeTransport .., hlive⟩, by simp, by simp⟩
  | giveUpRetired =>
    refine .inl ⟨⟨?_, transport, htransport, hopen⟩, by simp, by simp⟩
    rw [length_modify]
    exact hlength
  | giveUp hother =>
    cases htransport.symm.trans hother
    refine .inl ⟨⟨hlength, _, standalone_storeTransport .., ?_⟩, by simp, by simp⟩
    rw [isShutDown_giveUp, hopen]
  | post delivery =>
    obtain ⟨after, hafter, hsame⟩ := standalone_handleHttpPost htransport delivery
    exact .inl ⟨⟨hlength, after, hafter, hsame.trans hopen⟩, by simp, by simp⟩

/-- A transport that is out of the map stays so. -/
theorem Lost.step {state next : State ι β}
    {action : Action server} (hstate : Lost sessionId index state)
    (hstep : Reconnection.step server sessionId state action = some next) :
    Lost sessionId index next := by
  rcases hstate with hless | ⟨hlength, transport, htransport, hshut⟩
  · left
    cases step_cases hstep with
    | connect hsession =>
      rw [length_append]
      omega
    | disconnect | send => exact hless
    | giveUpRetired =>
      rw [length_modify]
      exact hless
    | giveUp | post => exact hless
  · cases step_cases hstep with
    | connect hsession =>
      left
      rw [AppState.standalone, hsession, bind_some] at htransport
      simp [htransport, hlength]
    | disconnect =>
      exact .inr ⟨hlength, _, standalone_storeTransport .., rfl⟩
    | send hother hlive =>
      cases htransport.symm.trans hother
      rw [hshut] at hlive
      cases hlive
    | giveUpRetired =>
      refine .inr ⟨?_, transport, htransport, hshut⟩
      rw [length_modify]
      exact hlength
    | giveUp hother =>
      cases htransport.symm.trans hother
      refine .inr ⟨hlength, _, standalone_storeTransport .., ?_⟩
      rw [isShutDown_giveUp, hshut]
    | post delivery =>
      obtain ⟨after, hafter, hsame⟩ := standalone_handleHttpPost htransport delivery
      exact .inr ⟨hlength, after, hafter, hsame.trans hshut⟩

/-- A transport that is out of the map never comes back. -/
theorem Lost.run {state final : State ι β}
    {actions : List (Action server)} (hstate : Lost sessionId index state)
    (hrun : Lts.run (Reconnection.step server sessionId) state actions = some final) :
    Lost sessionId index final :=
  Lts.run_keeps Lost.step hstate hrun

/-- A transport is held in runs without connect and disconnect. -/
theorem Held.run {state final : State ι β}
    {actions : List (Action server)} (hstate : Held sessionId index state)
    (hrun : Lts.run (Reconnection.step server sessionId) state actions = some final) :
    (Held sessionId index final ∧ .connect ∉ actions ∧ .disconnect ∉ actions) ∨
      (Lost sessionId index final ∧ (.connect ∈ actions ∨ .disconnect ∈ actions)) := by
  induction actions generalizing state with
  | nil =>
    cases hrun
    exact .inl ⟨hstate, not_mem_nil, not_mem_nil⟩
  | cons action actions ih =>
    obtain ⟨next, hnext, hrest⟩ := Lts.run_cons_eq_some.mp hrun
    rcases hstate.step hnext with
      ⟨hheld, hconnect, hdisconnect⟩ | ⟨hlost, haction⟩
    · simp only [mem_cons, hconnect.symm, hdisconnect.symm, false_or]
      exact ih hheld hrest
    · refine .inr ⟨hlost.run hrest, ?_⟩
      rcases haction with rfl | rfl
      · exact .inl mem_cons_self
      · exact .inr mem_cons_self

theorem held_of_send {before sent : State ι β} {id : ι}
    (hsend : step server sessionId before (.send id) = some sent) :
    Held sessionId before.retired.length sent := by
  cases step_cases hsend with
  | send htransport hopen =>
    exact ⟨rfl, _, standalone_storeTransport .., hopen⟩

theorem Held.returns_iff {state : State ι β} {transport : Transport ι β}
    {id : ι} {response : ClientMessage ι β} {body : Str} (hstate : Held sessionId index state)
    (htransport : (state.transports sessionId)[index]? = some transport)
    (hwaits : transport.Waits id) (hanswers : response.answers = some id)
    (delivery : Delivery server body) :
    Returns sessionId state { state with
        app := (handleHttpPost server state.app sessionId delivery).state }
          index id response ↔
      server.enableJsonResponse = false ∧ server.isResult body = some true ∧
        server.runtime.accepts response = true ∧
        server.runtime.ReachesIn transport id response delivery.tasks := by
  obtain ⟨hlength, other, hother, hopen⟩ := hstate
  rw [transports_of_held hlength] at htransport
  cases htransport.symm.trans hother
  have hafter := @transports_of_held _ _ sessionId index { state with
    app := (handleHttpPost server state.app sessionId delivery).state } hlength
  rw [Returns, transports_of_held hlength, hafter, htransport]
  by_cases hrouted : Routed server transport body
  · simp only [handleHttpPost_of_routed htransport hrouted,
      some.injEq, exists_eq_left', exists_and_left,
      Runtime.handleAll_resolves_iff hwaits hanswers, hrouted.1, hrouted.2.1, true_and]
  · simp only [handleHttpPost_of_not_routed htransport hrouted, htransport,
      some.injEq, exists_eq_left', exists_and_left, Transport.since_self, not_mem_nil, false_iff]
    rintro ⟨hmode, hresult, -⟩
    exact hrouted ⟨hmode, hresult, hopen⟩

theorem Lost.not_returns {state : State ι β} (hstate : Lost sessionId index state) {body : Str}
    (delivery : Delivery server body) (id : ι) (response : ClientMessage ι β) :
    ¬ Returns sessionId state { state with
        app := (handleHttpPost server state.app sessionId delivery).state }
          index id response := by
  rintro ⟨transport, next, htransport, hnext, hsince⟩
  have hsame : next = transport := by
    rcases hstate with hless | ⟨hlength, other, hother, hshut⟩
    · rw [State.transports, getElem?_append_left hless] at htransport hnext
      exact Option.some.inj (hnext.symm.trans htransport)
    · have hrouted : ¬ Routed server other body := by
        rintro ⟨-, -, hopen⟩
        rw [hshut] at hopen
        cases hopen
      rw [handleHttpPost_of_not_routed hother hrouted] at hnext
      exact Option.some.inj (hnext.symm.trans htransport)
  rw [hsame, Transport.since_self] at hsince
  cases hsince

end

namespace ReconnectionWitness

def server : Server Nat Unit Unit where
  runtime := ⟨fun _ _ => .ok (), fun _ => .ok (), fun _ => .ok (), true⟩
  parse _ := some (.object [("result", .null)])
  clientMessage _ := some (.response 1 ())
  enableJsonResponse := false
  maxLineLength := 1000

def state : State Nat Unit :=
  ⟨⟨AList.singleton "s1" ⟨some .new⟩⟩, []⟩

def sent : State Nat Unit :=
  state.storeTransport "s1" (register .new 1)

theorem step_send : step server "s1" state (.send 1) = some sent :=
  rfl

def delivery : Delivery server "result" :=
  .whole server "result"

end ReconnectionWitness

end McpSdk.Reconnection
