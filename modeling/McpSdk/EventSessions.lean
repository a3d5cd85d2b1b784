/-
The events that a streamable HTTP server keeps, beside its sessions. Sessions
are taken out of their store in three ways, and events in none.
-/
import McpSdk.EventStore
import McpSdk.SessionExpiry

namespace McpSdk.EventSessions

open Option
open SessionStore.InMemorySessionStore (has_eq sessions_set sessions_delete sessions_touch sessions
  lookup_evictShard)
open SessionStore

inductive Request where
  /-- A request for a new session, in `evict_idle` before the shard with this
  index. -/
  | evicting (index total now : Nat)
  | passed
  /-- `create_sse_stream` has returned a response, and the session is not yet in
  the store. -/
  | created (sessionId : Str)
  /-- A GET or a POST that has found its session. -/
  | found (sessionId : Str)
  /-- A DELETE that has found its session, or an SSE connection: it ends with
  taking the session out of the store. -/
  | leaving (sessionId : Str)
deriving Repr, DecidableEq

/-- The two stores, the transports, and the requests. -/
structure State where
  store : InMemorySessionStore
  events : InMemoryEventStore Str
  /-- The session and the stream of each transport that `create_sse_stream` has
  made.  The one of the standalone stream is kept after its shut down, to store
  events. -/
  transports : List (Str × Str)
  requests : AList fun _ : Nat => Request

/-- What requests and the ends of sessions do to the stores. -/
inductive Action where
  /-- `is_full` up to its first `await`. -/
  | check (request now : Nat)
  /-- `evict_idle` for one shard; after the last, the end of `is_full`. -/
  | evict (request : Nat)
  /-- `create_sse_stream` for a new session.  A body that is no JSON gets its
  response without a transport. -/
  | create (request : Nat) (sessionId : Str) (streamId : Option Str)
  /-- There is no transport, or the session id is no header value. -/
  | createFails (request : Nat) (sessionId : Str) (streamId : Option Str)
  | set (request : Nat) (sessionId : Str) (now : Nat)
  /-- `handle_sse_connection` stores its session; its transport stores no
  events. -/
  | connect (request : Nat) (sessionId : Str) (now : Nat)
  | find (request : Nat) (sessionId : Str) (now : Nat)
  /-- `create_sse_stream` for the session that was found. -/
  | stream (request : Nat) (sessionId streamId : Str)
  | delete (request : Nat) (sessionId : Str) (now : Nat)
  | remove (request : Nat) (sessionId : Str)
  /-- The handler returns, or is dropped with its connection. -/
  | finish (request : Nat)
  | writeStr (sessionId streamId payload : Str) (skipStore : Bool) (timeStamp : Nat)
deriving Repr, DecidableEq

/-- Both stores are empty. -/
def initial (maxEventsPerSession : Option Nat) : State :=
  ⟨.new, .new maxEventsPerSession, [], ∅⟩

namespace State

def setStore (self : State) (store : InMemorySessionStore) : State :=
  { self with store }

def setRequest (self : State) (request : Nat) (phase : Request) : State :=
  { self with requests := self.requests.insert request phase }

def endRequest (self : State) (request : Nat) : State :=
  { self with requests := self.requests.erase request }

def addTransport (self : State) (sessionId : Str) (streamId : Option Str) : State :=
  { self with transports := self.transports ++ streamId.toList.map fun id => (sessionId, id) }

/-- A new request looks up its session; without one it gets a 404. -/
def lookUp (config : Config) (self : State) (request : Nat) (sessionId : Str)
    (now : Nat) (phase : Request) : Option State :=
  if request ∈ self.requests then none
  else match self.store.get config sessionId now with
    | (true, store) => some ((self.setStore store).setRequest request phase)
    | (false, store) => some (self.setStore store)

variable (self : State)

@[simp] theorem setStore_store (store : InMemorySessionStore) :
    (self.setStore store).store = store := rfl

@[simp] theorem setStore_events (store : InMemorySessionStore) :
    (self.setStore store).events = self.events := rfl

variable (request : Nat)

@[simp] theorem setRequest_store (phase : Request) :
    (self.setRequest request phase).store = self.store := rfl

@[simp] theorem setRequest_events (phase : Request) :
    (self.setRequest request phase).events = self.events := rfl

@[simp] theorem endRequest_store : (self.endRequest request).store = self.store := rfl

@[simp] theorem endRequest_events : (self.endRequest request).events = self.events := rfl

@[simp] theorem addTransport_store (sessionId : Str) (streamId : Option Str) :
    (self.addTransport sessionId streamId).store = self.store := rfl

@[simp] theorem addTransport_events (sessionId : Str) (streamId : Option Str) :
    (self.addTransport sessionId streamId).events = self.events := rfl

theorem lookUp_eq_some {config : Config} {self next : State} {request now : Nat} {sessionId : Str}
    {phase : Request} (hnext : self.lookUp config request sessionId now phase = some next) :
    next.store = self.store.touch config sessionId now ∧ next.events = self.events := by
  unfold lookUp InMemorySessionStore.get at hnext
  split at hnext
  · cases hnext
  · split at hnext
    · next hfound =>
      cases hnext
      exact ⟨(congrArg Prod.snd hfound).symm, rfl⟩
    · next hmissing =>
      cases hnext
      exact ⟨(congrArg Prod.snd hmissing).symm, rfl⟩

end State

/-- One request or removal takes one step. -/
def step (config : Config) (state : State) : Action → Option State
  | .check request now =>
    if request ∈ state.requests then none
    else some (state.setRequest request
      (if state.store.count < config.maxSessions then .passed else .evicting 0 0 now))
  | .evict request =>
    match state.requests.lookup request with
    | some (.evicting index total now) =>
      let store := state.store.evictShard config index now
      let total := total + (store.shards index).keys.length
      let next := state.setStore store
      if index + 1 < shardCount then
        some (next.setRequest request (.evicting (index + 1) total now))
      else if total ≥ config.maxSessions then
        -- 503 Service Unavailable
        some (next.endRequest request)
      else some (next.setRequest request .passed)
    | _ => none
  | .create request sessionId streamId =>
    if state.requests.lookup request = some .passed then
      some ((state.addTransport sessionId streamId).setRequest request (.created sessionId))
    else none
  | .createFails request sessionId streamId =>
    if state.requests.lookup request = some .passed then
      some ((state.addTransport sessionId streamId).endRequest request)
    else none
  | .set request sessionId now =>
    if state.requests.lookup request = some (.created sessionId) then
      let store := state.store.set config sessionId now
      some ((state.setStore store).endRequest request)
    else none
  | .connect request sessionId now =>
    if state.requests.lookup request = some .passed then
      let store := state.store.set config sessionId now
      some ((state.setStore store).setRequest request (.leaving sessionId))
    else none
  | .find request sessionId now =>
    state.lookUp config request sessionId now (.found sessionId)
  | .stream request sessionId streamId =>
    if state.requests.lookup request = some (.found sessionId) then
      some (state.addTransport sessionId (some streamId))
    else none
  | .delete request sessionId now =>
    state.lookUp config request sessionId now (.leaving sessionId)
  | .remove request sessionId =>
    if state.requests.lookup request = some (.leaving sessionId) then
      let store := state.store.delete config sessionId
      some ((state.setStore store).endRequest request)
    else none
  | .finish request =>
    if request ∈ state.requests then some (state.endRequest request) else none
  | .writeStr sessionId streamId payload skipStore timeStamp =>
    if (sessionId, streamId) ∈ state.transports then
      if skipStore = false ∧ RustStr.trim payload ≠ [] then
        some { state with events :=
          (state.events.storeEvent sessionId streamId timeStamp payload).2 }
      else some state
    else none

/-- Every session with events is in the session store. -/
def Covered (config : Config) (state : State) : Prop :=
  ∀ sessionId, state.events.queue sessionId ≠ [] → state.store.has config sessionId = true

def Stores (sessionId : Str) : Action → Prop
  | .writeStr target _ payload skipStore _ =>
    target = sessionId ∧ skipStore = false ∧ RustStr.trim payload ≠ []
  | _ => False

def Sets (sessionId : Str) : Action → Prop
  | .set _ target _ => target = sessionId
  | .connect _ target _ => target = sessionId
  | _ => False

/-- A DELETE, the end of an SSE connection, or an eviction. -/
def TakesOut (config : Config) (sessionId : Str) (state : State) :
    Action → Prop
  | .remove _ target => target = sessionId
  | .evict request =>
    match state.requests.lookup request with
    | some (.evicting index _ now) =>
      (state.store.evictShard config index now).has config sessionId = false
    | _ => False
  | _ => False

theorem has_set (config : Config) (store : InMemorySessionStore)
    (target sessionId : Str) (now : Nat) :
    (store.set config target now).has config sessionId = true ↔
      target = sessionId ∨ store.has config sessionId = true := by
  rw [has_eq, has_eq, sessions_set]
  by_cases hsame : target = sessionId
  · subst hsame
    simp
  · rw [Function.update_of_ne (Ne.symm hsame)]
    simp [hsame]

theorem has_delete (config : Config) (store : InMemorySessionStore) (target sessionId : Str) :
    (store.delete config target).has config sessionId = true ↔
      store.has config sessionId = true ∧ ¬ target = sessionId := by
  rw [has_eq, has_eq,
    sessions_delete]
  by_cases hsame : target = sessionId
  · subst hsame
    simp
  · rw [Function.update_of_ne (Ne.symm hsame)]
    simp [hsame]

theorem has_touch_iff (config : Config) (store : InMemorySessionStore) (target sessionId : Str)
    (now : Nat) :
    (store.touch config target now).has config sessionId = store.has config sessionId := by
  rw [has_eq, has_eq, sessions_touch]
  by_cases hsame : target = sessionId
  · subst hsame
    simp
  · rw [Function.update_of_ne (Ne.symm hsame)]

theorem has_of_evictShard {config : Config} {store : InMemorySessionStore} {index now : Nat}
    {sessionId : Str} (hhas : (store.evictShard config index now).has config sessionId = true) :
    store.has config sessionId = true := by
  rw [has_eq, sessions] at hhas ⊢
  by_cases hindex : config.shard sessionId = index
  · rw [hindex, lookup_evictShard] at hhas
    rw [hindex]
    exact isSome_of_isSome_filter _ _ hhas
  · rwa [InMemorySessionStore.evictShard_shards_of_ne config store hindex] at hhas

def storeAfter (config : Config) (state : State) :
    Action → InMemorySessionStore
  | .evict request =>
    match state.requests.lookup request with
    | some (.evicting index _ now) => state.store.evictShard config index now
    | _ => state.store
  | .set _ sessionId now => state.store.set config sessionId now
  | .connect _ sessionId now => state.store.set config sessionId now
  | .find _ sessionId now => state.store.touch config sessionId now
  | .delete _ sessionId now => state.store.touch config sessionId now
  | .remove _ sessionId => state.store.delete config sessionId
  | _ => state.store

def eventsAfter (state : State) : Action → InMemoryEventStore Str
  | .writeStr sessionId streamId payload skipStore timeStamp =>
    if skipStore = false ∧ RustStr.trim payload ≠ [] then
      (state.events.storeEvent sessionId streamId timeStamp payload).2
    else state.events
  | _ => state.events

variable {action : Action}

/-- What a step does to the two stores. -/
theorem step_stores {config : Config} {state next : State}
    (hstep : step config state action = some next) :
    next.store = storeAfter config state action ∧ next.events = eventsAfter state action := by
  cases action with
  | check request now =>
    simp only [step, ite_none_left_eq_some, some.injEq] at hstep
    simp [← hstep.2, storeAfter, eventsAfter]
  | evict request =>
    simp only [step] at hstep
    split at hstep
    · next index total now hphase =>
      simp only [storeAfter, hphase, eventsAfter]
      split at hstep
      · cases hstep
        exact ⟨rfl, rfl⟩
      · split at hstep
        · cases hstep
          exact ⟨rfl, rfl⟩
        · cases hstep
          exact ⟨rfl, rfl⟩
    · cases hstep
  | find | delete => exact State.lookUp_eq_some hstep
  | writeStr target streamId payload skipStore timeStamp =>
    simp only [step, ite_none_right_eq_some] at hstep
    obtain ⟨-, hnext⟩ := hstep
    rw [eventsAfter]
    split at hnext
    · next hstores =>
      cases hnext
      exact ⟨rfl, (if_pos hstores).symm⟩
    · next hskips =>
      cases hnext
      exact ⟨rfl, (if_neg hskips).symm⟩
  | _ =>
    simp only [step, ite_none_right_eq_some, some.injEq] at hstep
    simp [← hstep.2, storeAfter, eventsAfter]

/-- A step puts a session into the store, takes it out, or leaves it. -/
theorem has_step {config : Config} {state next : State} (sessionId : Str)
    (hstep : step config state action = some next) :
    next.store.has config sessionId = true ↔ Sets sessionId action ∨
      state.store.has config sessionId = true ∧ ¬ TakesOut config sessionId state action := by
  rw [(step_stores hstep).1]
  cases action with
  | evict request =>
    simp only [storeAfter, Sets, TakesOut, false_or]
    split
    · rw [Bool.not_eq_false]
      exact ⟨fun hhas => ⟨has_of_evictShard hhas, hhas⟩, And.right⟩
    · simp
  | set | connect => simp [storeAfter, Sets, TakesOut, has_set]
  | find | delete =>
    simp [storeAfter, Sets, TakesOut, has_touch_iff]
  | remove request target => simp [storeAfter, Sets, TakesOut, has_delete]
  | _ => simp [storeAfter, Sets, TakesOut]

/-- A step empties no queue, and fills one only by storing. -/
theorem queue_step {config : Config} {state next : State} (sessionId : Str)
    (hstep : step config state action = some next) :
    next.events.queue sessionId ≠ [] ↔
      state.events.queue sessionId ≠ [] ∨ Stores sessionId action := by
  rw [(step_stores hstep).2]
  cases action with
  | writeStr target streamId payload skipStore timeStamp =>
    rw [eventsAfter]
    split
    · next hstores =>
      rw [InMemoryEventStore.queue_storeEvent, Stores]
      by_cases hsame : sessionId = target
      · subst hsame
        rw [if_pos rfl]
        exact iff_of_true (by simp [InMemoryEventStore.pushBounded]) (.inr ⟨rfl, hstores⟩)
      · rw [if_neg hsame]
        simp [Ne.symm hsame]
    · next hskips =>
      rw [Stores]
      simp [hskips]
  | _ => simp [eventsAfter, Stores]

/-- The sessions with events are those for which an event was ever stored. -/
theorem run_queue_iff (config : Config) (maxEventsPerSession : Option Nat) {actions : List Action}
    {final : State}
    (hrun : Lts.run (step config) (initial maxEventsPerSession) actions = some final)
    (sessionId : Str) :
    final.events.queue sessionId ≠ [] ↔ ∃ action ∈ actions, Stores sessionId action := by
  refine @Lts.run_trace_invariant _ _ (step config)
    (fun trace state => state.events.queue sessionId ≠ [] ↔
      ∃ action ∈ trace, Stores sessionId action) ?_ _ _ _ ?_ hrun
  · intro trace state next action hstate hstep
    rw [queue_step sessionId hstep, hstate]
    simp [or_and_right, exists_or]
  · simp [initial, InMemoryEventStore.queue, InMemoryEventStore.new]

/-- After every run: the sessions with events are all in the session store
exactly when each was put there and has not been taken out since. -/
theorem run_covered_iff (config : Config) (maxEventsPerSession : Option Nat)
    {actions : List Action} {final : State}
    (hrun : Lts.run (step config) (initial maxEventsPerSession) actions = some final) :
    Covered config final ↔ ∀ sessionId, (∃ action ∈ actions, Stores sessionId action) →
        Lts.Since (step config) (Sets sessionId) (TakesOut config sessionId)
          (initial maxEventsPerSession) actions := by
  refine forall_congr' fun sessionId => ?_
  have hempty : ¬ (initial maxEventsPerSession).store.has config sessionId =
      true := by
    simp [initial, InMemorySessionStore.has, InMemorySessionStore.new]
  rw [run_queue_iff config maxEventsPerSession hrun,
    Lts.holds_iff_since (fun hstep => has_step sessionId hstep) hempty hrun]

namespace EventSessionsWitness

def config : Config :=
  ⟨List.length, 1, some 10⟩

def sessionId : Str := "s"

def created : List Action :=
  [.check 0 0, .create 0 sessionId (some "a"),
    .writeStr sessionId "a" "reply" false 1, .set 0 sessionId 1]

theorem created_covered :
    ∃ final, Lts.run (step config) (initial none) created = some final ∧
      final.requests.keys = [] ∧ final.events.queue sessionId ≠ [] ∧ Covered config final := by
  have hrun : (Lts.run (step config) (initial none) created).any
      fun final => final.requests.keys = [] ∧
        final.events.queue sessionId ≠ [] := by
    decide +kernel
  obtain ⟨final, hfinal, hquiet⟩ := (any_eq_true _ _).mp hrun
  obtain ⟨hrequests, hqueue⟩ := of_decide_eq_true hquiet
  refine ⟨final, hfinal, hrequests, hqueue, ?_⟩
  refine (run_covered_iff config none hfinal).mpr ?_
  rintro other ⟨action, haction, hstores⟩
  have hother : other = sessionId := by
    simp only [created, List.mem_cons, List.not_mem_nil, or_false] at haction
    rcases haction with rfl | rfl | rfl | rfl
    · exact hstores.elim
    · exact hstores.elim
    · exact hstores.1.symm
    · exact hstores.elim
  subst hother
  exact ⟨created.dropLast, .set 0 sessionId 1, [], final, rfl, rfl, hfinal, trivial⟩

def deleted : List Action :=
  created ++ [.delete 1 sessionId 2, .remove 1 sessionId]

/-- A later request finds the store full and drops the idle session. -/
def evicted : List Action :=
  created ++ .check 1 100 :: List.replicate shardCount (.evict 1) ++ [.finish 1]

/-- No request is in progress, and the session is gone but not its event. -/
def outlives (final : State) : Bool :=
  final.requests.keys = [] ∧ final.events.queue sessionId ≠ [] ∧
    final.store.has config sessionId = false

theorem events_outlive :
    (∃ final, Lts.run (step config) (initial none) deleted = some final ∧
        outlives final = true ∧ ¬ Covered config final) ∧
      ∃ final, Lts.run (step config) (initial none) evicted = some final ∧
        outlives final = true ∧ ¬ Covered config final := by
  have hdeleted : (Lts.run (step config) (initial none) deleted).any
      outlives := by
    decide +kernel
  have hevicted : (Lts.run (step config) (initial none) evicted).any
      outlives := by
    decide +kernel
  have hbroken : ∀ {final}, outlives final = true → ¬ Covered config final := by
    intro final houtlives hcovered
    obtain ⟨-, hqueue, hhas⟩ := of_decide_eq_true houtlives
    rw [hcovered sessionId hqueue] at hhas
    cases hhas
  obtain ⟨first, hfirst, hone⟩ := (any_eq_true _ _).mp hdeleted
  obtain ⟨second, hsecond, htwo⟩ := (any_eq_true _ _).mp hevicted
  exact ⟨⟨first, hfirst, hone, hbroken hone⟩, second, hsecond, htwo, hbroken htwo⟩

end EventSessionsWitness

end McpSdk.EventSessions
