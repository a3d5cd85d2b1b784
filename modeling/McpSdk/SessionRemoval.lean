/-
The end of a session while requests for it are under way. A DELETE shuts the
runtime down first; the store drops idle sessions, and their runtimes live on
with the requests that have found them.
-/
import McpSdk.SessionExpiry
import McpSdk.StreamExclusion

namespace McpSdk.SessionRemoval

open SessionStore TransportMap StreamExclusion

inductive Post where
  | found
  | completed
deriving Repr, DecidableEq

inductive Delete where
  | found
  /-- In `shutdown`, with what was in the map. -/
  | taken (transport : Option Nat)
  /-- `shutdown` has returned. -/
  | shut
  | completed
deriving Repr, DecidableEq

/-- The session store, and the runtime of one session with its requests. -/
structure State where
  store : InMemorySessionStore
  streams : StreamExclusion.State
  posts : List Post
  deletes : List Delete

/-- Requests for the session, its DELETE, and evictions. -/
inductive Action where
  | get (now : Nat)
  /-- A step of a GET request or of its stream. -/
  | act (get : Nat) (event : Event)
  | post (now : Nat)
  /-- A POST runs a stream of its own, from `store_transport` to
  `remove_transport`. -/
  | serve (post : Nat) (streamId : Str) (listening : Bool)
  | delete (now : Nat)
  | take (delete : Nat)
  | shutDown (delete : Nat) (listening : Bool)
  | remove (delete : Nat)
  /-- The connection of a DELETE is closed. -/
  | drop (delete : Nat)
  /-- `evict_idle` at one shard. -/
  | evict (index now : Nat)
deriving Repr, DecidableEq

/-- No request is under way. -/
def State.initial (store : InMemorySessionStore) : State :=
  ⟨store, .initial, [], []⟩

namespace State

variable (config : Config) (sessionId : Str)

/-- A request that finds the session enters; another one gets a 404. -/
def lookUp (self : State) (now : Nat) (enter : State → State) : State :=
  match self.store.get config sessionId now with
  | (true, store) => enter { self with store }
  | (false, _) => self

def setRuntime (self : State) (runtime : ServerRuntime) : State :=
  { self with streams := { self.streams with runtime } }

def setDelete (self : State) (index : Nat) (delete : Delete) : State :=
  { self with deletes := self.deletes.set index delete }

end State

/-- One request or the store takes a step. -/
def step (config : Config) (sessionId : Str) (state : State) :
    Action → Option State
  | .get now =>
    some (state.lookUp config sessionId now fun state =>
      { state with streams := { state.streams with gets := state.streams.gets ++ [.found] } })
  | .act get event =>
    (StreamExclusion.step state.streams (.act get event)).map fun streams =>
      { state with streams }
  | .post now =>
    some (state.lookUp config sessionId now fun state =>
      { state with posts := state.posts ++ [.found] })
  | .serve post streamId listening =>
    if state.posts[post]? = some .found ∧ streamId ≠ defaultStreamId then
      let stored := state.streams.runtime.storeTransport streamId post
      some { state.setRuntime
          (stored.removeTransport streamId post listening).2 with
        posts := state.posts.set post .completed }
    else none
  | .delete now =>
    some (state.lookUp config sessionId now fun state =>
      { state with deletes := state.deletes ++ [.found] })
  | .take delete =>
    match state.deletes[delete]? with
    | some .found =>
      let result := state.streams.runtime.takeTransport
      some ((state.setRuntime result.2).setDelete delete (.taken result.1))
    | _ => none
  | .shutDown delete listening =>
    match state.deletes[delete]? with
    | some (.taken transport) =>
      some ((state.setRuntime (state.streams.runtime.shutDownTaken transport
        listening)).setDelete delete .shut)
    | _ => none
  | .remove delete =>
    match state.deletes[delete]? with
    | some .shut =>
      some { state.setDelete delete .completed with
        store := state.store.delete config sessionId }
    | _ => none
  | .drop delete =>
    match state.deletes[delete]? with
    | some _ => some (state.setDelete delete .completed)
    | none => none
  | .evict index now =>
    some { state with store := state.store.evictShard config index now }

/-- The handler of the request has returned or was dropped. -/
def Answered : Get → Prop
  | .ended => True
  | .opened .streaming _ => True
  | .opened .completed _ => True
  | _ => False

instance : DecidablePred Answered
  | .found => isFalse id
  | .passed => isFalse id
  | .ended => isTrue trivial
  | .opened .waiting _ => isFalse id
  | .opened .streaming _ | .opened .completed _ => isTrue trivial

/-- Every request that has found the session is over. -/
def State.Completed (self : State) : Prop :=
  (∀ get ∈ self.streams.gets, Answered get) ∧
    (∀ post ∈ self.posts, post = .completed) ∧
    ∀ delete ∈ self.deletes, delete = .completed

instance (self : State) : Decidable self.Completed :=
  inferInstanceAs (Decidable (_ ∧ _ ∧ _))

/-- A removed session without requests has no transport that is not shut down. -/
def Quiet (config : Config) (sessionId : Str) (state : State) : Prop :=
  state.store.has config sessionId = false → state.Completed →
    ∀ id, state.streams.runtime.transportMap = some id →
      (state.streams.runtime.transports id).isShutDown = true

/-- Between the moment the map is emptied and the removal from the store. -/
def Delete.emptied : Delete → Bool
  | .taken _ => true
  | .shut => true
  | _ => false

/-- A transport is stored only while the session is there and no DELETE is about
to remove it, and only a session without a live stream is evicted. -/
def Guarded (config : Config) (sessionId : Str) (state : State) :
    Action → Prop
  | .act _ .store =>
    state.store.has config sessionId = true ∧ ∀ delete ∈ state.deletes, delete.emptied = false
  | .evict index now =>
    (state.store.evictShard config index now).has config sessionId = false →
      state.streams.runtime.defaultStreamExists = false
  | _ => True

instance (config : Config) (sessionId : Str) (state : State) :
    DecidablePred (Guarded config sessionId state)
  | .get _ => isTrue trivial
  | .act _ .store => inferInstanceAs (Decidable (_ ∧ _))
  | .act _ .check | .act _ .create | .act _ .ready | .act _ .drop | .act _ .start
  | .act _ (.disconnect _) | .act _ .fail | .act _ (.exit _) | .post _ | .serve _ _ _ | .delete _
  | .take _ | .shutDown _ _ | .remove _ | .drop _ => isTrue trivial
  | .evict _ _ => inferInstanceAs (Decidable (_ → _))

/-- While the session is out of the store or about to be, no transport is live. -/
structure Safe (config : Config) (sessionId : Str) (state : State) : Prop where
  registered : Registered state.streams
  removed : state.store.has config sessionId = false →
    state.streams.runtime.defaultStreamExists = false
  emptied : ∀ delete ∈ state.deletes, delete.emptied = true →
    state.streams.runtime.defaultStreamExists = false

section Safe

variable {config : Config} {sessionId : Str} {state next : State}

theorem Safe.initial (config : Config) (sessionId : Str) (store : InMemorySessionStore) :
    Safe config sessionId (State.initial store) where
  registered := .initial
  removed _ := rfl
  emptied _ _ _ := rfl

section

variable (hstate : Safe config sessionId state)

include hstate

theorem Safe.lookUp (now : Nat) {enter : State → State}
    (henter : ∀ {found}, Safe config sessionId found → Safe config sessionId (enter found)) :
    Safe config sessionId (state.lookUp config sessionId now enter) := by
  rw [State.lookUp, InMemorySessionStore.get]
  split
  · next store hget =>
    obtain ⟨-, rfl⟩ := Prod.mk.inj hget
    refine henter ⟨hstate.registered, ?_, hstate.emptied⟩
    intro habsent
    rw [InMemorySessionStore.has_touch] at habsent
    exact hstate.removed habsent
  · exact hstate

theorem Safe.setStreams {streams : StreamExclusion.State} (hregistered : Registered streams)
    (hexists : streams.runtime.defaultStreamExists = true →
      state.streams.runtime.defaultStreamExists = true) :
    Safe config sessionId { state with streams } := by
  have hfalse : state.streams.runtime.defaultStreamExists = false →
      streams.runtime.defaultStreamExists = false := by
    intro hbefore
    refine eq_false_of_ne_true fun hafter => ?_
    rw [hexists hafter] at hbefore
    cases hbefore
  exact ⟨hregistered, fun habsent => hfalse (hstate.removed habsent),
    fun delete hdelete hemptied =>
      hfalse (hstate.emptied delete hdelete hemptied)⟩

theorem Safe.setDelete (index : Nat) {delete : Delete}
    (hdelete : delete.emptied = true → state.streams.runtime.defaultStreamExists = false) :
    Safe config sessionId (state.setDelete index delete) := by
  refine ⟨hstate.registered, hstate.removed, ?_⟩
  intro other hother hemptied
  rcases List.mem_or_eq_of_mem_set hother with hold | rfl
  · exact hstate.emptied other hold hemptied
  · exact hdelete hemptied

theorem Safe.act {get : Nat} {event : Event}
    (hguarded : Guarded config sessionId state (.act get event)) {streams : StreamExclusion.State}
    (hstep : StreamExclusion.step state.streams (.act get event) = some streams) :
    Safe config sessionId { state with streams } := by
  have hregistered := hstate.registered.step hstep
  by_cases hevent : event = .store
  · subst hevent
    obtain ⟨hpresent, hdeletes⟩ := hguarded
    refine ⟨hregistered, ?_, ?_⟩
    · intro habsent
      rw [hpresent] at habsent
      cases habsent
    · intro delete hdelete hemptied
      rw [hdeletes delete hdelete] at hemptied
      cases hemptied
  · refine hstate.setStreams hregistered ?_
    rcases StreamExclusion.step_cases hstep with
      ⟨heq, -⟩ | ⟨id, event, get, after, runtime, heq, hget, hafter, rfl⟩
    · cases heq
    · cases heq
      exact (Get.step_cases hafter).exists_of_exists (hstate.registered.ne_of_task hget) hevent

/-- A guarded step leaves a removed session no live transport. -/
theorem Safe.step {action : Action} (hguarded : Guarded config sessionId state action)
    (hstep : step config sessionId state action = some next) : Safe config sessionId next := by
  cases action with
  | get now =>
    cases hstep
    refine hstate.lookUp now fun hfound => ?_
    exact ⟨@Registered.step _ _ .arrive hfound.registered rfl, hfound.removed, hfound.emptied⟩
  | act get event =>
    obtain ⟨streams, hstreams, rfl⟩ := Option.map_eq_some_iff.mp hstep
    exact hstate.act hguarded hstreams
  | post now =>
    cases hstep
    refine hstate.lookUp now fun hfound => ?_
    exact ⟨hfound.registered, hfound.removed, hfound.emptied⟩
  | serve post streamId listening =>
    obtain ⟨hpost, ⟨⟩⟩ := Lts.of_guard hstep
    rw [ServerRuntime.storeTransport_of_ne hpost.2,
      ServerRuntime.removeTransport_of_ne listening hpost.2]
    exact ⟨hstate.registered, hstate.removed, hstate.emptied⟩
  | delete now =>
    cases hstep
    refine hstate.lookUp now fun hfound => ?_
    refine ⟨hfound.registered, hfound.removed, ?_⟩
    intro delete hdelete hemptied
    rcases List.mem_append.mp hdelete with hold | hnew
    · exact hfound.emptied delete hold hemptied
    · cases List.mem_singleton.mp hnew
      cases hemptied
  | take delete =>
    simp only [SessionRemoval.step] at hstep
    split at hstep
    · cases hstep
      exact Safe.setDelete ⟨fun _ hmap => (by cases hmap), fun _ => rfl,
        fun _ _ _ => rfl⟩ delete fun _ => rfl
    · cases hstep
  | shutDown delete listening =>
    simp only [SessionRemoval.step] at hstep
    split at hstep
    · next transport htaken =>
      cases hstep
      have hruntime : Safe config sessionId (state.setRuntime
          (state.streams.runtime.shutDownTaken transport listening)) := by
        refine hstate.setStreams ?_ ServerRuntime.of_defaultStreamExists_shutDownTaken
        intro id hmap
        rw [ServerRuntime.transportMap_shutDownTaken] at hmap
        exact hstate.registered id hmap
      exact hruntime.setDelete delete fun _ =>
        hruntime.emptied _ (List.mem_of_getElem? htaken) rfl
    · cases hstep
  | remove delete =>
    simp only [SessionRemoval.step] at hstep
    split at hstep
    · next hshut =>
      cases hstep
      have hbefore := hstate.emptied _ (List.mem_of_getElem? hshut) rfl
      have hset : Safe config sessionId (state.setDelete delete .completed) :=
        hstate.setDelete delete fun hemptied => by cases hemptied
      exact ⟨hset.registered, fun _ => hbefore, hset.emptied⟩
    · cases hstep
  | drop delete =>
    simp only [SessionRemoval.step] at hstep
    split at hstep
    · cases hstep
      exact hstate.setDelete delete fun hemptied => by cases hemptied
    · cases hstep
  | evict index now =>
    cases hstep
    exact ⟨hstate.registered, hguarded, hstate.emptied⟩

theorem Safe.quiet: Quiet config sessionId state := by
  intro habsent _ id hmap
  exact ServerRuntime.isShutDown_of_not_exists (hstate.removed habsent) hmap

end

end Safe

/-- In every interleaving of requests and evictions that is guarded, a removed
session has no live stream. -/
theorem run_quiet (config : Config) (sessionId : Str) (store : InMemorySessionStore)
    {actions : List Action} {final : State}
    (hguarded : Lts.Along (step config sessionId) (Guarded config sessionId) (State.initial store)
      actions) (hrun : Lts.run (step config sessionId) (State.initial store) actions = some final) :
    Quiet config sessionId final := by
  have hsafe : Safe config sessionId final :=
    Lts.run_invariant (fun hstate hcondition hstep =>
      hstate.step hcondition hstep) (Safe.initial config sessionId store)
      hguarded hrun
  exact hsafe.quiet

namespace SessionRemovalWitness

def config : Config :=
  ⟨List.length, 1, some 100⟩

def sessionId : Str := "s"

def store : InMemorySessionStore :=
  InMemorySessionStore.new.set config sessionId 0

/-- A stream is opened, a POST is served, and the session is deleted. -/
def deleted : List Action :=
  [.get 10, .act 0 .check, .act 0 .create, .act 0 .start, .act 0 .store,
    .act 0 .ready, .post 20, .serve 0 "a" true, .delete 30, .take 0,
    .shutDown 0 true, .act 0 .drop, .remove 0]

theorem deleted_quiet :
    ∃ final, Lts.run (step config sessionId) (State.initial store) deleted = some final ∧
      final.store.has config sessionId = false ∧
      (final.streams.runtime.transports 0).isShutDown = true ∧ Quiet config sessionId final := by
  have hrun : Lts.run (step config sessionId) (State.initial store) deleted = some _ := rfl
  exact ⟨_, hrun, by decide, by decide, run_quiet config sessionId store (by decide) hrun⟩

/-- The session is evicted while its stream is open, before that is noticed. -/
def evicted : List Action :=
  [.get 0, .act 0 .check, .act 0 .create, .act 0 .start, .act 0 .store,
    .act 0 .ready, .act 0 .drop, .evict 1 101]

theorem evicted_not_quiet :
    ∃ final, Lts.run (step config sessionId) (State.initial store) evicted = some final ∧
      final.streams.gets = [.opened .completed .stored] ∧ ¬ Quiet config sessionId final := by
  have hrun : Lts.run (step config sessionId) (State.initial store) evicted = some _ := rfl
  refine ⟨_, hrun, rfl, fun hquiet => ?_⟩
  exact absurd (hquiet (by decide) (by decide) 0 rfl) (by decide)

/-- A request has passed the check when the session is deleted. -/
def overtaken : List Action :=
  [.get 0, .act 0 .check, .delete 1, .take 0, .shutDown 0 true, .remove 0,
    .act 0 .create, .act 0 .start, .act 0 .store, .act 0 .ready, .act 0 .drop]

theorem overtaken_not_quiet :
    ∃ final, Lts.run (step config sessionId) (State.initial store) overtaken = some final ∧
      final.streams.gets = [.opened .completed .stored] ∧ ¬ Quiet config sessionId final := by
  have hrun : Lts.run (step config sessionId) (State.initial store) overtaken = some _ := rfl
  refine ⟨_, hrun, rfl, fun hquiet => ?_⟩
  exact absurd (hquiet (by decide) (by decide) 0 rfl) (by decide)

end SessionRemovalWitness

end McpSdk.SessionRemoval
