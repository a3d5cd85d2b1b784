/-
The standalone stream of one session under any number of GET requests. The check
for a live stream and the entry in the map are made at different times, in
different tasks.
-/
import McpSdk.CallList
import McpSdk.Lts
import McpSdk.TransportMap

namespace McpSdk.StreamExclusion

open TransportMap

/-- The part of a request that is left once its task is spawned. -/
inductive Request where
  /-- In `wait_for_transport_ready`. -/
  | waiting
  /-- Its response is being streamed. -/
  | streaming
  | completed
deriving Repr, DecidableEq

/-- Where the task of `create_sse_stream` is that runs `start_stream`. -/
inductive StreamTask where
  | spawned
  | started
  | stored
  /-- `start_stream` has returned. -/
  | exited
  | finished
deriving Repr, DecidableEq

inductive Get where
  /-- It has the runtime of its session. -/
  | found
  /-- It was told that there is no live stream. -/
  | passed
  /-- It is over without a stream. -/
  | ended
  | opened (request : Request) (task : StreamTask)
deriving Repr, DecidableEq

inductive Event where
  /-- `default_stream_exists`. -/
  | check
  /-- `create_sse_stream`. -/
  | create
  /-- `wait_for_transport_ready` finds a live transport. -/
  | ready
  /-- A timeout or an error ends the request, or its connection is closed. -/
  | drop
  | start
  | store
  /-- The keep-alive task finds the connection closed. -/
  | disconnect (listening : Bool)
  /-- An error of a handler is passed on by `start_stream`. -/
  | fail
  /-- The `remove_transport` that follows `start_stream`. -/
  | exit (listening : Bool)
deriving Repr, DecidableEq

/-- One step of a request or its task; its transport has its number. -/
def Get.step (self : Get) (id : Nat) (runtime : ServerRuntime) :
    Event → Option (Get × ServerRuntime)
  | .check =>
    match self with
    | .found =>
      -- 409 Conflict
      if runtime.defaultStreamExists then some (.ended, runtime)
      else some (.passed, runtime)
    | _ => none
  | .create =>
    match self with
    | .passed => some (.opened .waiting .spawned, runtime.setTransport id .new)
    | _ => none
  | .ready =>
    match self with
    | .opened .waiting task =>
      if runtime.defaultStreamExists then
        some (.opened .streaming task, runtime)
      else none
    | _ => none
  | .drop =>
    match self with
    | .found => some (.ended, runtime)
    | .passed => some (.ended, runtime)
    | .opened .waiting task => some (.opened .completed task, runtime)
    | .opened .streaming task => some (.opened .completed task, runtime)
    | _ => none
  | .start =>
    match self with
    | .opened request .spawned =>
      match (runtime.transports id).start with
      | (.ok (), transport) =>
        some (.opened request .started, runtime.setTransport id transport)
      | (.error _, transport) =>
        some (.opened request .exited, runtime.setTransport id transport)
    | _ => none
  | .store =>
    match self with
    | .opened request .started =>
      some (.opened request .stored, runtime.storeTransport defaultStreamId id)
    | _ => none
  | .disconnect listening =>
    match self with
    | .opened request .stored =>
      some (.opened request .exited, (runtime.removeTransport defaultStreamId id listening).2)
    | _ => none
  | .fail =>
    match self with
    | .opened request .stored => some (.opened request .exited, runtime)
    | _ => none
  | .exit listening =>
    match self with
    | .opened request .exited =>
      some (.opened request .finished, (runtime.removeTransport defaultStreamId id listening).2)
    | _ => none

/-- The GET requests in order of arrival, and the runtime of their session. -/
structure State where
  runtime : ServerRuntime
  gets : List Get

/-- A GET arrives, or one under way moves on. -/
inductive Action where
  | arrive
  | act (get : Nat) (event : Event)
deriving Repr, DecidableEq

/-- No GET has arrived. -/
def State.initial : State :=
  ⟨.new, []⟩

/-- One GET takes a step. -/
def step (state : State) : Action → Option State
  | .arrive => some { state with gets := state.gets ++ [.found] }
  | .act id event =>
    match state.gets[id]? with
    | some get =>
      (get.step id state.runtime event).map fun result =>
        ⟨result.2, state.gets.set id result.1⟩
    | none => none

/-- At most one transport of the requests is started and not shut down. -/
def AtMostOne (state : State) : Prop :=
  ∀ left right, (state.runtime.transports left).Live →
    (state.runtime.transports right).Live → left = right

def Get.task : Get → Option StreamTask
  | .opened _ task => some task
  | _ => none

/-- Past the check, and not yet in the map. -/
def Get.Pending (self : Get) : Prop :=
  self = .passed ∨ self.task = some .spawned ∨ self.task = some .started

instance (self : Get) : Decidable self.Pending :=
  inferInstanceAs (Decidable (_ ∨ _ ∨ _))

/-- A request is let through only while no other is pending. -/
def Alone (state : State) : Action → Prop
  | .act _ .check => state.runtime.defaultStreamExists = false →
      ∀ get ∈ state.gets, ¬ get.Pending
  | _ => True

instance (state : State) : DecidablePred (Alone state)
  | .arrive => isTrue trivial
  | .act _ .check =>
    inferInstanceAs (Decidable (_ → ∀ get ∈ state.gets, _))
  | .act _ .create | .act _ .ready | .act _ .drop | .act _ .start | .act _ .store
  | .act _ (.disconnect _) | .act _ .fail | .act _ (.exit _) => isTrue trivial

theorem Get.not_pending_found : ¬ Get.found.Pending := by
  decide

/-- What a step of a GET can do, with its guard. -/
inductive Get.Step (id : Nat) (runtime : ServerRuntime) :
    Event → Get → Get → ServerRuntime → Prop where
  | pass (hexists : runtime.defaultStreamExists = false) :
      Step id runtime .check .found .passed runtime
  | keep {event : Event} {get next : Get}
      (hpending : next.Pending → get.Pending)
      (htask : get.task.isSome → next.task.isSome)
      (hstarted : get.task = some .started → next.task = some .started) :
      Step id runtime event get next runtime
  | create : Step id runtime .create .passed (.opened .waiting .spawned)
      (runtime.setTransport id .new)
  | start {request : Request} {task : StreamTask} {transport : SseTransport}
      (hshut : transport.isShutDown = (runtime.transports id).isShutDown)
      (hlive : transport.Live → task = .started ∨ (runtime.transports id).Live) :
      Step id runtime .start (.opened request .spawned) (.opened request task)
        (runtime.setTransport id transport)
  | store {request : Request} :
      Step id runtime .store (.opened request .started)
        (.opened request .stored) { runtime with transportMap := some id }
  | remove {event : Event} {request : Request} {task after : StreamTask}
      {listening : Bool}
      (hpending : ¬ (Get.opened request task).Pending)
      (hafter : ¬ (Get.opened request after).Pending) :
      Step id runtime event (.opened request task) (.opened request after)
        (runtime.removeTransport defaultStreamId id listening).2

variable {runtime : ServerRuntime} {event : Event} {id : Nat}

theorem Get.Step.request {before after : Request} {task : StreamTask} :
    Get.Step id runtime event (.opened before task) (.opened after task) runtime :=
  .keep (by simp [Get.Pending, Get.task]) (fun htask => htask)
    (fun hstarted => hstarted)

/-- Every step of a GET is one of the relation's. -/
theorem Get.step_cases {get next : Get} {after : ServerRuntime}
    (hstep : get.step id runtime event = some (next, after)) :
    Get.Step id runtime event get next after := by
  cases event with
  | check =>
    simp only [Get.step] at hstep
    split at hstep
    · split at hstep
      · cases hstep
        exact .keep (by decide) (by decide) (by decide)
      · next hexists =>
        cases hstep
        exact .pass (eq_false_of_ne_true hexists)
    · cases hstep
  | create =>
    simp only [Get.step] at hstep
    split at hstep
    · cases hstep
      exact .create
    · cases hstep
  | ready =>
    simp only [Get.step] at hstep
    split at hstep
    · obtain ⟨-, ⟨⟩⟩ := Lts.of_guard hstep
      exact .request
    · cases hstep
  | drop =>
    simp only [Get.step] at hstep
    split at hstep
    · cases hstep
      exact .keep (by decide) (by decide) (by decide)
    · cases hstep
      exact .keep (by decide) (by decide) (by decide)
    · cases hstep
      exact .request
    · cases hstep
      exact .request
    · cases hstep
  | start =>
    simp only [Get.step] at hstep
    split at hstep
    · split at hstep
      · next hstart =>
        cases hstep
        exact .start (SseTransport.isShutDown_of_start hstart) fun _ => .inl rfl
      · next hstart =>
        cases hstep
        exact .start (SseTransport.isShutDown_of_start hstart)
          fun hlive => .inr (SseTransport.live_of_start_error hstart hlive)
    · cases hstep
  | store =>
    simp only [Get.step] at hstep
    split at hstep
    · cases hstep
      rw [ServerRuntime.storeTransport_default]
      exact .store
    · cases hstep
  | disconnect listening =>
    simp only [Get.step] at hstep
    split at hstep
    · cases hstep
      exact .remove (by simp [Get.Pending, Get.task]) (by simp [Get.Pending, Get.task])
    · cases hstep
  | fail =>
    simp only [Get.step] at hstep
    split at hstep
    · cases hstep
      exact .keep (by simp [Get.Pending, Get.task]) (fun _ => rfl) (by simp [Get.task])
    · cases hstep
  | exit listening =>
    simp only [Get.step] at hstep
    split at hstep
    · cases hstep
      exact .remove (by simp [Get.Pending, Get.task]) (by simp [Get.Pending, Get.task])
    · cases hstep

/-- A request with this number is there, and it has the property. -/
def State.At (self : State) (property : Get → Prop) (id : Nat) : Prop :=
  ∃ get, self.gets[id]? = some get ∧ property get

section At

variable {state : State} {property : Get → Prop} {id other : Nat}

theorem State.at_arrive_of_at (hat : state.At property other) :
    State.At { state with gets := state.gets ++ [.found] } property other := by
  obtain ⟨get, hget, hproperty⟩ := hat
  exact ⟨get, CallList.getElem?_concat_of_some hget _, hproperty⟩

theorem State.at_of_at_arrive (hfound : ¬ property .found)
    (hat : State.At { state with gets := state.gets ++ [.found] } property other) :
    state.At property other := by
  obtain ⟨get, hget, hproperty⟩ := hat
  rcases CallList.getElem?_concat_cases hget with ⟨-, rfl⟩ | hold
  · exact absurd hproperty hfound
  · exact ⟨get, hold, hproperty⟩

theorem State.at_set_self {get next : Get} (hget : state.gets[id]? = some get)
    (runtime : ServerRuntime) :
    State.At ⟨runtime, state.gets.set id next⟩ property id ↔ property next := by
  simp [State.At, CallList.getElem?_set_of_some hget]

theorem State.at_set_of_ne {next : Get} (runtime : ServerRuntime) (hne : other ≠ id) :
    State.At ⟨runtime, state.gets.set id next⟩ property other ↔ state.At property other := by
  simp only [State.At, List.getElem?_set_ne hne.symm]

theorem State.at_iff {get : Get} (hget : state.gets[id]? = some get) :
    state.At property id ↔ property get := by
  simp [State.At, hget]

theorem State.at_of_at_set {get next : Get} {runtime : ServerRuntime}
    (hget : state.gets[id]? = some get) (hnext : property next → property get)
    (hat : State.At ⟨runtime, state.gets.set id next⟩ property other) :
    state.At property other := by
  by_cases heq : other = id
  · subst heq
    exact (State.at_iff hget).mpr (hnext ((State.at_set_self hget _).mp hat))
  · exact (State.at_set_of_ne _ heq).mp hat

end At

/-- What a step can do, with its guard. -/
theorem step_cases {state next : State} {action : Action} (hstep : step state action = some next) :
    (action = .arrive ∧ next = { state with gets := state.gets ++ [.found] }) ∨
      ∃ id event get after runtime, action = .act id event ∧
        state.gets[id]? = some get ∧
        get.step id state.runtime event = some (after, runtime) ∧
        next = ⟨runtime, state.gets.set id after⟩ := by
  cases action with
  | arrive =>
    cases hstep
    exact .inl ⟨rfl, rfl⟩
  | act id event =>
    simp only [step] at hstep
    split at hstep
    · next get hget =>
      obtain ⟨⟨after, runtime⟩, hafter, rfl⟩ := Option.map_eq_some_iff.mp hstep
      exact .inr ⟨id, event, get, after, runtime, rfl, hget, hafter, rfl⟩
    · cases hstep

/-- The transport in the map was put there by the task of its request. -/
def Registered (state : State) : Prop :=
  ∀ id, state.runtime.transportMap = some id → state.At (fun get => get.task.isSome) id

theorem Registered.initial : Registered State.initial := by
  intro id hid
  cases hid

variable {state : State}

theorem Registered.ne_of_task (hstate : Registered state) {get : Get}
    (hget : state.gets[id]? = some get) (htask : get.task = none) :
    state.runtime.transportMap ≠ some id := by
  intro hmap
  have hsome := (State.at_iff hget).mp (hstate id hmap)
  rw [htask] at hsome
  cases hsome

/-- The transport in the map stays one that a request put there. -/
theorem Registered.step {state next : State} {action : Action} (hstate : Registered state)
    (hstep : step state action = some next) : Registered next := by
  rcases step_cases hstep with
    ⟨rfl, rfl⟩ | ⟨id, event, get, after, runtime, rfl, hget, hafter, rfl⟩
  · intro other hmap
    exact State.at_arrive_of_at (hstate other hmap)
  · intro other hmap
    by_cases heq : other = id
    · subst heq
      rw [State.at_set_self hget]
      cases Get.step_cases hafter with
      | pass => exact absurd hmap (hstate.ne_of_task hget rfl)
      | keep hpending htask =>
        exact htask ((State.at_iff hget).mp (hstate other hmap))
      | create | start | store | remove => rfl
    · rw [State.at_set_of_ne _ heq]
      cases Get.step_cases hafter with
      | store => exact absurd (Option.some.inj hmap).symm heq
      | remove =>
        rw [ServerRuntime.transportMap_removeTransport] at hmap
        exact hstate other hmap
      | pass | keep | create | start => exact hstate other hmap

theorem Get.Step.exists_of_exists {after : ServerRuntime} {get next : Get}
    (hstep : Get.Step id runtime event get next after)
    (hmap : get.task = none → runtime.transportMap ≠ some id) (hevent : event ≠ .store)
    (hexists : after.defaultStreamExists = true) : runtime.defaultStreamExists = true := by
  cases hstep with
  | pass => exact hexists
  | keep => exact hexists
  | create =>
    rwa [ServerRuntime.defaultStreamExists_setTransport_of_ne _ (hmap rfl)] at hexists
  | start hshut =>
    exact ServerRuntime.of_defaultStreamExists_setTransport (fun hopen => hshut ▸ hopen) hexists
  | store => exact absurd rfl hevent
  | remove =>
    exact ServerRuntime.of_defaultStreamExists_removeTransport hexists

/-- At most one request is pending, and meanwhile the map holds no live
transport, which is otherwise in the map or about to be. -/
structure Exclusive (state : State) : Prop where
  registered : Registered state
  live : ∀ {id}, (state.runtime.transports id).Live →
    state.runtime.transportMap = some id ∨ state.At (fun get => get.task = some .started) id
  alone : ∀ {left right}, state.At Get.Pending left → state.At Get.Pending right → left = right
  quiet : ∀ {id}, state.At Get.Pending id → state.runtime.defaultStreamExists = false

theorem Exclusive.initial : Exclusive State.initial where
  registered := .initial
  live hlive := absurd hlive SseTransport.not_live_new
  alone hleft := by
    obtain ⟨get, hget, -⟩ := hleft
    cases hget
  quiet hpending := by
    obtain ⟨get, hget, -⟩ := hpending
    cases hget

section

variable (hstate : Exclusive state)

include hstate

theorem Exclusive.arrive
    (hregistered : Registered { state with gets := state.gets ++ [.found] }) :
    Exclusive { state with gets := state.gets ++ [.found] } where
  registered := hregistered
  live hlive := (hstate.live hlive).imp_right State.at_arrive_of_at
  alone hleft hright :=
    hstate.alone (State.at_of_at_arrive Get.not_pending_found hleft)
      (State.at_of_at_arrive Get.not_pending_found hright)
  quiet hpending := hstate.quiet (State.at_of_at_arrive Get.not_pending_found hpending)

theorem Exclusive.pass {id : Nat}
    (hget : state.gets[id]? = some .found) (hexists : state.runtime.defaultStreamExists = false)
    (halone : ∀ get ∈ state.gets, ¬ get.Pending)
    (hregistered : Registered ⟨state.runtime, state.gets.set id .passed⟩) :
    Exclusive ⟨state.runtime, state.gets.set id .passed⟩ := by
  have honly : ∀ {other : Nat}, State.At
      ⟨state.runtime, state.gets.set id .passed⟩ Get.Pending other →
        other = id := by
    intro other hother
    by_contra hne
    obtain ⟨get, hother, hpending⟩ := (State.at_set_of_ne _ hne).mp hother
    exact halone get (List.mem_of_getElem? hother) hpending
  refine ⟨hregistered, ?_, ?_, fun _ => hexists⟩
  · intro other hlive
    refine (hstate.live hlive).imp_right fun hstarted => ?_
    have hne : other ≠ id := by
      rintro rfl
      cases (State.at_iff hget).mp hstarted
    exact (State.at_set_of_ne _ hne).mpr hstarted
  · intro left right hleft hright
    exact (honly hleft).trans (honly hright).symm

theorem Exclusive.set {id : Nat} {get next : Get}
    {runtime : ServerRuntime} (hget : state.gets[id]? = some get)
    (hpending : next.Pending → get.Pending)
    (hexists : runtime.defaultStreamExists = true → state.runtime.defaultStreamExists = true)
    (hmap : runtime.transportMap = state.runtime.transportMap)
    (hother : ∀ {other}, other ≠ id → (runtime.transports other).Live →
      (state.runtime.transports other).Live)
    (hself : (runtime.transports id).Live → state.runtime.transportMap = some id ∨ next.task =
      some .started) (hregistered : Registered ⟨runtime, state.gets.set id next⟩) :
    Exclusive ⟨runtime, state.gets.set id next⟩ := by
  refine ⟨hregistered, ?_, ?_, ?_⟩
  · intro other hlive
    change runtime.transportMap = some other ∨ _
    rw [hmap]
    by_cases heq : other = id
    · subst heq
      rw [State.at_set_self hget]
      exact hself hlive
    · rw [State.at_set_of_ne _ heq]
      exact hstate.live (hother heq hlive)
  · intro left right hleft hright
    exact hstate.alone (State.at_of_at_set hget hpending hleft)
      (State.at_of_at_set hget hpending hright)
  · intro other hat
    have hbefore := hstate.quiet (State.at_of_at_set hget hpending hat)
    refine eq_false_of_ne_true fun htrue => ?_
    rw [hexists htrue] at hbefore
    cases hbefore

theorem Exclusive.store {id : Nat} {request : Request}
    (hget : state.gets[id]? = some (.opened request .started))
    (hregistered : Registered ⟨{ state.runtime with transportMap := some id },
      state.gets.set id (.opened request .stored)⟩) :
    Exclusive ⟨{ state.runtime with transportMap := some id },
      state.gets.set id (.opened request .stored)⟩ := by
  have hself : state.At Get.Pending id := (State.at_iff hget).mpr (.inr (.inr rfl))
  have hnone : ∀ {other : Nat}, ¬ State.At
      ⟨{ state.runtime with transportMap := some id },
        state.gets.set id (.opened request .stored)⟩ Get.Pending other := by
    intro other hother
    by_cases heq : other = id
    · subst heq
      rw [State.at_set_self hget] at hother
      simp [Get.Pending, Get.task] at hother
    · rw [State.at_set_of_ne _ heq] at hother
      exact heq (hstate.alone hother hself)
  refine ⟨hregistered, ?_, fun hleft => absurd hleft hnone, fun hpending => absurd hpending hnone⟩
  intro other hlive
  refine .inl (congrArg some ?_)
  rcases hstate.live hlive with hmap | hstarted
  · have hdead : ¬ (state.runtime.transports other).Live :=
      ServerRuntime.not_live_of_not_exists (hstate.quiet hself) hmap
    exact absurd hlive hdead
  · obtain ⟨get, hother, htask⟩ := hstarted
    exact hstate.alone hself ⟨get, hother, .inr (.inr htask)⟩

theorem Exclusive.act {get next : Get}
    (hget : state.gets[id]? = some get) (hstep : Get.Step id state.runtime event get next runtime)
    (halone : Alone state (.act id event))
    (hregistered : Registered ⟨runtime, state.gets.set id next⟩) :
    Exclusive ⟨runtime, state.gets.set id next⟩ := by
  have hexists := hstep.exists_of_exists (hstate.registered.ne_of_task hget)
  -- a transport that was live before is in the map, unless its task is about
  -- to put it there
  have hlive : get.task ≠ some .started →
      (state.runtime.transports id).Live →
        state.runtime.transportMap = some id := by
    intro htask hlive
    refine (hstate.live hlive).resolve_right fun hstarted => ?_
    exact htask ((State.at_iff hget).mp hstarted)
  cases hstep with
  | pass hnone => exact hstate.pass hget hnone (halone hnone) hregistered
  | keep hpending htask hstarted =>
    refine hstate.set hget hpending (fun hafter => hafter) rfl (fun _ hlive => hlive) ?_ hregistered
    intro hlive
    refine (hstate.live hlive).imp_right fun hat => ?_
    exact hstarted ((State.at_iff hget).mp hat)
  | create =>
    refine hstate.set hget (fun _ => .inl rfl) (hexists (by decide)) rfl ?_ ?_ hregistered
    · intro other hne hlive
      rwa [ServerRuntime.setTransport_of_ne _ hne] at hlive
    · intro hlive
      rw [ServerRuntime.setTransport_self] at hlive
      exact absurd hlive SseTransport.not_live_new
  | start hshut hstarted =>
    refine hstate.set hget (fun _ => .inr (.inl rfl)) (hexists (by decide)) rfl ?_ ?_ hregistered
    · intro other hne hother
      rwa [ServerRuntime.setTransport_of_ne _ hne] at hother
    · intro hnew
      rw [ServerRuntime.setTransport_self] at hnew
      rcases hstarted hnew with rfl | hold
      · exact .inr rfl
      · exact .inl (hlive (by simp [Get.task]) hold)
  | store => exact hstate.store hget hregistered
  | remove hpending hafter =>
    refine hstate.set hget (fun hnext => absurd hnext hafter)
      ServerRuntime.of_defaultStreamExists_removeTransport
      (ServerRuntime.transportMap_removeTransport ..) ?_ ?_ hregistered
    · intro other _ hother
      rwa [ServerRuntime.removeTransport_of_open hother.2] at hother
    · intro hother
      rw [ServerRuntime.removeTransport_of_open hother.2] at hother
      refine .inl (hlive (fun htask => ?_) hother)
      exact hpending (.inr (.inr htask))

end

/-- A step that is alone keeps at most one stream live. -/
theorem Exclusive.step {state next : State} {action : Action} (hstate : Exclusive state)
    (halone : Alone state action) (hstep : step state action = some next) : Exclusive next := by
  have hregistered := hstate.registered.step hstep
  rcases step_cases hstep with
    ⟨rfl, rfl⟩ | ⟨id, event, get, after, runtime, rfl, hget, hafter, rfl⟩
  · exact hstate.arrive hregistered
  · exact hstate.act hget (Get.step_cases hafter) halone hregistered

theorem Exclusive.atMostOne (hstate : Exclusive state) : AtMostOne state := by
  -- of two transports, one in the map and one about to be, the first is not
  -- live
  have hpending : ∀ {id}, state.At (fun get => get.task = some .started) id →
      state.At Get.Pending id := by
    rintro id ⟨get, hget, htask⟩
    exact ⟨get, hget, .inr (.inr htask)⟩
  have hdead : ∀ {id other}, state.runtime.transportMap = some id →
      (state.runtime.transports id).Live →
        ¬ state.At (fun get => get.task = some .started) other := by
    intro id other hmap hlive hstarted
    have hquiet := hstate.quiet (hpending hstarted)
    exact ServerRuntime.not_live_of_not_exists hquiet hmap hlive
  intro left right hleft hright
  rcases hstate.live hleft with hmapLeft | hstartedLeft
  · rcases hstate.live hright with hmapRight | hstartedRight
    · exact Option.some.inj (hmapLeft.symm.trans hmapRight)
    · exact absurd hstartedRight (hdead hmapLeft hleft)
  · rcases hstate.live hright with hmapRight | hstartedRight
    · exact absurd hstartedLeft (hdead hmapRight hright)
    · exact hstate.alone (hpending hstartedLeft) (hpending hstartedRight)

/-- In every interleaving in which a request passes the check only while no
other is on its way from its check to the map, at most one transport is started
and not shut down. -/
theorem run_atMostOne {actions : List Action} {final : State}
    (halone : Lts.Along step Alone State.initial actions)
    (hrun : Lts.run step State.initial actions = some final) : AtMostOne final := by
  have hexclusive : Exclusive final :=
    Lts.run_invariant (fun hstate hcondition hstep =>
      hstate.step hcondition hstep) Exclusive.initial halone hrun
  exact hexclusive.atMostOne

namespace StreamExclusionWitness

/-- A second request is refused, and a third gets a stream after a disconnect. -/
def reconnecting : List Action :=
  [.arrive, .act 0 .check, .act 0 .create, .act 0 .start, .act 0 .store,
    .act 0 .ready, .arrive, .act 1 .check, .act 0 .drop,
    .act 0 (.disconnect true), .act 0 (.exit true), .arrive, .act 2 .check,
    .act 2 .create, .act 2 .start, .act 2 .store, .act 2 .ready]

theorem reconnecting_atMostOne :
    ∃ final, Lts.run step State.initial reconnecting = some final ∧
      AtMostOne final ∧ (final.runtime.transports 2).Live := by
  have hrun : Lts.run step State.initial reconnecting = some _ := rfl
  exact ⟨_, hrun, run_atMostOne (by decide) hrun, by decide⟩

/-- Two requests ask before either has a transport in the map. -/
def overlapping : List Action :=
  [.arrive, .arrive, .act 0 .check, .act 1 .check, .act 0 .create,
    .act 1 .create, .act 0 .start, .act 0 .store, .act 1 .start,
    .act 1 .store, .act 0 .ready, .act 1 .ready]

/-- Both requests get their stream. -/
theorem overlapping_not_atMostOne :
    ∃ final, Lts.run step State.initial overlapping = some final ∧
      final.gets = [.opened .streaming .stored, .opened .streaming .stored] ∧
      ¬ AtMostOne final := by
  have hrun : Lts.run step State.initial overlapping = some _ := rfl
  refine ⟨_, hrun, rfl, fun hone => ?_⟩
  exact absurd (hone 0 1 (by decide) (by decide)) (by decide)

end StreamExclusionWitness

end McpSdk.StreamExclusion
