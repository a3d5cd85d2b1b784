/-
The wait for the transport of the standalone stream. One notification goes from
waiter to waiter; waiters come at any time, and give up or are cancelled at any
of their awaits.
-/
import McpSdk.CallList
import McpSdk.Lts
import McpSdk.Notify
import McpSdk.TransportMap

namespace McpSdk.TransportReady

open TransportMap

inductive Waiter where
  /-- Before the lock of the map, perhaps with a notification in hand. -/
  | checking (woken : Bool)
  /-- With the lock, before the answer of `is_shut_down`. -/
  | holding (id : Nat) (woken : Bool)
  /-- The check failed. -/
  | decided
  /-- In `notified`. -/
  | waiting
  | returned (id : Nat)
  | timedOut
  | cancelled
deriving Repr, DecidableEq

inductive Move where
  | acquire
  | inspect
  /-- The deadline is over after a check. -/
  | expire
  | park
  | resume
  /-- The deadline is over in `notified`. -/
  | timeout
  | cancel
deriving Repr, DecidableEq

/-- One waiter moves on. -/
def Waiter.step (self : Waiter) (index : Nat) (runtime : ServerRuntime)
    (ready : Notify Nat) : Move → Option (Waiter × Notify Nat)
  | .acquire =>
    match self with
    | .checking woken =>
      match runtime.transportMap with
      | some id => some (.holding id woken, ready)
      | none => some (.decided, ready)
    | _ => none
  | .inspect =>
    match self with
    | .holding id _ =>
      if !(runtime.transports id).isShutDown then
        some (.returned id, ready.notifyOne)
      else some (.decided, ready)
    | _ => none
  | .expire =>
    match self with
    | .decided => some (.timedOut, ready)
    | _ => none
  | .park =>
    match self with
    | .decided =>
      match ready.poll index with
      | (true, ready) => some (.checking true, ready)
      | (false, ready) => some (.waiting, ready)
    | _ => none
  | .resume =>
    match self with
    | .waiting =>
      if index ∈ ready.notified then
        some (.checking true, ready.resume index)
      else none
    | _ => none
  | .timeout =>
    match self with
    | .waiting => some (.timedOut, ready.drop index)
    | _ => none
  | .cancel =>
    match self with
    | .checking _ => some (.cancelled, ready)
    | .holding _ _ => some (.cancelled, ready)
    | .waiting => some (.cancelled, ready.drop index)
    | _ => none

/-- The runtime, its notification, and the waiters. -/
structure State where
  runtime : ServerRuntime
  transportReady : Notify Nat
  /-- The calls of `store_transport` that have let go of the lock and have not
  yet notified. -/
  storing : Nat
  waiters : List Waiter

/-- A waiter that holds the lock of the map keeps writers out. -/
def Waiter.isHolding : Waiter → Bool
  | .holding _ _ => true
  | _ => false

/-- A transport is stored, or a waiter comes or moves on. -/
inductive Action where
  | store (id : Nat)
  | notify
  | shutDown (id : Nat) (listening : Bool)
  /-- The runtime's `shutdown` empties the map. -/
  | take
  | arrive
  | act (waiter : Nat) (move : Move)
deriving Repr, DecidableEq

/-- There is no transport, and nobody waits. -/
def State.initial : State :=
  ⟨.new, .new, 0, []⟩

/-- A transport is stored, or one waiter takes a step. -/
def step (state : State) : Action → Option State
  | .store id =>
    if state.waiters.any Waiter.isHolding then none
    else
      some { state with
        runtime := state.runtime.storeTransport defaultStreamId id
        storing := state.storing + 1 }
  | .notify =>
    match state.storing with
    | 0 => none
    | storing + 1 =>
      some { state with
        storing, transportReady := state.transportReady.notifyOne }
  | .shutDown id listening =>
    some { state with
      runtime := state.runtime.shutDownTaken (some id) listening }
  | .take =>
    if state.waiters.any Waiter.isHolding then none
    else some { state with runtime := state.runtime.takeTransport.2 }
  | .arrive => some { state with waiters := state.waiters ++ [.checking false] }
  | .act index move =>
    match state.waiters[index]? with
    | some waiter =>
      (waiter.step index state.runtime state.transportReady move).map
        fun result => { state with
          waiters := state.waiters.set index result.1
          transportReady := result.2 }
    | none => none

/-- In the check, which ends in `notify_one` if the transport is live. -/
def Waiter.WillNotify : Waiter → Prop
  | .checking _ => True
  | .holding _ _ => True
  | _ => False

/-- The transport in the map is live, a waiter sleeps, and no notification is
stored, on its way or to be made. -/
def Stranded (state : State) : Prop :=
  state.runtime.defaultStreamExists = true ∧
    state.transportReady.parked ≠ [] ∧
    state.transportReady.permit = false ∧
    state.transportReady.notified = [] ∧
    state.storing = 0 ∧
    ∀ waiter ∈ state.waiters, ¬ waiter.WillNotify

/-- What a waiter returns next is in the map and not shut down. -/
def ReturnsLive (state : State) : Prop :=
  ∀ (action : Action) (next : State) (index id : Nat),
    step state action = some next →
    next.waiters[index]? = some (.returned id) →
    state.waiters[index]? ≠ some (.returned id) →
      state.runtime.transportMap = some id ∧ (state.runtime.transports id).isShutDown = false

/-- In the check with a notification in hand. -/
def Waiter.woken : Waiter → Bool
  | .checking woken => woken
  | .holding _ woken => woken
  | _ => false

/-- No waiter is cancelled in the check that follows its wake-up. -/
def PassesOn (state : State) : Action → Prop
  | .act index .cancel =>
    ∀ waiter ∈ state.waiters[index]?, waiter.woken = false
  | _ => True

instance (state : State) : DecidablePred (PassesOn state)
  | .store _ | .notify | .shutDown _ _ | .take | .arrive => isTrue trivial
  | .act index .cancel =>
    inferInstanceAs (Decidable (∀ waiter ∈ state.waiters[index]?, _))
  | .act _ .acquire | .act _ .inspect | .act _ .expire | .act _ .park | .act _ .resume
  | .act _ .timeout => isTrue trivial

/-- What a step of a waiter can do, with its guard. -/
inductive Waiter.Step (index : Nat) (runtime : ServerRuntime)
    (ready : Notify Nat) :
    Move → Waiter → Waiter → Notify Nat → Prop where
  | acquire {id : Nat} {woken : Bool}
      (hmap : runtime.transportMap = some id) :
      Step index runtime ready .acquire (.checking woken) (.holding id woken) ready
  | miss {woken : Bool} (hmap : runtime.transportMap = none) :
      Step index runtime ready .acquire (.checking woken) .decided ready
  | find {id : Nat} {woken : Bool}
      (hopen : (runtime.transports id).isShutDown = false) :
      Step index runtime ready .inspect (.holding id woken) (.returned id) ready.notifyOne
  | refuse {id : Nat} {woken : Bool}
      (hshut : (runtime.transports id).isShutDown = true) :
      Step index runtime ready .inspect (.holding id woken) .decided ready
  | expire : Step index runtime ready .expire .decided .timedOut ready
  | take (hpermit : (ready.poll index).1 = true) :
      Step index runtime ready .park .decided (.checking true) (ready.poll index).2
  | park (hpermit : (ready.poll index).1 = false) :
      Step index runtime ready .park .decided .waiting (ready.poll index).2
  | resume : Step index runtime ready .resume .waiting (.checking true) (ready.resume index)
  | timeout : Step index runtime ready .timeout .waiting .timedOut (ready.drop index)
  | leave : Step index runtime ready .cancel .waiting .cancelled (ready.drop index)
  | cancel {waiter : Waiter} : Step index runtime ready .cancel waiter .cancelled ready

variable {index : Nat}

/-- Every step of a waiter is one of the relation's. -/
theorem Waiter.step_cases {waiter next : Waiter} {runtime : ServerRuntime}
    {ready after : Notify Nat} {move : Move}
    (hstep : waiter.step index runtime ready move = some (next, after)) :
    Waiter.Step index runtime ready move waiter next after := by
  cases move with
  | acquire =>
    simp only [Waiter.step] at hstep
    split at hstep
    · split at hstep
      · next hmap =>
        cases hstep
        exact .acquire hmap
      · next hmap =>
        cases hstep
        exact .miss hmap
    · cases hstep
  | inspect =>
    simp only [Waiter.step] at hstep
    split at hstep
    · split at hstep
      · next hopen =>
        cases hstep
        exact .find (by simpa using hopen)
      · next hshut =>
        cases hstep
        exact .refuse (by simpa using hshut)
    · cases hstep
  | expire =>
    simp only [Waiter.step] at hstep
    split at hstep
    · cases hstep
      exact .expire
    · cases hstep
  | park =>
    simp only [Waiter.step] at hstep
    split at hstep
    · split at hstep
      · next hpoll =>
        cases hstep
        simpa [hpoll] using Waiter.Step.take (congrArg Prod.fst hpoll)
      · next hpoll =>
        cases hstep
        simpa [hpoll] using Waiter.Step.park (congrArg Prod.fst hpoll)
    · cases hstep
  | resume =>
    simp only [Waiter.step] at hstep
    split at hstep
    · obtain ⟨-, ⟨⟩⟩ := Lts.of_guard hstep
      exact .resume
    · cases hstep
  | timeout =>
    simp only [Waiter.step] at hstep
    split at hstep
    · cases hstep
      exact .timeout
    · cases hstep
  | cancel =>
    simp only [Waiter.step] at hstep
    split at hstep
    · cases hstep
      exact .cancel
    · cases hstep
      exact .cancel
    · cases hstep
      exact .leave
    · cases hstep

/-- What a step can do, with its guard. -/
inductive Step (state : State) : Action → State → Prop where
  | store {id : Nat}
      (hfree : ∀ waiter ∈ state.waiters, waiter.isHolding = false) :
      Step state (.store id) { state with
        runtime := { state.runtime with transportMap := some id }
        storing := state.storing + 1 }
  | notify {storing : Nat} (hstoring : state.storing = storing + 1) :
      Step state .notify { state with
        storing, transportReady := state.transportReady.notifyOne }
  | shutDown {id : Nat} {listening : Bool} :
      Step state (.shutDown id listening) { state with
        runtime := state.runtime.shutDownTaken (some id) listening }
  | take (hfree : ∀ waiter ∈ state.waiters, waiter.isHolding = false) :
      Step state .take { state with
        runtime := { state.runtime with transportMap := none } }
  | arrive : Step state .arrive
      { state with waiters := state.waiters ++ [.checking false] }
  | act {index : Nat} {move : Move} {waiter next : Waiter}
      {ready : Notify Nat} (hwaiter : state.waiters[index]? = some waiter)
      (hstep : Waiter.Step index state.runtime state.transportReady move waiter next ready) :
      Step state (.act index move) { state with
        waiters := state.waiters.set index next, transportReady := ready }

variable {state : State}

theorem step_cases {next : State} {action : Action}
    (hstep : step state action = some next) : Step state action next := by
  cases action with
  | store id =>
    simp only [step] at hstep
    split at hstep
    · cases hstep
    · next hfree =>
      cases hstep
      rw [ServerRuntime.storeTransport_default]
      exact .store (by simpa using hfree)
  | notify =>
    simp only [step] at hstep
    split at hstep
    · cases hstep
    · next hstoring =>
      cases hstep
      exact .notify hstoring
  | shutDown id listening =>
    cases hstep
    exact .shutDown
  | take =>
    simp only [step] at hstep
    split at hstep
    · cases hstep
    · next hfree =>
      cases hstep
      exact .take (by simpa using hfree)
  | arrive =>
    cases hstep
    exact .arrive
  | act index move =>
    simp only [step] at hstep
    split at hstep
    · next hwaiter =>
      obtain ⟨⟨after, ready⟩, hafter, rfl⟩ := Option.map_eq_some_iff.mp hstep
      exact .act hwaiter (Waiter.step_cases hafter)
    · cases hstep

/-- A waiter that holds the lock has the transport in the map in hand. -/
def Held (state : State) : Prop :=
  ∀ (index id : Nat) (woken : Bool),
    state.waiters[index]? = some (.holding id woken) → state.runtime.transportMap = some id

theorem Held.initial : Held State.initial := by
  intro index id woken hholding
  cases hholding

/-- A step leaves a transport that a waiter holds in the map. -/
theorem Held.step {state next : State} {action : Action} (hstate : Held state)
    (hstep : step state action = some next) : Held next := by
  intro other id woken hother
  cases step_cases hstep with
  | store hfree | take hfree => cases hfree _ (List.mem_of_getElem? hother)
  | notify | shutDown => exact hstate other id woken hother
  | arrive =>
    rcases CallList.getElem?_concat_cases hother with ⟨-, heq⟩ | hold
    · cases heq
    · exact hstate other id woken hold
  | act hwaiter hmove =>
    rw [CallList.getElem?_set_of_some hwaiter] at hother
    split at hother
    · cases hother
      cases hmove with
      | acquire hmap => exact hmap
    · exact hstate other id woken hother

theorem Held.returnsLive (hstate : Held state) : ReturnsLive state := by
  intro action next index id hstep hnext hbefore
  cases step_cases hstep with
  | store | notify | shutDown | take => exact absurd hnext hbefore
  | arrive =>
    rcases CallList.getElem?_concat_cases hnext with ⟨-, heq⟩ | hold
    · cases heq
    · exact absurd hold hbefore
  | act hwaiter hmove =>
    rw [CallList.getElem?_set_of_some hwaiter] at hnext
    split at hnext
    · cases hnext
      cases hmove with
      | find hopen => exact ⟨hstate _ _ _ hwaiter, hopen⟩
    · exact absurd hnext hbefore

/-- While the transport in the map is live, a notification is stored, on its
way, to be made, or with a waiter that checks. -/
def Served (state : State) : Prop :=
  state.runtime.defaultStreamExists = true →
    state.transportReady.Armed ∨ 0 < state.storing ∨ ∃ waiter ∈ state.waiters, waiter.woken = true

theorem Served.initial : Served State.initial := by
  intro hexists
  cases hexists

theorem Served.not_stranded (hstate : Served state) : ¬ Stranded state := by
  rintro ⟨hexists, -, hpermit, hnotified, hstoring, hwaiters⟩
  rcases hstate hexists with harmed | hpositive | ⟨waiter, hmem, hwoken⟩
  · rcases harmed with htrue | hsome
    · rw [hpermit] at htrue
      cases htrue
    · exact hsome hnotified
  · omega
  · refine hwaiters waiter hmem ?_
    cases waiter with
    | checking | holding => trivial
    | _ => cases hwoken

theorem Waiter.Step.passes {runtime : ServerRuntime} {ready after : Notify Nat} {move : Move}
    {waiter next : Waiter} (hstep : Waiter.Step index runtime ready move waiter next after)
    (hexists : runtime.defaultStreamExists = true)
    (hheld : ∀ {id woken}, waiter = .holding id woken → runtime.transportMap = some id)
    (hcancel : move = .cancel → waiter.woken = false) (hready : ready.Armed ∨ waiter.woken = true) :
    after.Armed ∨ next.woken = true := by
  obtain ⟨current, hcurrent, hopen⟩ := ServerRuntime.defaultStreamExists_iff.mp hexists
  cases hstep with
  | acquire => exact hready
  | miss hmap =>
    rw [hmap] at hcurrent
    cases hcurrent
  | find => exact .inl (Notify.armed_notifyOne _)
  | refuse hshut =>
    rw [hheld rfl] at hcurrent
    cases hcurrent
    rw [hshut] at hopen
    cases hopen
  | expire => exact hready
  | take => exact .inr rfl
  | park hpermit =>
    have harmed : ready.Armed := hready.resolve_right (by simp [Waiter.woken])
    refine .inl ((harmed.poll index).resolve_left ?_)
    simp [hpermit]
  | resume => exact .inr rfl
  | timeout | leave =>
    have harmed : ready.Armed := hready.resolve_right (by simp [Waiter.woken])
    exact .inl (harmed.drop index)
  | cancel =>
    refine .inl (hready.resolve_right fun hwoken => ?_)
    rw [hcancel rfl] at hwoken
    cases hwoken

theorem Served.act (hstate : Served state) {move : Move} {waiter next : Waiter}
    {ready : Notify Nat} (hheld : Held state) (hwaiter : state.waiters[index]? = some waiter)
    (hstep : Waiter.Step index state.runtime state.transportReady move waiter next ready)
    (hcancel : move = .cancel → waiter.woken = false) :
    Served { state with
      waiters := state.waiters.set index next, transportReady := ready } := by
  intro hexists
  have hpasses : state.transportReady.Armed ∨ waiter.woken = true →
      ready.Armed ∨ next.woken = true :=
    hstep.passes hexists (fun heq => hheld _ _ _ (heq ▸ hwaiter)) hcancel
  have hdone : ready.Armed ∨ next.woken = true →
      ready.Armed ∨ 0 < state.storing ∨
        ∃ found ∈ state.waiters.set index next, found.woken = true :=
    Or.imp_right fun hnext =>
      .inr ⟨next, CallList.mem_set_self hwaiter next, hnext⟩
  rcases hstate hexists with harmed | hstoring | ⟨found, hmem, hwoken⟩
  · exact hdone (hpasses (.inl harmed))
  · exact .inr (.inl hstoring)
  · rcases CallList.eq_or_mem_set hwaiter hmem next with rfl | hkept
    · exact hdone (hpasses (.inr hwoken))
    · exact .inr (.inr ⟨found, hkept, hwoken⟩)

/-- A step that passes the notification on leaves nobody stranded. -/
theorem Served.step {state next : State} {action : Action} (hstate : Served state)
    (hheld : Held state) (hpasses : PassesOn state action) (hstep : step state action = some next) :
    Served next := by
  cases step_cases hstep with
  | store => exact fun _ => .inr (.inl (Nat.succ_pos _))
  | notify => exact fun _ => .inl (Notify.armed_notifyOne _)
  | shutDown =>
    intro hexists
    exact hstate (ServerRuntime.of_defaultStreamExists_shutDownTaken hexists)
  | take =>
    intro hexists
    cases hexists
  | arrive =>
    intro hexists
    refine (hstate hexists).imp_right (Or.imp_right ?_)
    rintro ⟨waiter, hmem, hwoken⟩
    exact ⟨waiter, List.mem_append_left _ hmem, hwoken⟩
  | act hwaiter hmove =>
    refine hstate.act hheld hwaiter hmove ?_
    rintro rfl
    exact hpasses _ hwaiter

/-- In every interleaving: what a waiter returns was in the map and not shut
down at its check; and if no waiter is cancelled between its wake-up and its
check, none is left without a notification while the transport is live. -/
theorem run_no_missed_wakeup {actions : List Action} {final : State}
    (hrun : Lts.run step State.initial actions = some final) :
    (Lts.Along step PassesOn State.initial actions → ¬ Stranded final) ∧ ReturnsLive final := by
  constructor
  · intro hpasses
    have hfinal : Held final ∧ Served final :=
      @Lts.run_invariant _ _ step PassesOn
        (fun state => Held state ∧ Served state)
        (fun hstate hcondition hstep =>
          ⟨hstate.1.step hstep, hstate.2.step hstate.1 hcondition hstep⟩)
        _ _ _ ⟨Held.initial, Served.initial⟩ hpasses hrun
    exact hfinal.2.not_stranded
  · exact (Lts.run_keeps Held.step Held.initial hrun).returnsLive

namespace TransportReadyWitness

/-- Of two waiters the one that is woken is cancelled before it has looked. -/
def abandoned : List Action :=
  [.arrive, .act 0 .acquire, .act 0 .park, .arrive, .act 1 .acquire,
    .act 1 .park, .store 0, .notify, .act 0 .resume, .act 0 .cancel]

theorem abandoned_stranded :
    ∃ final, Lts.run step State.initial abandoned = some final ∧ Stranded final := by
  have hrun : Lts.run step State.initial abandoned = some _ := rfl
  refine ⟨_, hrun, by decide, by decide, rfl, rfl, rfl, ?_⟩
  intro waiter hwaiter
  rcases List.mem_pair.mp hwaiter with rfl | rfl
  · exact id
  · exact id

/-- The first is cancelled before it runs, the second returns, and wakes the third. -/
def handedOn : List Action :=
  [.arrive, .act 0 .acquire, .act 0 .park, .arrive, .act 1 .acquire,
    .act 1 .park, .arrive, .act 2 .acquire, .act 2 .park, .store 0, .notify,
    .act 0 .cancel, .act 1 .resume, .act 1 .acquire, .act 1 .inspect]

theorem handedOn_not_stranded :
    ∃ final, Lts.run step State.initial handedOn = some final ∧
      final.waiters = [.cancelled, .returned 0, .waiting] ∧ final.transportReady.notified = [2] ∧
      ¬ Stranded final ∧ ReturnsLive final := by
  have hrun : Lts.run step State.initial handedOn = some _ := rfl
  have hfinal := run_no_missed_wakeup hrun
  exact ⟨_, hrun, rfl, rfl, hfinal.1 (by decide), hfinal.2⟩

end TransportReadyWitness

end McpSdk.TransportReady
