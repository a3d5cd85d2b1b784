/-
Tasks that the server has started on its clients: each `CreateTaskResult` makes
an entry, and one loop polls the entries until they are terminal.
-/
import McpSdk.CallList
import McpSdk.Lts
import McpSdk.TaskStore

namespace McpSdk.TaskPolling

open List

section

variable [SchemaCrate] {Req Res : Type}

/-- A tracked task: the id that the peer assigned, and that in the store. -/
structure Tracked where
  remoteId : Str
  localId : Str
  sessionId : Option Str
deriving Repr, DecidableEq

inductive Method where
  | getTask
  | getTaskPayload
deriving Repr, DecidableEq

/-- A request that `poll_task_status` has sent for an entry of the store. -/
structure PollRequest where
  method : Method
  taskId : Str
  sessionId : Option Str
deriving Repr, DecidableEq

/-- Asleep, with due tasks before it, or waiting for the result of a task. -/
inductive Loop where
  | sleeping
  | polling (tasks : List (Str × Option Str)) (toReschedule : List (Str × Option Str × Int))
  | awaitingPayload (status : TaskStatus) (taskId : Str)
      (sessionId : Option Str) (tasks : List (Str × Option Str))
      (toReschedule : List (Str × Option Str × Int))

/-- The store, the loop, and the requests that it has sent. -/
structure State (Req Res : Type) where
  store : InMemoryTaskStore Req Res
  now : Nat
  loop : Loop
  tracked : List Tracked
  requests : List PollRequest

/-- New tasks, the passing of time, and the loop. -/
inductive Action (Req Res : Type) where
  | tick (elapsed : Nat)
  /-- A task-augmented request is answered with a `CreateTaskResult`. -/
  | createTaskResult (task : Task) (request : Req) (sessionId : Option Str)
  | expire (cleanup : Cleanup)
  | wake
  /-- `tasks/get` and its answer, if it succeeds. -/
  | getTask (reply : Option (TaskStatus × Option Int))
  /-- `tasks/result` and its answer, if it succeeds. -/
  | getTaskPayload (reply : Option Res)
  /-- A poll fails before it sends a request: the session is gone, or its
  transport cannot write. -/
  | unsent
  | sleep

/-- The loop sleeps, and no task is tracked. -/
def initial (store : InMemoryTaskStore Req Res) (now : Nat) : State Req Res :=
  { store, now, loop := .sleeping, tracked := [], requests := [] }

/-- The poll of an entry sends a request that names the id of the entry. -/
def send (self : State Req Res) (method : Method) (taskId : Str)
    (sessionId : Option Str) : State Req Res :=
  { self with requests := self.requests ++ [⟨method, taskId, sessionId⟩] }

/-- After a poll that failed, the task itself is scheduled if it is stored. -/
def afterFailure (store : InMemoryTaskStore Req Res) (taskId : Str) (sessionId : Option Str)
    (toReschedule : List (Str × Option Str × Int)) : List (Str × Option Str × Int) :=
  match store.getTask taskId sessionId with
  | some task =>
    toReschedule ++ [(taskId, sessionId, task.pollInterval.getD store.defaultPollInterval)]
  | none => toReschedule

/-- One call of the store, or one step of the loop. -/
def step (self : State Req Res) : Action Req Res → Option (State Req Res)
  | .tick elapsed => some { self with now := self.now + elapsed }
  | .createTaskResult task request sessionId =>
    let created := self.store.createTask self.now
      ⟨task.ttl, task.pollInterval⟩ request sessionId
    some { self with
      store := created.2
      tracked := self.tracked ++ [⟨task.taskId, created.1.taskId, sessionId⟩] }
  | .expire cleanup =>
    if cleanup ∈ self.store.cleanups ∧ cleanup.expiresAt ≤ self.now then
      some { self with store := self.store.expire cleanup }
    else none
  | .wake =>
    match self.loop with
    | .sleeping =>
      let due := self.store.tasksToPoll self.now
      some { self with store := due.2, loop := .polling due.1 [] }
    | _ => none
  | .getTask reply =>
    match self.loop with
    | .polling ((taskId, sessionId) :: tasks) toReschedule =>
      let sent := send self .getTask taskId sessionId
      match reply with
      | some (status, pollInterval) =>
        if status.isTerminal then
          some { sent with
            loop := .awaitingPayload status taskId sessionId tasks
              toReschedule }
        else
          some { sent with
            loop := .polling tasks (toReschedule ++
              [(taskId, sessionId, pollInterval.getD self.store.defaultPollInterval)]) }
      | none =>
        some { sent with
          loop := .polling tasks
            (afterFailure self.store taskId sessionId toReschedule) }
    | _ => none
  | .getTaskPayload reply =>
    match self.loop with
    | .awaitingPayload status taskId sessionId tasks toReschedule =>
      let sent := send self .getTaskPayload taskId sessionId
      match reply with
      | some result =>
        let stored := self.store.storeTaskResult taskId status result sessionId
        some { sent with
          store := stored.removeTask taskId sessionId
          loop := .polling tasks toReschedule }
      | none =>
        some { sent with
          loop := .polling tasks
            (afterFailure self.store taskId sessionId toReschedule) }
    | _ => none
  | .unsent =>
    match self.loop with
    | .polling ((taskId, sessionId) :: tasks) toReschedule
    | .awaitingPayload _ taskId sessionId tasks toReschedule =>
      some { self with
        loop := .polling tasks
          (afterFailure self.store taskId sessionId toReschedule) }
    | _ => none
  | .sleep =>
    match self.loop with
    | .polling [] toReschedule =>
      some { self with
        store := self.store.reSchedule self.now toReschedule
        loop := .sleeping }
    | _ => none

/-- The id of the entry that is made as number `index`. -/
def entryId (index : Nat) : Str :=
  (FastIdGenerator.new (some "tsk")).idFor (UInt64.ofNat index)

/-- The poll goes to the entry of the task. -/
def IsFor (request : PollRequest) (task : Tracked) : Prop :=
  request.taskId = task.localId ∧ request.sessionId = task.sessionId

instance (request : PollRequest) (task : Tracked) : Decidable (IsFor request task) :=
  inferInstanceAs (Decidable (_ ∧ _))

/-- Every poll is for a tracked task, under the id of its peer. -/
def Faithful (self : State Req Res) : Prop :=
  ∀ request ∈ self.requests,
    (∃ task ∈ self.tracked, IsFor request task) ∧
      ∀ task ∈ self.tracked, IsFor request task → request.taskId = task.remoteId

instance (self : State Req Res) : Decidable (Faithful self) :=
  inferInstanceAs (Decidable (∀ request ∈ self.requests, _))

def keys (self : State Req Res) : List (Str × Option Str) :=
  self.tracked.map fun task => (task.localId, task.sessionId)

def Loop.keys : Loop → List (Str × Option Str)
  | .sleeping => []
  | .polling tasks toReschedule =>
    tasks ++ InMemoryTaskStore.pollKeys toReschedule
  | .awaitingPayload _ taskId sessionId tasks toReschedule =>
    (taskId, sessionId) :: tasks ++ InMemoryTaskStore.pollKeys toReschedule

/-- Ids are given out in order, and no other id is ever polled. -/
structure Known (state : State Req Res) : Prop where
  idGen : state.store.idGen = ⟨UInt64.ofNat state.tracked.length, "tsk"⟩
  localId : ∀ {index task}, state.tracked[index]? = some task → task.localId = entryId index
  schedule : state.store.scheduleKeys ⊆ keys state
  loop : state.loop.keys ⊆ keys state
  requests : ∀ request ∈ state.requests, (request.taskId, request.sessionId) ∈ keys state

omit [SchemaCrate] in
theorem initial_known (defaultPollInterval : Int) (lastInstant now : Nat) :
    Known (initial (.new defaultPollInterval lastInstant) now : State Req Res) := by
  refine ⟨rfl, ?_, ?_, ?_, ?_⟩
  · intro index task htask
    cases htask
  · exact nil_subset _
  · exact nil_subset _
  · intro request hrequest
    cases hrequest

omit [SchemaCrate] in
theorem Known.frame {self : State Req Res} (hself : Known self)
    {store : InMemoryTaskStore Req Res} {now : Nat} {loop : Loop} {requests : List PollRequest}
    (hidGen : store.idGen = self.store.idGen) (hschedule : store.scheduleKeys ⊆ keys self)
    (hloop : loop.keys ⊆ keys self)
    (hrequests : ∀ request ∈ requests, (request.taskId, request.sessionId) ∈ keys self) :
    Known { self with store, now, loop, requests } :=
  ⟨hidGen.trans hself.idGen, hself.localId, hschedule, hloop, hrequests⟩

variable {sessionId : Option Str}

omit [SchemaCrate] in
theorem Known.send {self : State Req Res} (hself : Known self) {taskId : Str}
    (hkey : (taskId, sessionId) ∈ keys self) (method : Method) :
    ∀ request ∈ (TaskPolling.send self method taskId sessionId).requests,
      (request.taskId, request.sessionId) ∈ keys self := by
  intro request hrequest
  rcases mem_append.mp hrequest with hold | hnew
  · exact hself.requests request hold
  · rw [mem_singleton] at hnew
    subst hnew
    exact hkey

variable {self next : State Req Res}

theorem Known.createTaskResult (hself : Known self) {task : Task} {request : Req}
    (hstep : step self (.createTaskResult task request sessionId) = some next) : Known next := by
  cases hstep
  generalize hcreated : self.store.createTask self.now
    ⟨task.ttl, task.pollInterval⟩ request sessionId = created
  have hid : created.1.taskId = entryId self.tracked.length := by
    rw [← hcreated, InMemoryTaskStore.createTask_taskId, hself.idGen]
    rfl
  have hold : keys self ⊆ keys self ++ [(created.1.taskId, sessionId)] := subset_append_left ..
  have hkeys : keys { self with
      store := created.2
      tracked := self.tracked ++ [⟨task.taskId, created.1.taskId, sessionId⟩] } =
      keys self ++ [(created.1.taskId, sessionId)] := by
    simp [keys]
  refine ⟨?_, ?_, ?_, ?_, ?_⟩
  · rw [← hcreated, InMemoryTaskStore.createTask_idGen, hself.idGen]
    simp [UInt64.ofNat_add]
  · intro index other hother
    rcases CallList.getElem?_concat_cases hother with ⟨rfl, rfl⟩ | hother
    · exact hid
    · exact hself.localId hother
  · intro key hkey
    rw [hkeys]
    rw [← hcreated] at hkey
    rcases InMemoryTaskStore.mem_scheduleKeys_createTask hkey with rfl | hkey
    · rw [hcreated]
      exact mem_append_right _ (mem_singleton_self _)
    · exact hold (hself.schedule hkey)
  · rw [hkeys]
    exact List.Subset.trans hself.loop hold
  · intro poll hpoll
    rw [hkeys]
    exact hold (hself.requests poll hpoll)

omit [SchemaCrate] in
theorem afterFailure_subset {store : InMemoryTaskStore Req Res} {taskId : Str}
    {tasks : List (Str × Option Str)} {toReschedule : List (Str × Option Str × Int)}
    {known : List (Str × Option Str)}
    (hheld : (taskId, sessionId) :: tasks ++ InMemoryTaskStore.pollKeys toReschedule ⊆ known) :
    (Loop.polling tasks (afterFailure store taskId sessionId toReschedule)).keys ⊆ known := by
  rw [append_subset, cons_subset] at hheld
  obtain ⟨⟨hkey, htasks⟩, hlater⟩ := hheld
  rw [Loop.keys, append_subset]
  refine ⟨htasks, ?_⟩
  unfold afterFailure
  split
  · rw [InMemoryTaskStore.pollKeys_append, append_subset]
    exact ⟨hlater, cons_subset.mpr ⟨hkey, nil_subset _⟩⟩
  · exact hlater

theorem Known.expire (hself : Known self) {cleanup : Cleanup}
    (hstep : step self (.expire cleanup) = some next) : Known next := by
  obtain ⟨-, ⟨⟩⟩ := Lts.of_guard hstep
  obtain ⟨hidGen, hschedule⟩ := self.store.expire_frame cleanup
  exact hself.frame hidGen (hschedule ▸ hself.schedule) hself.loop hself.requests

theorem Known.wake (hself : Known self) (hstep : step self .wake = some next) : Known next := by
  simp only [step] at hstep
  split at hstep
  · cases hstep
    have hscheduled := hself.schedule
    rw [← self.store.tasksToPoll_append self.now, append_subset] at hscheduled
    exact hself.frame rfl hscheduled.2
      (append_subset.mpr ⟨hscheduled.1, nil_subset _⟩) hself.requests
  · cases hstep

theorem Known.getTask (hself : Known self) {reply : Option (TaskStatus × Option Int)}
    (hstep : step self (.getTask reply) = some next) : Known next := by
  simp only [step] at hstep
  split at hstep
  · next taskId sessionId tasks toReschedule hloop =>
    have hheld := hself.loop
    rw [hloop, Loop.keys] at hheld
    have hsent := hself.send (hheld mem_cons_self) .getTask
    split at hstep
    · split at hstep
      · cases hstep
        exact hself.frame rfl hself.schedule hheld hsent
      · cases hstep
        refine hself.frame rfl hself.schedule ?_ hsent
        rw [append_subset, cons_subset] at hheld
        rw [Loop.keys, InMemoryTaskStore.pollKeys_append, append_subset, append_subset]
        exact ⟨hheld.1.2, hheld.2, cons_subset.mpr ⟨hheld.1.1, nil_subset _⟩⟩
    · cases hstep
      exact hself.frame rfl hself.schedule (afterFailure_subset hheld) hsent
  · cases hstep

theorem Known.getTaskPayload (hself : Known self) {reply : Option Res}
    (hstep : step self (.getTaskPayload reply) = some next) : Known next := by
  simp only [step] at hstep
  split at hstep
  · next status taskId sessionId tasks toReschedule hloop =>
    have hheld := hself.loop
    rw [hloop, Loop.keys] at hheld
    have hsent := hself.send (hheld mem_cons_self) .getTaskPayload
    split at hstep
    · next result =>
      cases hstep
      obtain ⟨hstoredGen, hstored⟩ := self.store.storeTaskResult_frame
        taskId status result sessionId
      obtain ⟨hremovedGen, hremoved⟩ := (self.store.storeTaskResult taskId
        status result sessionId).removeTask_frame taskId sessionId
      refine hself.frame (hremovedGen.trans hstoredGen) ?_ (subset_of_cons_subset hheld) hsent
      rw [hremoved, hstored]
      exact hself.schedule
    · cases hstep
      exact hself.frame rfl hself.schedule (afterFailure_subset hheld) hsent
  · cases hstep

theorem Known.unsent (hself : Known self) (hstep : step self .unsent = some next) : Known next := by
  have hheld := hself.loop
  simp only [step] at hstep
  split at hstep
  · next taskId sessionId tasks toReschedule hloop =>
    rw [hloop, Loop.keys] at hheld
    cases hstep
    exact hself.frame rfl hself.schedule (afterFailure_subset hheld) hself.requests
  · next status taskId sessionId tasks toReschedule hloop =>
    rw [hloop, Loop.keys] at hheld
    cases hstep
    exact hself.frame rfl hself.schedule (afterFailure_subset hheld) hself.requests
  · cases hstep

theorem Known.sleep (hself : Known self) (hstep : step self .sleep = some next) : Known next := by
  simp only [step] at hstep
  split at hstep
  · next toReschedule hloop =>
    cases hstep
    have hheld := hself.loop
    rw [hloop, Loop.keys, nil_append] at hheld
    refine hself.frame rfl ?_ (nil_subset _) hself.requests
    intro key hkey
    rcases InMemoryTaskStore.mem_scheduleKeys_reSchedule hkey with
      hnew | hold
    · exact hheld hnew
    · exact hself.schedule hold
  · cases hstep

/-- A step polls no id but those given out. -/
theorem Known.step {action : Action Req Res} (hself : Known self)
    (hstep : TaskPolling.step self action = some next) : Known next := by
  cases action with
  | tick elapsed =>
    cases hstep
    exact hself.frame rfl hself.schedule hself.loop hself.requests
  | createTaskResult task request sessionId =>
    exact hself.createTaskResult hstep
  | expire cleanup => exact hself.expire hstep
  | wake => exact hself.wake hstep
  | getTask reply => exact hself.getTask hstep
  | getTaskPayload reply => exact hself.getTaskPayload hstep
  | unsent => exact hself.unsent hstep
  | sleep => exact hself.sleep hstep

/-- No run polls an id that was not given out. -/
theorem Known.run {defaultPollInterval : Int} {lastInstant now : Nat}
    {trace : List (Action Req Res)} {final : State Req Res}
    (hrun : Lts.run TaskPolling.step (initial (.new defaultPollInterval lastInstant) now) trace =
      some final) :
    Known final := by
  exact Lts.run_keeps Known.step (initial_known defaultPollInterval lastInstant now) hrun

omit [SchemaCrate] in
theorem Known.faithful_iff (hself : Known self) :
    Faithful self ↔ ∀ index task, self.tracked[index]? = some task →
      (∃ request ∈ self.requests, IsFor request task) → task.remoteId = entryId index := by
  constructor
  · rintro hfaithful index task htask ⟨request, hrequest, hfor⟩
    have hnamed := (hfaithful request hrequest).2 task (mem_of_getElem? htask) hfor
    rw [← hnamed, hfor.1, hself.localId htask]
  · intro hids request hrequest
    constructor
    · obtain ⟨task, htask, hkey⟩ := mem_map.mp (hself.requests request hrequest)
      rw [Prod.mk.injEq] at hkey
      exact ⟨task, htask, hkey.1.symm, hkey.2.symm⟩
    · intro task htask hfor
      obtain ⟨index, hindex⟩ := mem_iff_getElem?.mp htask
      rw [hids index task hindex ⟨request, hrequest, hfor⟩, hfor.1, hself.localId hindex]

/-- Peers that make up their ids in the same way are polled under their ids just
where the two counters agree. -/
theorem run_faithful_iff_counters {defaultPollInterval : Int} {lastInstant now : Nat}
    {trace : List (Action Req Res)} {final : State Req Res}
    (hrun : Lts.run TaskPolling.step (initial (.new defaultPollInterval lastInstant) now) trace =
      some final) {counter : Nat → Nat}
    (hpeers : ∀ {index task}, final.tracked[index]? = some task → task.remoteId =
      entryId (counter index)) :
    Faithful final ↔ ∀ index task, final.tracked[index]? = some task →
      (∃ request ∈ final.requests, IsFor request task) →
        UInt64.ofNat (counter index) = UInt64.ofNat index := by
  rw [(Known.run hrun).faithful_iff]
  refine forall₂_congr fun index task => forall₂_congr fun htask _ => ?_
  rw [hpeers htask]
  exact FastIdGenerator.idFor_inj _

/-- In every run, with any sessions and ids of the peers: the polls name the ids
of the peers exactly when each task that is polled was given the id that the
local store makes up for it. -/
theorem run_faithful_iff {defaultPollInterval : Int} {lastInstant now : Nat}
    {trace : List (Action Req Res)} {final : State Req Res}
    (hrun : Lts.run step (initial (.new defaultPollInterval lastInstant) now) trace = some final) :
    Faithful final ↔ ∀ index task, final.tracked[index]? = some task →
      (∃ request ∈ final.requests, IsFor request task) → task.remoteId = entryId index :=
  (Known.run hrun).faithful_iff

end

namespace TaskPollingWitness

attribute [local instance] SchemaCrate.protocol

def firstTask : Task :=
  ⟨entryId 0, .working, some 100, none, none⟩

/-- Two clients start one task each, and both tasks are polled. -/
def twoSessions : List (Action Unit Unit) :=
  [.createTaskResult firstTask () (some "a"),
    .createTaskResult firstTask () (some "b"), .tick 200, .wake,
    .getTask (some (.working, none)), .getTask (some (.working, none))]

def oneSession : List (Action Unit Unit) :=
  [.createTaskResult firstTask () (some "a"), .tick 200, .wake,
    .getTask (some (.completed, none)), .getTaskPayload (some ()), .sleep]

theorem not_faithful_twoSessions :
    ∃ final : State Unit Unit,
      Lts.run step (initial (.new 1250 100000) 0) twoSessions = some final ∧
        final.tracked.map (·.remoteId) = ["tskAAAAAAAAAAA".toList, "tskAAAAAAAAAAA".toList] ∧
        final.requests =
          [⟨.getTask, "tskAAAAAAAAAAA".toList, some "a".toList⟩,
            ⟨.getTask, "tskAQAAAAAAAAA".toList, some "b".toList⟩] ∧
        ¬ Faithful final :=
  ⟨_, rfl, rfl, rfl, by decide⟩

theorem faithful_oneSession :
    ∃ final : State Unit Unit, Lts.run step (initial (.new 1250 100000) 0) oneSession = some final ∧
        final.requests.length = 2 ∧ Faithful final := by
  have hrun : Lts.run step (initial (.new 1250 100000) 0) oneSession = some _ := rfl
  refine ⟨_, hrun, rfl, (run_faithful_iff hrun).mpr ?_⟩
  intro index task htask _
  cases index with
  | zero =>
    cases htask
    rfl
  | succ index => cases htask

end TaskPollingWitness

end McpSdk.TaskPolling
