/-
The notifications about changes of a task's status. Storing a result publishes
the task as it is afterwards; setting a status publishes it as it was before.
-/
import Mathlib.Logic.Function.Basic
import McpSdk.Lts
import McpSdk.TaskEntries

namespace McpSdk.TaskNotifications

open List Option

variable {Req Res Meta : Type}

/-- What an entry of the store has besides: its times and its metadata. -/
structure Stamps (Meta : Type) where
  createdAt : Str
  lastUpdatedAt : Str
  metaData : Option Meta
deriving Repr, DecidableEq

structure TaskStatusNotificationParams (Meta : Type) where
  createdAt : Str
  lastUpdatedAt : Str
  metaData : Option Meta
  pollInterval : Option Int
  status : TaskStatus
  statusMessage : Option Str
  taskId : Str
  ttl : Option Int
deriving Repr, DecidableEq

/-- A notification goes out with the session of its task. -/
abbrev Event (Meta : Type) : Type :=
  TaskStatusNotificationParams Meta × Option Str

/-- The store, all that was sent over its channel, and one receiver. -/
structure State (Req Res Meta : Type) where
  store : InMemoryTaskStore Req Res
  stamps : TaskKey → Stamps Meta
  sent : List (Event Meta)
  next : Nat
  received : List (Event Meta)
  lagged : Bool

/-- A call comes with the time at which it stamps the task. -/
inductive Action (Res : Type) where
  | storeTaskResult (taskId : Str) (status : TaskStatus) (result : Res)
      (sessionId : Option Str) (time : Str)
  | updateTaskStatus (taskId : Str) (status : TaskStatus)
      (statusMessage : Option Str) (sessionId : Option Str) (time : Str)
  | recv

/-- A subscriber that joins a store in any state. -/
def subscribe (store : InMemoryTaskStore Req Res)
    (stamps : TaskKey → Stamps Meta) : State Req Res Meta :=
  { store, stamps, sent := [], next := 0, received := [], lagged := false }

def params (task : Task) (stamps : Stamps Meta) : TaskStatusNotificationParams Meta :=
  { createdAt := stamps.createdAt
    lastUpdatedAt := stamps.lastUpdatedAt
    metaData := stamps.metaData
    pollInterval := task.pollInterval
    status := task.status
    statusMessage := task.statusMessage
    taskId := task.taskId
    ttl := task.ttl }

def describe (self : State Req Res Meta) (key : TaskKey) : Option (Event Meta) :=
  (self.store.getEntry key).map
    fun entry => (params entry.task (self.stamps key), key.2)

def notifyStatusChange (self : State Req Res Meta) (key : TaskKey) : State Req Res Meta :=
  { self with sent := self.sent ++ (describe self key).toList }

def setLastUpdatedAt (self : State Req Res Meta) (key : TaskKey)
    (time : Str) : TaskKey → Stamps Meta :=
  Function.update self.stamps key
    { self.stamps key with lastUpdatedAt := time }

/-- The entry is changed first and published after. -/
def storeTaskResult (self : State Req Res Meta) (key : TaskKey)
    (status : TaskStatus) (result : Res) (time : Str) : State Req Res Meta :=
  match self.store.getEntry key with
  | some entry =>
    let stored :=
      { self with
        store := self.store.storeTaskResult key.1 status result key.2
        stamps := setLastUpdatedAt self key time }
    if entry.task.status ≠ status then notifyStatusChange stored key
    else stored
  | none => self

/-- The entry is published first and changed after. -/
def updateTaskStatus (self : State Req Res Meta) (key : TaskKey) (status : TaskStatus)
    (statusMessage : Option Str) (time : Str) : State Req Res Meta :=
  match self.store.getEntry key with
  | some entry =>
    let notified :=
      if entry.task.status ≠ status then notifyStatusChange self key
      else self
    { notified with
      store := self.store.updateTaskStatus key.1 status statusMessage key.2
      stamps := setLastUpdatedAt self key time }
  | none => self

/-- A receiver that lags skips to the oldest event that is left. -/
def recv (capacity : Nat) (self : State Req Res Meta) : Option (State Req Res Meta) :=
  if self.next + capacity < self.sent.length then
    some { self with next := self.sent.length - capacity, lagged := true }
  else match self.sent[self.next]? with
    | some event =>
      some { self with
        next := self.next + 1, received := self.received ++ [event] }
    | none => none

/-- One call of the store, and the notification it sends. -/
def step (capacity : Nat) (self : State Req Res Meta) :
    Action Res → Option (State Req Res Meta)
  | .storeTaskResult taskId status result sessionId time =>
    some (storeTaskResult self (taskId, sessionId) status result time)
  | .updateTaskStatus taskId status statusMessage sessionId time =>
    some (updateTaskStatus self (taskId, sessionId) status statusMessage time)
  | .recv => recv capacity self

def Action.key : Action Res → Option TaskKey
  | .storeTaskResult taskId _ _ sessionId _
  | .updateTaskStatus taskId _ _ sessionId _ => some (taskId, sessionId)
  | .recv => none

def statusOf (self : State Req Res Meta) (key : TaskKey) : Option TaskStatus :=
  (self.store.getEntry key).map (·.task.status)

/-- What is to be published: one event for a change, with the task after it. -/
def due (self next : State Req Res Meta) (key : TaskKey) : List (Event Meta) :=
  if statusOf self key = statusOf next key then []
  else (describe next key).toList

/-- What is to be published for the calls of a run, in their order. -/
def dueAlong (capacity : Nat) :
    State Req Res Meta → List (Action Res) → List (Event Meta)
  | _, [] => []
  | self, action :: actions =>
    match step capacity self action with
    | some next =>
      (action.key.map (due self next)).getD [] ++ dueAlong capacity next actions
    | none => []

/-- No call of `update_task_status` changes the status of its task. -/
def KeepsStatus (self : State Req Res Meta) : Action Res → Prop
  | .updateTaskStatus taskId status _ sessionId _ =>
    ∀ old ∈ statusOf self (taskId, sessionId), old = status
  | _ => True

instance (self : State Req Res Meta) :
    ∀ action : Action Res, Decidable (KeepsStatus self action)
  | .updateTaskStatus taskId status _ sessionId _ =>
    inferInstanceAs (Decidable (∀ old ∈ statusOf self (taskId, sessionId), old = status))
  | .storeTaskResult .. | .recv => isTrue trivial

variable (self : State Req Res Meta) (key : TaskKey) (status : TaskStatus)

theorem due_self : due self self key = [] :=
  if_pos rfl

theorem storeTaskResult_sent (result : Res) (time : Str) :
    (storeTaskResult self key status result time).sent = self.sent ++
        due self (storeTaskResult self key status result time) key := by
  cases hentry : self.store.getEntry key with
  | none => simp [storeTaskResult, hentry, due_self]
  | some entry =>
    have hread := self.store.getEntry_storeTaskResult key status result key
    rw [if_pos rfl, hentry, map_some] at hread
    by_cases hsame : entry.task.status = status
    · simp [storeTaskResult, hentry, hsame, due, statusOf, hread]
    · simp [storeTaskResult, hentry, hsame, due, statusOf, hread, notifyStatusChange, describe]

/-- A status publishes one event if one is due, and the right one only if none is. -/
theorem updateTaskStatus_sent (statusMessage : Option Str) (time : Str) :
    ∃ published,
      (updateTaskStatus self key status statusMessage time).sent = self.sent ++ published ∧
      published.length = (due self
        (updateTaskStatus self key status statusMessage time) key).length ∧
      (published = due self (updateTaskStatus self key status statusMessage time) key ↔
        ∀ old ∈ statusOf self key, old = status) := by
  cases hentry : self.store.getEntry key with
  | none =>
    have hsame : updateTaskStatus self key status statusMessage time =
        self := by
      simp [updateTaskStatus, hentry]
    rw [hsame, due_self]
    exact ⟨[], by simp, rfl, by simp [statusOf, hentry]⟩
  | some entry =>
    have hread := self.store.getEntry_updateTaskStatus key status statusMessage key
    rw [if_pos rfl, hentry, map_some] at hread
    by_cases hsame : entry.task.status = status
    · refine ⟨[], ?_, ?_, ?_⟩
      · simp [updateTaskStatus, hentry, hsame]
      · simp [updateTaskStatus, hentry, hsame, due, statusOf, hread]
      · simp [updateTaskStatus, hentry, hsame, due, statusOf, hread]
    · refine ⟨[(params entry.task (self.stamps key), key.2)], ?_, ?_, ?_⟩
      · simp [updateTaskStatus, hentry, hsame, notifyStatusChange, describe]
      · simp [updateTaskStatus, hentry, hsame, due, statusOf, hread, describe, notifyStatusChange]
      · -- the event has the status from before the call
        simp [updateTaskStatus, hentry, hsame, due, statusOf, hread,
          describe, notifyStatusChange, params]

/-- What a step publishes. -/
theorem step_sent {capacity : Nat} {self next : State Req Res Meta}
    {action : Action Res} (hstep : step capacity self action = some next) :
    ∃ published, next.sent = self.sent ++ published ∧
      published.length = ((action.key.map (due self next)).getD []).length ∧
      (published = (action.key.map (due self next)).getD [] ↔ KeepsStatus self action) := by
  cases action with
  | storeTaskResult taskId status result sessionId time =>
    cases hstep
    exact ⟨_, storeTaskResult_sent .., rfl, iff_of_true rfl trivial⟩
  | updateTaskStatus taskId status statusMessage sessionId time =>
    cases hstep
    exact updateTaskStatus_sent ..
  | recv =>
    simp only [step, recv] at hstep
    refine ⟨[], ?_, rfl, iff_of_true rfl trivial⟩
    split at hstep
    · cases hstep
      simp
    · split at hstep
      · cases hstep
        simp
      · cases hstep

/-- What a run publishes. -/
theorem run_sent {capacity : Nat} {state final : State Req Res Meta} {actions : List (Action Res)}
    (hrun : Lts.run (step capacity) state actions = some final) :
    ∃ published, final.sent = state.sent ++ published ∧
      (published = dueAlong capacity state actions ↔
        Lts.Along (step capacity) KeepsStatus state actions) := by
  induction actions generalizing state with
  | nil =>
    cases hrun
    exact ⟨[], by simp, iff_of_true rfl trivial⟩
  | cons action actions ih =>
    obtain ⟨next, hnext, hrest⟩ := Lts.run_cons_eq_some.mp hrun
    obtain ⟨first, hfirst, hlength, hfirstIff⟩ := step_sent hnext
    obtain ⟨later, hlater, hlaterIff⟩ := ih hrest
    refine ⟨first ++ later, ?_, ?_⟩
    · rw [hlater, hfirst, append_assoc]
    · rw [Lts.along_cons_of_some hnext, ← hfirstIff, ← hlaterIff]
      simp only [dueAlong, hnext]
      constructor
      · intro heq
        exact append_inj heq hlength
      · rintro ⟨hfirstEq, hlaterEq⟩
        rw [hfirstEq, hlaterEq]

/-- The receiver takes no part in a call. -/
def SameReceiver (self next : State Req Res Meta) : Prop :=
  next.next = self.next ∧ next.received = self.received ∧ next.lagged = self.lagged

theorem storeTaskResult_receiver (result : Res) (time : Str) :
    SameReceiver self (storeTaskResult self key status result time) := by
  unfold storeTaskResult
  split
  · simp only
    split
    · exact ⟨rfl, rfl, rfl⟩
    · exact ⟨rfl, rfl, rfl⟩
  · exact ⟨rfl, rfl, rfl⟩

theorem updateTaskStatus_receiver (statusMessage : Option Str) (time : Str) :
    SameReceiver self (updateTaskStatus self key status statusMessage time) := by
  unfold updateTaskStatus
  split
  · simp only
    split
    · exact ⟨rfl, rfl, rfl⟩
    · exact ⟨rfl, rfl, rfl⟩
  · exact ⟨rfl, rfl, rfl⟩

/-- A receiver that has not lagged has all events up to its place. -/
def UpToDate (state : State Req Res Meta) : Prop :=
  state.lagged = false → state.next ≤ state.sent.length ∧
    state.received = state.sent.take state.next

theorem UpToDate.append {self next : State Req Res Meta} (hself : UpToDate self)
    {published : List (Event Meta)} (hsent : next.sent = self.sent ++ published)
    (hsame : SameReceiver self next) : UpToDate next := by
  obtain ⟨hnext, hreceived, hlagged⟩ := hsame
  intro hfalse
  rw [hlagged] at hfalse
  obtain ⟨hle, htake⟩ := hself hfalse
  rw [hnext, hsent, hreceived, take_append_of_le_length hle]
  refine ⟨?_, htake⟩
  rw [length_append]
  omega

/-- A step keeps a receiver that has not lagged complete. -/
theorem UpToDate.step {capacity : Nat} {self next : State Req Res Meta} {action : Action Res}
    (hself : UpToDate self) (hstep : TaskNotifications.step capacity self action = some next) :
    UpToDate next := by
  obtain ⟨published, hsent, -⟩ := step_sent hstep
  cases action with
  | storeTaskResult taskId status result sessionId time =>
    cases hstep
    exact hself.append hsent (storeTaskResult_receiver ..)
  | updateTaskStatus taskId status statusMessage sessionId time =>
    cases hstep
    exact hself.append hsent (updateTaskStatus_receiver ..)
  | recv =>
    simp only [TaskNotifications.step, recv] at hstep
    split at hstep
    · cases hstep
      intro hfalse
      cases hfalse
    · split at hstep
      · next event hevent =>
        cases hstep
        intro hfalse
        obtain ⟨hle, htake⟩ := hself hfalse
        obtain ⟨hlt, -⟩ := List.getElem?_eq_some_iff.mp hevent
        refine ⟨hlt, ?_⟩
        rw [List.take_add_one, hevent, htake]
        rfl
      · cases hstep

/-- Every subscriber that does not lag has received one event for each change of
status, in order and with the task as it was left, exactly when no
`update_task_status` changed a status. -/
theorem run_received_iff {capacity : Nat} {store : InMemoryTaskStore Req Res}
    {stamps : TaskKey → Stamps Meta} {actions : List (Action Res)} {final : State Req Res Meta}
    (hrun : Lts.run (step capacity) (subscribe store stamps) actions = some final)
    (hlagged : final.lagged = false) (hdrained : final.next = final.sent.length) :
    final.received = dueAlong capacity (subscribe store stamps) actions ↔
      Lts.Along (step capacity) KeepsStatus (subscribe store stamps) actions := by
  obtain ⟨published, hsent, hiff⟩ := run_sent hrun
  have hupToDate : UpToDate final :=
    Lts.run_keeps UpToDate.step (fun _ => ⟨Nat.le_refl 0, rfl⟩) hrun
  have hreceived : final.received = published := by
    rw [(hupToDate hlagged).2, hdrained, take_length, hsent]
    rfl
  rw [hreceived, hiff]

namespace TaskNotificationsWitness

def store : InMemoryTaskStore Unit Nat :=
  ((InMemoryTaskStore.new 1250 (Nat.pow 2 63)).createTask 0 ⟨none, none⟩ () none).2

def taskId : Str :=
  store.idGen.idFor 0

def start : State Unit Nat Unit :=
  subscribe store fun _ => ⟨['0'], ['0'], none⟩

/-- The task is set to completed, and the subscriber takes the event. -/
def updated : List (Action Nat) :=
  [.updateTaskStatus taskId .completed (some "done") none ['1'], .recv]

/-- The task is called working, without the message and with the old time. -/
theorem updated_not_due :
    ∃ final, Lts.run (step 64) start updated = some final ∧
      final.lagged = false ∧ final.next = final.sent.length ∧
      final.received = [(⟨['0'], ['0'], none, none, .working, none, taskId, none⟩, none)] ∧
      dueAlong 64 start updated =
        [(⟨['0'], ['1'], none, none, .completed, some "done", taskId,
          none⟩, none)] := by
  have hplace : (Lts.run (step 64) start updated).map
      (fun final => (final.lagged, final.next, final.sent.length)) =
        some (false, 1, 1) := by decide +kernel
  have hevents : (Lts.run (step 64) start updated).map (·.received) =
      some [(⟨['0'], ['0'], none, none, .working, none, taskId, none⟩, none)] := by decide +kernel
  obtain ⟨final, hrun, hread⟩ := map_eq_some_iff.mp hplace
  rw [hrun, map_some, some.injEq] at hevents
  simp only [Prod.mk.injEq] at hread
  obtain ⟨hlagged, hnext, hsent⟩ := hread
  exact ⟨final, hrun, hlagged, hnext.trans hsent.symm, hevents, by decide +kernel⟩

def stored : List (Action Nat) :=
  [.storeTaskResult taskId .completed 7 none ['1'], .recv,
    .updateTaskStatus taskId .completed (some "done") none ['2']]

theorem stored_due :
    ∃ final, Lts.run (step 64) start stored = some final ∧ final.received.length = 1 ∧
        final.received = dueAlong 64 start stored := by
  have hfinal : (Lts.run (step 64) start stored).map
      (fun final => (final.lagged, final.next, final.sent.length,
        final.received.length)) = some (false, 1, 1, 1) := by
    decide +kernel
  obtain ⟨final, hrun, hread⟩ := map_eq_some_iff.mp hfinal
  simp only [Prod.mk.injEq] at hread
  obtain ⟨hlagged, hnext, hsent, hreceived⟩ := hread
  exact ⟨final, hrun, hreceived,
    (run_received_iff hrun hlagged (hnext.trans hsent.symm)).mpr (by decide +kernel)⟩

end TaskNotificationsWitness

end McpSdk.TaskNotifications
