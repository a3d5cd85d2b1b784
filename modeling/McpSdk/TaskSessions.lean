/-
The sessions of a task store side by side. What a session has in the store is
changed by steps for that session only, though much is shared.
-/
import McpSdk.TaskWaiters

namespace McpSdk

namespace PollLoop

variable [SchemaCrate] {Req Res : Type}

def sessionOf (self : State Req Res) : Action Req Res → Option (Option Str)
  | .createTask _ _ sessionId => some sessionId
  | .storeTaskResult _ _ _ sessionId => some sessionId
  | .updateTaskStatus _ _ _ sessionId => some sessionId
  | .expire cleanup => some cleanup.sessionId
  | .reply _ => self.loop.current.map (·.2)
  | .tick _ | .wake | .call | .sleep => none

/-- The tasks of a session with their results, and its ids, are as they were; no
tasks are as no session. -/
structure SameTasks (sessionId : Option Str)
    (before after : InMemoryTaskStore Req Res) : Prop where
  entries : ∀ taskId, after.getEntry (taskId, sessionId) = before.getEntry (taskId, sessionId)
  ids : after.sessionIds sessionId = before.sessionIds sessionId

omit [SchemaCrate] in
theorem SameTasks.refl (sessionId : Option Str)
    (store : InMemoryTaskStore Req Res) : SameTasks sessionId store store :=
  ⟨fun _ => rfl, rfl⟩

omit [SchemaCrate] in
theorem SameTasks.of_key {sessionId : Option Str} {before after : InMemoryTaskStore Req Res}
    (key : TaskKey) (hkey : key.2 ≠ sessionId)
    (hentries : ∀ other, other ≠ key → after.getEntry other = before.getEntry other)
    (hids : ∀ other, other ≠ key.2 → after.sessionIds other = before.sessionIds other) :
    SameTasks sessionId before after := by
  refine ⟨fun taskId => hentries _ ?_, hids _ (Ne.symm hkey)⟩
  rintro rfl
  exact hkey rfl

/-- A step of one session leaves the tasks of others alone. -/
theorem sameTasks_of_step {self next : State Req Res} {action : Action Req Res}
    {sessionId : Option Str} (hstep : step self action = some next)
    (hother : sessionOf self action ≠ some sessionId) :
    SameTasks sessionId self.store next.store := by
  cases step_cases hstep with
  | tick => exact .refl _ _
  | @createTask taskParams request target =>
    refine .of_key (self.store.nextKey target) (fun heq => hother (congrArg some heq)) ?_ ?_
    · intro other hne
      rw [InMemoryTaskStore.getEntry_createTask, if_neg hne]
    · intro other hne
      exact (InMemoryTaskStore.sessionIds_createTask ..).trans (if_neg hne)
  | @storeTaskResult taskId status result target =>
    refine .of_key (taskId, target) (fun heq => hother (congrArg some heq)) ?_ ?_
    · intro other hne
      exact (self.store.getEntry_storeTaskResult (taskId, target) status
        result other).trans (if_neg hne)
    · exact fun other _ => InMemoryTaskStore.sessionIds_storeTaskResult ..
  | @updateTaskStatus taskId status statusMessage target =>
    refine .of_key (taskId, target) (fun heq => hother (congrArg some heq)) ?_ ?_
    · intro other hne
      exact (self.store.getEntry_updateTaskStatus (taskId, target) status
        statusMessage other).trans (if_neg hne)
    · exact fun other _ => InMemoryTaskStore.sessionIds_updateTaskStatus ..
  | @expire cleanup hcleanup hexpired =>
    refine .of_key (cleanup.taskId, cleanup.sessionId) (fun heq => hother (congrArg some heq)) ?_ ?_
    · intro other hne
      exact (InMemoryTaskStore.getEntry_expire ..).trans (if_neg hne)
    · intro other hne
      exact (InMemoryTaskStore.sessionIds_expire ..).trans (if_neg hne)
  | wake hloop => exact ⟨fun _ => rfl, rfl⟩
  | call hloop => exact .refl _ _
  | @terminal task tasks toReschedule status pollInterval hloop hstatus =>
    rw [sessionOf, hloop] at hother
    refine .of_key task (fun heq => hother (congrArg some heq)) ?_ ?_
    · intro other hne
      exact (self.store.getEntry_removeTask task other).trans (if_neg hne)
    · exact fun other _ => InMemoryTaskStore.sessionIds_removeTask ..
  | unfinished | failed => exact .refl _ _
  | sleep hloop => exact ⟨fun _ => rfl, rfl⟩

end PollLoop

namespace TaskWaiters

open PollLoop (SameTasks)

section

variable [SchemaCrate] {Req Res : Type}

def sessionOf (self : State Req Res) : Action Req Res → Option (Option Str)
  | .base action => PollLoop.sessionOf self.base action
  | .waitForTaskResult _ sessionId => some sessionId

/-- The senders of a session, and the calls subscribed there, are as they were. -/
structure SameWaiters (sessionId : Option Str) (before after : State Req Res) :
    Prop where
  slots : ∀ taskId, after.slots (taskId, sessionId) = before.slots (taskId, sessionId)
  waiters : ∀ taskId,
    ∀ index ∈ (before.slots (taskId, sessionId)).registered,
      after.waiters[index]? = before.waiters[index]?

/-- Nothing that a session has in the store has changed. -/
structure SameSession (sessionId : Option Str) (before after : State Req Res) :
    Prop where
  tasks : SameTasks sessionId before.base.store after.base.store
  waiters : SameWaiters sessionId before after

variable {sessionId : Option Str}

omit [SchemaCrate] in
theorem SameWaiters.of_eq {before after : State Req Res} (hslots : after.slots = before.slots)
    (hwaiters : after.waiters = before.waiters) : SameWaiters sessionId before after :=
  ⟨fun _ => by rw [hslots], fun _ _ _ => by rw [hwaiters]⟩

omit [SchemaCrate] in
theorem SameSession.refl (sessionId : Option Str) (state : State Req Res) :
    SameSession sessionId state state :=
  ⟨.refl _ _, .of_eq rfl rfl⟩

omit [SchemaCrate] in
theorem SameSession.trans {first second third : State Req Res}
    (hfirst : SameSession sessionId first second) (hsecond : SameSession sessionId second third) :
    SameSession sessionId first third where
  tasks :=
    ⟨fun taskId => (hsecond.tasks.entries taskId).trans (hfirst.tasks.entries taskId),
      hsecond.tasks.ids.trans hfirst.tasks.ids⟩
  waiters := by
    refine ⟨fun taskId => (hsecond.waiters.slots taskId).trans (hfirst.waiters.slots taskId), ?_⟩
    intro taskId index hindex
    refine (hsecond.waiters.waiters taskId index ?_).trans
      (hfirst.waiters.waiters taskId index hindex)
    rwa [hfirst.waiters.slots taskId]

variable {self : State Req Res}

omit [SchemaCrate] in
theorem Registered.release_same (hself : Registered self) {key : TaskKey}
    (hkey : key.2 ≠ sessionId) (result : Except Str (TaskStatus × Option Res)) :
    SameWaiters sessionId self (TaskWaiters.release self key result) := by
  have hne : ∀ taskId, ((taskId, sessionId) : TaskKey) ≠ key := by
    rintro taskId rfl
    exact hkey rfl
  refine ⟨fun taskId => Function.update_of_ne (hne taskId) .., ?_⟩
  intro taskId index hindex
  exact getElem?_answer_of_ne (hself.resultTx_ne (hne taskId) hindex) result

omit [SchemaCrate] in
theorem Registered.subscribe_same (hself : Registered self) {key : TaskKey}
    (hkey : key.2 ≠ sessionId) : SameWaiters sessionId self (TaskWaiters.subscribe self key) := by
  have hne : ∀ taskId, ((taskId, sessionId) : TaskKey) ≠ key := by
    rintro taskId rfl
    exact hkey rfl
  refine ⟨fun taskId => Function.update_of_ne (hne taskId) .., ?_⟩
  intro taskId index hindex
  rw [getElem?_subscribe_of_lt self key (hself.index_lt hindex)]
  exact getElem?_answer_of_ne (hself.resultTx_ne (hne taskId) hindex) _

theorem Registered.dropSenders_same (hself : Registered self) {action : PollLoop.Action Req Res}
    (hother : sessionOf self (.base action) ≠ some sessionId) :
    SameWaiters sessionId self (TaskWaiters.dropSenders self action) := by
  unfold TaskWaiters.dropSenders
  split
  · next target =>
    refine hself.release_same ?_ _
    exact fun heq => hother (congrArg some heq)
  · next cleanup =>
    refine hself.release_same ?_ _
    exact fun heq => hother (congrArg some heq)
  · split
    · next task htask =>
      rw [sessionOf, PollLoop.sessionOf, htask] at hother
      split
      · unfold sendResult
        split
        · refine hself.release_same ?_ _
          exact fun heq => hother (congrArg some heq)
        · exact .of_eq rfl rfl
      · exact .of_eq rfl rfl
    · exact .of_eq rfl rfl
  · exact .of_eq rfl rfl

/-- A step of one session leaves the waiters of others alone. -/
theorem Registered.step_same {next : State Req Res} {action : Action Req Res}
    (hself : Registered self) (hstep : TaskWaiters.step self action = some next)
    (hother : sessionOf self action ≠ some sessionId) : SameSession sessionId self next := by
  cases action with
  | base action =>
    obtain ⟨base, hbase, rfl⟩ := Option.map_eq_some_iff.mp hstep
    have hdropped := hself.dropSenders_same hother
    exact ⟨PollLoop.sameTasks_of_step hbase hother, ⟨hdropped.slots, hdropped.waiters⟩⟩
  | waitForTaskResult taskId target =>
    simp only [TaskWaiters.step] at hstep
    split at hstep
    · cases hstep
      refine ⟨.refl _ _, hself.subscribe_same ?_⟩
      exact fun heq => hother (congrArg some heq)
    · cases hstep
      refine ⟨.refl _ _, fun _ => rfl, ?_⟩
      intro taskId index hindex
      exact List.getElem?_append_left (hself.index_lt hindex)

/-- From any state on: while the steps are for other sessions, the session keeps
its tasks, their results, its ids and the calls that wait. -/
theorem run_sameSession {defaultPollInterval : Int} {lastInstant now : Nat}
    {before later : List (Action Req Res)} {state final : State Req Res}
    (hbefore : Lts.run step (initial (.new defaultPollInterval lastInstant) now) before =
      some state) (hlater : Lts.run step state later = some final) {sessionId : Option Str}
    (hothers : Lts.Along step (fun state action => sessionOf state action ≠ some sessionId) state
      later) :
    SameSession sessionId state final := by
  have hinvariant := @Lts.run_invariant _ _ step _
    (fun current => Registered current ∧ SameSession sessionId state current)
    (fun hcurrent hother hstep => ⟨hcurrent.1.step hstep,
      hcurrent.2.trans (hcurrent.1.step_same hstep hother)⟩)
    _ _ _ ⟨Registered.run hbefore, .refl _ _⟩ hothers hlater
  exact hinvariant.2

end

namespace TaskSessionsWitness

attribute [local instance] SchemaCrate.protocol

def waiting : List (Action Unit Nat) :=
  [.base (.createTask ⟨none, some 100⟩ () none), .waitForTaskResult (TaskPolling.entryId 0) none]

def other : Option Str := some "t"

/-- All that can happen to a task of another session, until its maps are dropped. -/
def elsewhere : List (Action Unit Nat) :=
  [.base (.createTask ⟨some 50, some 0⟩ () other),
    .waitForTaskResult (TaskPolling.entryId 1) other,
    .base (.storeTaskResult (TaskPolling.entryId 1) .completed 7 other),
    .base .wake, .base .call, .base (.reply (.ok (.completed, none))),
    .base (.tick 60),
    .base (.expire ⟨50, TaskPolling.entryId 1, other⟩), .base .sleep]

def start : State Unit Nat :=
  initial (.new 1250 (Nat.pow 2 63)) 0

theorem global_sameSession :
    ∃ state final, Lts.run step start waiting = some state ∧
      Lts.run step state elsewhere = some final ∧ SameSession none state final := by
  have hruns : (Lts.run step start waiting).any (fun state =>
      (Lts.run step state elsewhere).isSome && decide (Lts.Along step
        (fun state action => sessionOf state action ≠ some none) state
          elsewhere)) = true := by decide +kernel
  obtain ⟨state, hstate, hlater⟩ := (Option.any_eq_true _ _).mp hruns
  rw [Bool.and_eq_true, decide_eq_true_eq] at hlater
  obtain ⟨final, hfinal⟩ := Option.isSome_iff_exists.mp hlater.1
  exact ⟨state, final, hstate, hfinal, run_sameSession hstate hfinal hlater.2⟩

end TaskSessionsWitness

end TaskWaiters

end McpSdk
