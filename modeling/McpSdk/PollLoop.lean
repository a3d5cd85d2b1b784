/-
The polling loop of the task store with a callback that may answer anything,
while tasks are created, updated and expire. A task in the store has exactly one
place in the schedule.
-/
import McpSdk.TaskEntries
import McpSdk.TaskPolling

namespace McpSdk.PollLoop

open List TaskPolling
open InMemoryTaskStore (pollKeys pollKeys_append stored_createTask stored_expire not_stored_iff
  createTask_idGen expire_frame removeTask_frame)

section

variable [SchemaCrate] {Req Res : Type}

/-- Asleep, before the next call of the callback, or waiting for its answer. -/
inductive Loop where
  | sleeping
  | polling (tasks : List TaskKey) (toReschedule : List (Str × Option Str × Int))
  | awaiting (task : TaskKey) (tasks : List TaskKey) (toReschedule : List (Str × Option Str × Int))

/-- `created` has the keys of all tasks made, `calls` those of the callback. -/
structure State (Req Res : Type) where
  store : InMemoryTaskStore Req Res
  now : Nat
  loop : Loop
  created : List TaskKey
  calls : List TaskKey

/-- Calls of the store, the passing of time, and the loop. -/
inductive Action (Req Res : Type) where
  | tick (elapsed : Nat)
  | createTask (taskParams : CreateTaskOptions) (request : Req) (sessionId : Option Str)
  | storeTaskResult (taskId : Str) (status : TaskStatus) (result : Res) (sessionId : Option Str)
  | updateTaskStatus (taskId : Str) (status : TaskStatus)
      (statusMessage : Option Str) (sessionId : Option Str)
  | expire (cleanup : Cleanup)
  | wake
  | call
  /-- The callback returns, and the loop does with the task what it says. -/
  | reply (result : Except Str (TaskStatus × Option Int))
  | sleep

/-- The loop sleeps, and nothing has been created. -/
def initial (store : InMemoryTaskStore Req Res) (now : Nat) : State Req Res :=
  { store, now, loop := .sleeping, created := [], calls := [] }

/-- One call of the store, or one step of the loop. -/
def step (self : State Req Res) : Action Req Res → Option (State Req Res)
  | .tick elapsed => some { self with now := self.now + elapsed }
  | .createTask taskParams request sessionId =>
    let created := self.store.createTask self.now taskParams request sessionId
    some { self with
      store := created.2
      created := self.created ++ [(created.1.taskId, sessionId)] }
  | .storeTaskResult taskId status result sessionId =>
    some { self with
      store := self.store.storeTaskResult taskId status result sessionId }
  | .updateTaskStatus taskId status statusMessage sessionId =>
    some { self with
      store := self.store.updateTaskStatus taskId status statusMessage
        sessionId }
  | .expire cleanup =>
    if cleanup ∈ self.store.cleanups ∧ cleanup.expiresAt ≤ self.now then
      some { self with store := self.store.expire cleanup }
    else none
  | .wake =>
    match self.loop with
    | .sleeping =>
      let due := self.store.tasksToPoll self.now
      some { self with store := due.2, loop := .polling due.1 [] }
    | _ => none
  | .call =>
    match self.loop with
    | .polling (task :: tasks) toReschedule =>
      some { self with
        loop := .awaiting task tasks toReschedule
        calls := self.calls ++ [task] }
    | _ => none
  | .reply result =>
    match self.loop with
    | .awaiting task tasks toReschedule =>
      match result with
      | .ok (status, pollInterval) =>
        if status.isTerminal then
          some { self with
            store := self.store.removeTask task.1 task.2
            loop := .polling tasks toReschedule }
        else
          some { self with
            loop := .polling tasks (toReschedule ++
              [(task.1, task.2, pollInterval.getD self.store.defaultPollInterval)]) }
      | .error _ =>
        some { self with
          loop := .polling tasks (afterFailure self.store task.1 task.2 toReschedule) }
    | _ => none
  | .sleep =>
    match self.loop with
    | .polling [] toReschedule =>
      some { self with
        store := self.store.reSchedule self.now toReschedule
        loop := .sleeping }
    | _ => none

/-- What a step can do, with its guard. -/
inductive Step (self : State Req Res) :
    Action Req Res → State Req Res → Prop where
  | tick {elapsed : Nat} :
      Step self (.tick elapsed) { self with now := self.now + elapsed }
  | createTask {taskParams : CreateTaskOptions} {request : Req}
      {sessionId : Option Str} :
      Step self (.createTask taskParams request sessionId)
        { self with
          store := (self.store.createTask self.now taskParams request sessionId).2
          created := self.created ++ [self.store.nextKey sessionId] }
  | storeTaskResult {taskId : Str} {status : TaskStatus} {result : Res}
      {sessionId : Option Str} :
      Step self (.storeTaskResult taskId status result sessionId)
        { self with
          store := self.store.storeTaskResult taskId status result sessionId }
  | updateTaskStatus {taskId : Str} {status : TaskStatus}
      {statusMessage : Option Str} {sessionId : Option Str} :
      Step self (.updateTaskStatus taskId status statusMessage sessionId)
        { self with
          store := self.store.updateTaskStatus taskId status statusMessage sessionId }
  | expire {cleanup : Cleanup} (hcleanup : cleanup ∈ self.store.cleanups)
      (hexpired : cleanup.expiresAt ≤ self.now) :
      Step self (.expire cleanup)
        { self with store := self.store.expire cleanup }
  | wake (hloop : self.loop = .sleeping) :
      Step self .wake
        { self with
          store := (self.store.tasksToPoll self.now).2
          loop := .polling (self.store.tasksToPoll self.now).1 [] }
  | call {task : TaskKey} {tasks : List TaskKey}
      {toReschedule : List (Str × Option Str × Int)}
      (hloop : self.loop = .polling (task :: tasks) toReschedule) :
      Step self .call
        { self with
          loop := .awaiting task tasks toReschedule
          calls := self.calls ++ [task] }
  | terminal {task : TaskKey} {tasks : List TaskKey}
      {toReschedule : List (Str × Option Str × Int)} {status : TaskStatus}
      {pollInterval : Option Int}
      (hloop : self.loop = .awaiting task tasks toReschedule)
      (hstatus : status.isTerminal = true) :
      Step self (.reply (.ok (status, pollInterval)))
        { self with
          store := self.store.removeTask task.1 task.2
          loop := .polling tasks toReschedule }
  | unfinished {task : TaskKey} {tasks : List TaskKey}
      {toReschedule : List (Str × Option Str × Int)} {status : TaskStatus}
      {pollInterval : Option Int}
      (hloop : self.loop = .awaiting task tasks toReschedule)
      (hstatus : status.isTerminal = false) :
      Step self (.reply (.ok (status, pollInterval)))
        { self with
          loop := .polling tasks (toReschedule ++
            [(task.1, task.2, pollInterval.getD self.store.defaultPollInterval)]) }
  | failed {task : TaskKey} {tasks : List TaskKey}
      {toReschedule : List (Str × Option Str × Int)} {error : Str}
      (hloop : self.loop = .awaiting task tasks toReschedule) :
      Step self (.reply (.error error))
        { self with
          loop := .polling tasks (afterFailure self.store task.1 task.2 toReschedule) }
  | sleep {toReschedule : List (Str × Option Str × Int)}
      (hloop : self.loop = .polling [] toReschedule) :
      Step self .sleep
        { self with
          store := self.store.reSchedule self.now toReschedule
          loop := .sleeping }

variable {self next : State Req Res} {action : Action Req Res}

theorem step_cases (hstep : step self action = some next) : Step self action next := by
  cases action with
  | tick elapsed =>
    cases hstep
    exact .tick
  | createTask taskParams request sessionId =>
    cases hstep
    exact .createTask
  | storeTaskResult taskId status result sessionId =>
    cases hstep
    exact .storeTaskResult
  | updateTaskStatus taskId status statusMessage sessionId =>
    cases hstep
    exact .updateTaskStatus
  | expire cleanup =>
    simp only [step, Option.ite_none_right_eq_some] at hstep
    obtain ⟨⟨hcleanup, hexpired⟩, hnext⟩ := hstep
    cases hnext
    exact .expire hcleanup hexpired
  | wake =>
    simp only [step] at hstep
    split at hstep
    · next hloop =>
      cases hstep
      exact .wake hloop
    · cases hstep
  | call =>
    simp only [step] at hstep
    split at hstep
    · next hloop =>
      cases hstep
      exact .call hloop
    · cases hstep
  | reply result =>
    simp only [step] at hstep
    split at hstep
    · next hloop =>
      split at hstep
      · split at hstep
        · next hstatus =>
          cases hstep
          exact .terminal hloop hstatus
        · next hstatus =>
          cases hstep
          exact .unfinished hloop (Bool.eq_false_iff.mpr hstatus)
      · cases hstep
        exact .failed hloop
    · cases hstep
  | sleep =>
    simp only [step] at hstep
    split at hstep
    · next hloop =>
      cases hstep
      exact .sleep hloop
    · cases hstep

/-- The keys of tasks that the callback is still to be called for. -/
def Loop.pending : Loop → List TaskKey
  | .sleeping => []
  | .polling tasks toReschedule
  | .awaiting _ tasks toReschedule =>
    tasks ++ pollKeys toReschedule

/-- The keys that the loop holds, the one being polled included. -/
def Loop.keys : Loop → List TaskKey
  | .awaiting task tasks toReschedule =>
    task :: tasks ++ pollKeys toReschedule
  | loop => loop.pending

def Loop.current : Loop → Option TaskKey
  | .awaiting task _ _ => some task
  | _ => none

omit [SchemaCrate] in
theorem current_eq_some {loop : Loop} {task : TaskKey} (htask : loop.current = some task) :
    ∃ tasks toReschedule, loop = .awaiting task tasks toReschedule := by
  cases loop with
  | sleeping | polling => cases htask
  | awaiting other tasks toReschedule =>
    cases htask
    exact ⟨tasks, toReschedule, rfl⟩

/-- The heap, the rest of the current batch, and what is to be scheduled again. -/
def entries (self : State Req Res) : List TaskKey :=
  self.store.scheduleKeys ++ self.loop.keys

omit [SchemaCrate] in
theorem awaiting_perm_polling (task : TaskKey) (tasks : List TaskKey)
    (toReschedule : List (Str × Option Str × Int)) (pollInterval : Int) :
    (Loop.polling tasks (toReschedule ++ [(task.1, task.2, pollInterval)])).keys.Perm
      (Loop.awaiting task tasks toReschedule).keys := by
  change (tasks ++ pollKeys (toReschedule ++ _)).Perm (task :: tasks ++ _)
  rw [pollKeys_append, ← append_assoc]
  exact perm_append_singleton task _

/-- What a step does to the schedule and to the tasks in the store. -/
inductive Effect (self next : State Req Res) : Prop where
  | created (key : TaskKey) (hcreated : next.created = self.created ++ [key])
      (hentries : (entries next).Perm (key :: entries self))
      (hstored : ∀ other, next.store.Stored other → other = key ∨ self.store.Stored other)
  | kept (hcreated : next.created = self.created)
      (hentries : (entries next).Perm (entries self))
      (hstored : ∀ other, next.store.Stored other → self.store.Stored other)
  | dropped (key : TaskKey) (hcreated : next.created = self.created)
      (hentries : (entries self).Perm (key :: entries next))
      (hstored : ∀ other, next.store.Stored other → self.store.Stored other ∧ other ≠ key)

theorem Step.effect (hstep : Step self action next) : Effect self next := by
  cases hstep with
  | tick => exact .kept rfl (.refl _) fun _ => id
  | @createTask taskParams request sessionId =>
    refine .created (self.store.nextKey sessionId) rfl ?_ ?_
    · exact (self.store.scheduleKeys_createTask_perm self.now taskParams
        request sessionId).append_right _
    · exact fun _ => stored_createTask.mp
  | @storeTaskResult taskId status result sessionId =>
    have hkeys := (self.store.storeTaskResult_frame taskId status result sessionId).2
    refine .kept rfl ?_ fun _ => InMemoryTaskStore.stored_storeTaskResult.mp
    exact .of_eq (congrArg (· ++ self.loop.keys) hkeys)
  | @updateTaskStatus taskId status statusMessage sessionId =>
    have hkeys := (self.store.updateTaskStatus_frame taskId status statusMessage sessionId).2
    refine .kept rfl ?_ fun _ => InMemoryTaskStore.stored_updateTaskStatus.mp
    exact .of_eq (congrArg (· ++ self.loop.keys) hkeys)
  | @expire cleanup hcleanup hexpired =>
    have hkeys := (self.store.expire_frame cleanup).2
    refine .kept rfl (.of_eq (congrArg (· ++ self.loop.keys) hkeys)) ?_
    intro other hother
    exact (stored_expire.mp hother).2
  | wake hloop =>
    refine .kept rfl ?_ fun _ => id
    rw [entries, entries, hloop, ← self.store.tasksToPoll_append self.now]
    change (_ ++ (_ ++ [])).Perm (_ ++ [])
    rw [append_nil, append_nil]
    exact perm_append_comm
  | call hloop =>
    refine .kept rfl (.of_eq ?_) fun _ => id
    rw [entries, entries, hloop]
    rfl
  | @terminal task tasks toReschedule status pollInterval hloop hstatus =>
    have hkeys := (self.store.removeTask_frame task.1 task.2).2
    refine .dropped task rfl ?_ ?_
    · rw [entries, entries, hloop, hkeys]
      exact perm_middle
    · intro other hother
      exact (InMemoryTaskStore.stored_removeTask.mp hother).symm
  | @unfinished task tasks toReschedule status pollInterval hloop hstatus =>
    refine .kept rfl ?_ fun _ => id
    rw [entries, entries, hloop]
    exact (awaiting_perm_polling task tasks toReschedule _).append_left _
  | @failed task tasks toReschedule error hloop =>
    rw [afterFailure, InMemoryTaskStore.getTask_eq_map_getEntry]
    -- a task that is gone from the store is not put back
    cases hentry : self.store.getEntry task with
    | none =>
      refine .dropped task rfl ?_ ?_
      · rw [entries, entries, hloop]
        exact perm_middle
      · intro other hother
        refine ⟨hother, ?_⟩
        rintro rfl
        exact not_stored_iff.mpr hentry hother
    | some entry =>
      refine .kept rfl ?_ fun _ => id
      rw [entries, entries, hloop]
      exact (awaiting_perm_polling task tasks toReschedule _).append_left _
  | @sleep toReschedule hloop =>
    refine .kept rfl ?_ fun _ => id
    rw [entries, entries, hloop]
    refine List.Perm.trans (.of_eq (append_nil _)) ?_
    exact (self.store.scheduleKeys_reSchedule_perm self.now toReschedule).trans perm_append_comm

structure Numbered (state : State Req Res) : Prop where
  idGen : state.store.idGen = ⟨UInt64.ofNat state.created.length, "tsk"⟩
  created : ∀ index key, state.created[index]? = some key → key.1 = entryId index

theorem Step.numbered (hstep : Step self action next) (hself : Numbered self) : Numbered next := by
  cases hstep with
  | @createTask taskParams request sessionId =>
    constructor
    · rw [createTask_idGen, hself.idGen]
      simp [UInt64.ofNat_add]
    · intro index key hkey
      rcases CallList.getElem?_concat_cases hkey with ⟨rfl, rfl⟩ | hold
      · change self.store.idGen.idFor self.store.idGen.counter = _
        rw [hself.idGen]
        rfl
      · exact hself.created index key hold
  | tick => exact ⟨hself.idGen, hself.created⟩
  | storeTaskResult =>
    exact ⟨(InMemoryTaskStore.storeTaskResult_frame ..).1.trans hself.idGen, hself.created⟩
  | updateTaskStatus =>
    exact ⟨(InMemoryTaskStore.updateTaskStatus_frame ..).1.trans hself.idGen, hself.created⟩
  | expire hcleanup hexpired =>
    exact ⟨(expire_frame ..).1.trans hself.idGen, hself.created⟩
  | wake | call => exact ⟨hself.idGen, hself.created⟩
  | terminal hloop hstatus =>
    exact ⟨(removeTask_frame ..).1.trans hself.idGen, hself.created⟩
  | unfinished | failed | sleep => exact ⟨hself.idGen, hself.created⟩

/-- The counter has not come back to an id that was given out. -/
def WithinIds (state : State Req Res) : Prop :=
  state.created.length ≤ Nat.pow 2 64

omit [SchemaCrate] in
theorem Numbered.created_nodup {state : State Req Res} (hstate : Numbered state)
    (hids : WithinIds state) : state.created.Nodup := by
  rw [nodup_iff_getElem?_ne_getElem?]
  intro i j hij hj heq
  have hkey := getElem?_eq_getElem hj
  have hi := hstate.created i _ (heq.trans hkey)
  have hbytes := (FastIdGenerator.idFor_inj _).mp (hi.symm.trans (hstate.created j _ hkey))
  have hmod := congrArg UInt64.toNat hbytes
  have hbound : j < 2 ^ 64 := Nat.lt_of_lt_of_le hj hids
  rw [UInt64.toNat_ofNat_of_lt' (Nat.lt_trans hij hbound), UInt64.toNat_ofNat_of_lt' hbound] at hmod
  exact absurd hmod (Nat.ne_of_lt hij)

omit [SchemaCrate] in
theorem Effect.created_prefix (heffect : Effect self next) : self.created <+: next.created := by
  cases heffect with
  | created key hcreated hentries hstored =>
    rw [hcreated]
    exact List.prefix_append ..
  | kept hcreated hentries hstored | dropped key hcreated hentries hstored =>
    exact hcreated ▸ List.prefix_rfl

theorem withinIds_backward (hstep : step self action = some next)
    (hnext : WithinIds next) : WithinIds self :=
  Nat.le_trans (step_cases hstep).effect.created_prefix.length_le hnext

/-- At most one entry for each task that was made, and one for each in the store. -/
structure Scheduled (state : State Req Res) : Prop where
  entries_created : entries state ⊆ state.created
  stored_created : ∀ key, state.store.Stored key → key ∈ state.created
  entries_nodup : state.created.Nodup → (entries state).Nodup
  stored_entries : ∀ key, state.store.Stored key → key ∈ entries state

omit [SchemaCrate] in
theorem Effect.scheduled (heffect : Effect self next) (hself : Scheduled self) :
    Scheduled next := by
  cases heffect with
  | created key hcreated hentries hstored =>
    refine ⟨?_, ?_, ?_, ?_⟩
    · intro other hother
      rw [hcreated, mem_append, mem_singleton]
      rcases mem_cons.mp (hentries.subset hother) with rfl | hold
      · exact .inr rfl
      · exact .inl (hself.entries_created hold)
    · intro other hother
      rw [hcreated, mem_append, mem_singleton]
      rcases hstored other hother with rfl | hold
      · exact .inr rfl
      · exact .inl (hself.stored_created other hold)
    · intro hnodup
      rw [hcreated, nodup_append_comm, singleton_append, nodup_cons] at hnodup
      rw [hentries.nodup_iff, nodup_cons]
      exact ⟨fun hold => hnodup.1 (hself.entries_created hold), hself.entries_nodup hnodup.2⟩
    · intro other hother
      rw [hentries.mem_iff, mem_cons]
      exact (hstored other hother).imp_right (hself.stored_entries other)
  | kept hcreated hentries hstored =>
    refine ⟨?_, ?_, ?_, ?_⟩
    · rw [hcreated]
      exact List.Subset.trans hentries.subset hself.entries_created
    · intro other hother
      rw [hcreated]
      exact hself.stored_created other (hstored other hother)
    · rw [hcreated, hentries.nodup_iff]
      exact hself.entries_nodup
    · intro other hother
      rw [hentries.mem_iff]
      exact hself.stored_entries other (hstored other hother)
  | dropped key hcreated hentries hstored =>
    refine ⟨?_, ?_, ?_, ?_⟩
    · rw [hcreated]
      intro other hother
      exact hself.entries_created (hentries.mem_iff.mpr (mem_cons_of_mem _ hother))
    · intro other hother
      rw [hcreated]
      exact hself.stored_created other (hstored other hother).1
    · intro hnodup
      rw [hcreated] at hnodup
      have hself := hself.entries_nodup hnodup
      rw [hentries.nodup_iff, nodup_cons] at hself
      exact hself.2
    · intro other hother
      obtain ⟨hold, hne⟩ := hstored other hother
      have hmem := hentries.mem_iff.mp (hself.stored_entries other hold)
      exact (mem_cons.mp hmem).resolve_left hne

variable (defaultPollInterval : Int)

omit [SchemaCrate] in
theorem initial_numbered (lastInstant now : Nat) :
    Numbered (initial (.new defaultPollInterval lastInstant) now : State Req Res) := by
  refine ⟨rfl, ?_⟩
  intro index key hkey
  cases hkey

omit [SchemaCrate] in
theorem initial_scheduled (lastInstant now : Nat) :
    Scheduled (initial (.new defaultPollInterval lastInstant) now : State Req Res) := by
  refine ⟨nil_subset _, ?_, fun _ => nodup_nil, ?_⟩
  · intro key hkey
    cases hkey
  · intro key hkey
    cases hkey

/-- What holds of store, schedule and loop after any run. -/
structure Sound (state : State Req Res) : Prop where
  numbered : Numbered state
  scheduled : Scheduled state

omit [SchemaCrate] in
theorem initial_sound (lastInstant now : Nat) :
    Sound (initial (.new defaultPollInterval lastInstant) now : State Req Res) :=
  ⟨initial_numbered .., initial_scheduled ..⟩

/-- A step keeps store and schedule in line. -/
theorem Sound.step (hself : Sound self) (hstep : PollLoop.step self action = some next) :
    Sound next :=
  ⟨(step_cases hstep).numbered hself.numbered, (step_cases hstep).effect.scheduled hself.scheduled⟩

/-- Store and schedule are in line after any run. -/
theorem Sound.run {init final : State Req Res} {trace : List (Action Req Res)}
    (hinit : Sound init) (hrun : Lts.run PollLoop.step init trace = some final) : Sound final :=
  Lts.run_keeps Sound.step hinit hrun

omit [SchemaCrate] in
theorem Sound.entries_nodup {state : State Req Res} (hstate : Sound state)
    (hids : WithinIds state) : (entries state).Nodup :=
  hstate.scheduled.entries_nodup (hstate.numbered.created_nodup hids)

/-- In every run with at most as many tasks as ids, each stored task has exactly
one entry among the heap, the current batch, and what is to be scheduled again. -/
theorem run_stored_count_entries {defaultPollInterval : Int} {lastInstant now : Nat}
    {trace : List (Action Req Res)} {final : State Req Res}
    (hrun : Lts.run step (initial (.new defaultPollInterval lastInstant) now) trace = some final)
    (hids : final.created.length ≤ Nat.pow 2 64) (key : TaskKey) (hkey : final.store.Stored key) :
    (entries final).count key = 1 := by
  have hsound := (initial_sound defaultPollInterval lastInstant now).run hrun
  exact count_eq_one_of_mem (hsound.entries_nodup hids) (hsound.scheduled.stored_entries key hkey)

end

namespace PollLoopWitness

attribute [local instance] SchemaCrate.protocol

def another : Action Unit Unit :=
  .createTask ⟨none, none⟩ () none

def start : State Unit Unit :=
  initial (.new 1250 (Nat.pow 2 63)) 0

def firstKey : TaskKey :=
  (entryId 0, none)

/-- Two tasks are made; the first is being polled while the second waits. -/
def firstPolled : List (Action Unit Unit) :=
  [another, another, .tick 2000, .wake, .call]

theorem firstPolled_count :
    ∃ final, Lts.run step start firstPolled = some final ∧
      final.store.Stored firstKey ∧ final.loop.keys.length = 2 ∧
        (entries final).count firstKey = 1 := by
  have hrun : Lts.run step start firstPolled = some _ := rfl
  have hstored : ((Lts.run step start firstPolled).get rfl).store.Stored
      firstKey := by decide +kernel
  refine ⟨_, hrun, hstored, rfl, ?_⟩
  exact run_stored_count_entries hrun (by decide) firstKey hstored

theorem run_replicate_another {state : State Unit Unit} (hstate : Sound state)
    {key : TaskKey} (hkey : state.store.Stored key) (count : Nat) :
    ∃ final, Lts.run step state (List.replicate count another) = some final ∧
      Sound final ∧ final.store.Stored key ∧
        final.created.length = state.created.length + count := by
  induction count generalizing state with
  | zero => exact ⟨state, rfl, hstate, hkey, rfl⟩
  | succ count ih =>
    obtain ⟨next, hnext⟩ : ∃ next, step state another = some next := ⟨_, rfl⟩
    have hcreated : next.created.length = state.created.length + 1 := by
      cases hnext
      simp
    have hstored : next.store.Stored key := by
      cases hnext
      exact stored_createTask.mpr (.inr hkey)
    obtain ⟨final, hrun, hfinal, hlater, hlength⟩ := ih (hstate.step hnext) hstored
    refine ⟨final, ?_, hfinal, hlater, by omega⟩
    exact Lts.run_cons_eq_some.mpr ⟨next, hnext, hrun⟩

/-- One task more than there are ids: the stored task has two entries. -/
theorem wrapped_count_two :
    ∃ trace final, trace.length = Nat.pow 2 64 + 1 ∧ Lts.run step start trace = some final ∧
        final.store.Stored firstKey ∧ 2 ≤ (entries final).count firstKey := by
  obtain ⟨one, hone⟩ : ∃ one, step start another = some one := ⟨_, rfl⟩
  have hfirst : one.store.Stored firstKey := by
    cases hone
    exact stored_createTask.mpr (.inl rfl)
  have hlength : one.created.length = 1 := by
    cases hone
    rfl
  have hsound : Sound one := (initial_sound 1250 (Nat.pow 2 63) 0).step hone
  obtain ⟨full, hrun, hfull, hstored, hcount⟩ :=
    run_replicate_another hsound hfirst (Nat.pow 2 64 - 1)
  obtain ⟨final, hfinal⟩ : ∃ final, step full another = some final := ⟨_, rfl⟩
  have hwrapped : full.created.length = Nat.pow 2 64 := by
    rw [hcount, hlength]
  refine ⟨another :: (List.replicate (Nat.pow 2 64 - 1) another ++ [another]),
    final, ?_, ?_, ?_, ?_⟩
  · rw [length_cons, length_append, length_replicate]
    rfl
  · refine Lts.run_cons_eq_some.mpr ⟨one, hone, ?_⟩
    refine Lts.run_append_eq_some.mpr ⟨full, hrun, ?_⟩
    exact Lts.run_cons_eq_some.mpr ⟨final, hfinal, rfl⟩
  · cases hfinal
    exact stored_createTask.mpr (.inr hstored)
  · have hagain : full.store.nextKey none = firstKey := by
      change (full.store.idGen.idFor full.store.idGen.counter, none) = _
      rw [hfull.numbered.idGen, hwrapped]
      rfl
    have hentries : (entries final).Perm (firstKey :: entries full) := by
      cases hfinal
      rw [← hagain]
      exact (full.store.scheduleKeys_createTask_perm ..).append_right _
    have hold := count_pos_iff.mpr (hfull.scheduled.stored_entries firstKey hstored)
    rw [hentries.count_eq, count_cons_self]
    omega

end PollLoopWitness

end McpSdk.PollLoop
