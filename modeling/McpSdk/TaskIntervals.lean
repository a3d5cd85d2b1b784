/-
The intervals that the other party sends. They are signed, and cast to unsigned
ones before they are added to the clock, so that a negative one becomes very
long.
-/
import McpSdk.PollLoop

namespace McpSdk

open List Option

def IsI64 (n : Int) : Prop :=
  -(Nat.pow 2 63 : Nat) ≤ n ∧ n < (Nat.pow 2 63 : Nat)

instance (n : Int) : Decidable (IsI64 n) :=
  inferInstanceAs (Decidable (_ ∧ _))

theorem asU64_of_nonneg {n : Int} (hn : IsI64 n) (hnonneg : 0 ≤ n) : asU64 n = n.toNat := by
  obtain ⟨hlow, hhigh⟩ := hn
  have h63 : Nat.pow 2 63 = 9223372036854775808 := rfl
  have h64 : Nat.pow 2 64 = 18446744073709551616 := rfl
  rw [h63] at hlow hhigh
  rw [asU64, h64]
  omega

/-- A negative interval is cast to one of 2^63 milliseconds at least. -/
theorem le_asU64_of_neg {n : Int} (hn : IsI64 n) (hneg : n < 0) : Nat.pow 2 63 ≤ asU64 n := by
  obtain ⟨hlow, hhigh⟩ := hn
  have h63 : Nat.pow 2 63 = 9223372036854775808 := rfl
  have h64 : Nat.pow 2 64 = 18446744073709551616 := rfl
  rw [h63] at hlow hhigh ⊢
  rw [asU64, h64]
  omega

theorem toNat_lt_of_isI64 {n : Int} (hn : IsI64 n) : n.toNat < Nat.pow 2 63 := by
  obtain ⟨hlow, hhigh⟩ := hn
  have h63 : Nat.pow 2 63 = 9223372036854775808 := rfl
  rw [h63] at hhigh ⊢
  omega

namespace InMemoryTaskStore

variable {Req Res : Type}

/-- When an interval ends; one that is negative or cannot be represented is over. -/
def dueAt (self : InMemoryTaskStore Req Res) (now : Nat) (interval : Int) : Nat :=
  if now + interval.toNat ≤ self.lastInstant then now + interval.toNat else now

/-- The interval is not negative, or its cast is too long to be represented. -/
def Prompt (self : InMemoryTaskStore Req Res) (now : Nat) (interval : Int) : Prop :=
  0 ≤ interval ∨ self.lastInstant < now + asU64 interval

theorem dueAt_lt (self : InMemoryTaskStore Req Res) (now : Nat) {interval : Int}
    (hinterval : IsI64 interval) : self.dueAt now interval < now + Nat.pow 2 63 := by
  have hlt := toNat_lt_of_isI64 hinterval
  unfold dueAt
  split
  · omega
  · omega

variable {self : InMemoryTaskStore Req Res}

theorem nextPollAt_of_prompt {now : Nat} {interval : Int}
    (hinterval : IsI64 interval) (hprompt : self.Prompt now interval) :
    self.nextPollAt now interval = self.dueAt now interval := by
  unfold nextPollAt dueAt
  by_cases hnonneg : 0 ≤ interval
  · rw [asU64_of_nonneg hinterval hnonneg]
  · have hfar := hprompt.resolve_left hnonneg
    rw [if_neg (Nat.not_le.mpr hfar), Int.toNat_of_nonpos (by omega)]
    simp

/-- A poll that does not come when it is due comes after 2^63 milliseconds. -/
theorem le_nextPollAt_of_not_prompt {now : Nat} {interval : Int} (hinterval : IsI64 interval)
    (hprompt : ¬ self.Prompt now interval) : now + Nat.pow 2 63 ≤ self.nextPollAt now interval := by
  rw [Prompt, not_or] at hprompt
  obtain ⟨hneg, hfits⟩ := hprompt
  have hle := le_asU64_of_neg hinterval (Int.not_le.mp hneg)
  rw [nextPollAt, if_pos (Nat.not_lt.mp hfits)]
  omega

/-- The polls of some tasks, at the instants for their intervals. -/
def pollsAt (instant : Int → Nat) (tasks : List (Str × Option Str × Int)) : List ScheduledPoll :=
  tasks.map fun task => ⟨instant task.2.2, task.1, task.2.1⟩

theorem pollsAt_nextPollAt_perm_iff {now : Nat} {tasks : List (Str × Option Str × Int)}
    (htasks : ∀ task ∈ tasks, IsI64 task.2.2) :
    (pollsAt (self.nextPollAt now) tasks).Perm (pollsAt (self.dueAt now) tasks) ↔
      ∀ task ∈ tasks, self.Prompt now task.2.2 := by
  constructor
  · intro hperm task htask
    by_contra hlate
    have hle := le_nextPollAt_of_not_prompt (htasks task htask) hlate
    -- no task is due as late as this poll
    have hpoll := hperm.subset (mem_map_of_mem htask)
    obtain ⟨other, hother, heq⟩ := mem_map.mp hpoll
    have hlt := self.dueAt_lt now (htasks other hother)
    have hinstant := congrArg ScheduledPoll.nextPollAt heq
    simp only at hinstant
    omega
  · intro hprompt
    refine List.Perm.of_eq (map_congr_left fun task htask => ?_)
    rw [nextPollAt_of_prompt (htasks task htask) (hprompt task htask)]

theorem perm_dueAt_iff {now : Nat} {tasks : List (Str × Option Str × Int)}
    (htasks : ∀ task ∈ tasks, IsI64 task.2.2) {schedule old : List ScheduledPoll}
    (hschedule : schedule.Perm (pollsAt (self.nextPollAt now) tasks ++ old)) :
    schedule.Perm (pollsAt (self.dueAt now) tasks ++ old) ↔
      ∀ task ∈ tasks, self.Prompt now task.2.2 := by
  rw [hschedule.congr_left, perm_append_right_iff, pollsAt_nextPollAt_perm_iff htasks]

end InMemoryTaskStore

namespace PollLoop

open InMemoryTaskStore

section

variable [SchemaCrate] {Req Res : Type}

/-- A new task is scheduled for its first poll, and its end if it has one. -/
structure CreatedOnTime (before : State Req Res) (taskParams : CreateTaskOptions)
    (sessionId : Option Str) (next : State Req Res) : Prop where
  poll : next.store.pollSchedule.Perm
    (⟨before.store.dueAt before.now (taskParams.pollInterval.getD before.store.defaultPollInterval),
      (before.store.nextKey sessionId).1, sessionId⟩ :: before.store.pollSchedule)
  expiry : next.store.cleanups = before.store.cleanups ++
    (taskParams.ttl.map fun ttl =>
      ⟨before.now + ttl.toNat, (before.store.nextKey sessionId).1, sessionId⟩).toList

/-- The tasks that the loop schedules again when it goes to sleep. -/
def Loop.toReschedule : Loop → List (Str × Option Str × Int)
  | .sleeping => []
  | .polling _ toReschedule | .awaiting _ _ toReschedule => toReschedule

/-- A step schedules what it schedules for the instant at which it is due. -/
def OnTime (self : State Req Res) (action : Action Req Res) (next : State Req Res) : Prop :=
  match action with
  | .createTask taskParams _ sessionId =>
    CreatedOnTime self taskParams sessionId next
  | .sleep => next.store.pollSchedule.Perm
      (pollsAt (self.store.dueAt self.now) self.loop.toReschedule ++ self.store.pollSchedule)
  | _ => True

/-- The intervals are not negative, or a poll interval cannot be represented when cast. -/
def Prompt (self : State Req Res) (action : Action Req Res) : Prop :=
  match action with
  | .createTask taskParams _ _ =>
    self.store.Prompt self.now
        (taskParams.pollInterval.getD self.store.defaultPollInterval) ∧
      ∀ ttl ∈ taskParams.ttl, 0 ≤ ttl
  | .sleep => ∀ task ∈ self.loop.toReschedule,
      self.store.Prompt self.now task.2.2
  | _ => True

/-- The intervals in an action are `i64`s. -/
def Action.InRange : Action Req Res → Prop
  | .createTask taskParams _ _ =>
    (∀ interval ∈ taskParams.pollInterval, IsI64 interval) ∧ ∀ ttl ∈ taskParams.ttl, IsI64 ttl
  | .reply (.ok (_, pollInterval)) => ∀ interval ∈ pollInterval, IsI64 interval
  | _ => True

/-- So are the intervals that the store and the loop hold. -/
structure InRange (state : State Req Res) : Prop where
  default : IsI64 state.store.defaultPollInterval
  entries : ∀ key entry, state.store.getEntry key = some entry →
    ∀ interval ∈ entry.task.pollInterval, IsI64 interval
  loop : ∀ task ∈ state.loop.toReschedule, IsI64 task.2.2

omit [SchemaCrate] in
theorem isI64_getD {interval : Option Int} {default : Int}
    (hinterval : ∀ value ∈ interval, IsI64 value) (hdefault : IsI64 default) :
    IsI64 (interval.getD default) := by
  cases interval with
  | none => exact hdefault
  | some value => exact hinterval value rfl

omit [SchemaCrate] in
theorem removeTask_defaultPollInterval (store : InMemoryTaskStore Req Res) (taskId : Str)
    (sessionId : Option Str) :
    (store.removeTask taskId sessionId).defaultPollInterval = store.defaultPollInterval := by
  unfold removeTask
  split
  · rfl
  · rfl

variable {self next : State Req Res} {action : Action Req Res}

theorem step_defaultPollInterval (hstep : step self action = some next) :
    next.store.defaultPollInterval = self.store.defaultPollInterval := by
  cases step_cases hstep with
  | storeTaskResult =>
    simp only [storeTaskResult]
    split
    · rfl
    · rfl
  | updateTaskStatus =>
    simp only [updateTaskStatus]
    split
    · rfl
    · rfl
  | @expire cleanup hcleanup hexpired =>
    have hremoved := removeTask_defaultPollInterval self.store cleanup.taskId cleanup.sessionId
    simp only [expire]
    split
    · exact hremoved
    · exact hremoved
  | terminal hloop hstatus => exact removeTask_defaultPollInterval ..
  | _ => rfl

/-- Every entry has a poll interval from before the step, or of a new task. -/
theorem step_pollInterval (hstep : step self action = some next) {key : TaskKey}
    {entry : TaskEntry Req Res} (hentry : next.store.getEntry key = some entry) :
    (∃ old, self.store.getEntry key = some old ∧ entry.task.pollInterval = old.task.pollInterval) ∨
      ∃ taskParams request sessionId, action = .createTask taskParams request sessionId ∧
          entry.task.pollInterval = taskParams.pollInterval := by
  cases step_cases hstep with
  | @createTask taskParams request sessionId =>
    simp only [getEntry_createTask] at hentry
    split at hentry
    · cases hentry
      exact .inr ⟨taskParams, request, sessionId, rfl, rfl⟩
    · exact .inl ⟨entry, hentry, rfl⟩
  | @storeTaskResult taskId status result sessionId =>
    have hread := self.store.getEntry_storeTaskResult (taskId, sessionId) status result key
    simp only [hread] at hentry
    split at hentry
    · obtain ⟨old, hold, rfl⟩ := map_eq_some_iff.mp hentry
      exact .inl ⟨old, hold, rfl⟩
    · exact .inl ⟨entry, hentry, rfl⟩
  | @updateTaskStatus taskId status statusMessage sessionId =>
    have hread := self.store.getEntry_updateTaskStatus (taskId, sessionId) status statusMessage key
    simp only [hread] at hentry
    split at hentry
    · obtain ⟨old, hold, rfl⟩ := map_eq_some_iff.mp hentry
      exact .inl ⟨old, hold, rfl⟩
    · exact .inl ⟨entry, hentry, rfl⟩
  | expire hcleanup hexpired =>
    simp only [getEntry_expire] at hentry
    split at hentry
    · cases hentry
    · exact .inl ⟨entry, hentry, rfl⟩
  | @terminal task tasks toReschedule status pollInterval hloop hstatus =>
    simp only [getEntry_removeTask] at hentry
    split at hentry
    · cases hentry
    · exact .inl ⟨entry, hentry, rfl⟩
  | _ => exact .inl ⟨entry, hentry, rfl⟩

/-- An interval of a reply, of the entry, or the default. -/
theorem InRange.loop_step (hself : InRange self) (haction : action.InRange)
    (hstep : PollLoop.step self action = some next) :
    ∀ task ∈ next.loop.toReschedule, IsI64 task.2.2 := by
  have hloop := hself.loop
  cases step_cases hstep with
  | wake hsleeping => simp [Loop.toReschedule]
  | call hpolling => simpa [hpolling, Loop.toReschedule] using hloop
  | terminal hawaiting hstatus =>
    simpa [hawaiting, Loop.toReschedule] using hloop
  | @unfinished asked tasks toReschedule status pollInterval hawaiting hstatus =>
    intro task htask
    rcases mem_append.mp htask with hold | hnew
    · exact hloop task (by rwa [hawaiting])
    · cases mem_singleton.mp hnew
      exact isI64_getD haction hself.default
  | @failed asked tasks toReschedule error hawaiting =>
    intro task htask
    simp only [Loop.toReschedule, TaskPolling.afterFailure] at htask
    split at htask
    · next found hfound =>
      rcases mem_append.mp htask with hold | hnew
      · exact hloop task (by rwa [hawaiting])
      · cases mem_singleton.mp hnew
        rw [getTask_eq_map_getEntry] at hfound
        obtain ⟨entry, hentry, rfl⟩ := map_eq_some_iff.mp hfound
        exact isI64_getD (hself.entries _ entry hentry) hself.default
    · exact hloop task (by rwa [hawaiting])
  | sleep hpolling => simp [Loop.toReschedule]
  | _ => exact hloop

/-- A step keeps the intervals in range. -/
theorem InRange.step {action : Action Req Res} (hself : InRange self) (haction : action.InRange)
    (hstep : PollLoop.step self action = some next) : InRange next := by
  refine ⟨?_, ?_, hself.loop_step haction hstep⟩
  · rw [step_defaultPollInterval hstep]
    exact hself.default
  · intro key entry hentry
    rcases step_pollInterval hstep hentry with
      ⟨old, hold, heq⟩ | ⟨taskParams, request, sessionId, rfl, heq⟩
    · rw [heq]
      exact hself.entries key old hold
    · rw [heq]
      exact haction.1

omit [SchemaCrate] in
/-- The end of a task is right when its time to live is not negative. -/
theorem expiresAt_eq_iff (now : Nat) {ttl : Int} (httl : IsI64 ttl) :
    now + asU64 ttl = now + ttl.toNat ↔ 0 ≤ ttl := by
  constructor
  · intro heq
    by_contra hneg
    have hle := le_asU64_of_neg httl (Int.not_le.mp hneg)
    have hlt := toNat_lt_of_isI64 httl
    omega
  · intro hnonneg
    rw [asU64_of_nonneg httl hnonneg]

omit [SchemaCrate] in
theorem createdOnTime_iff {taskParams : CreateTaskOptions} {request : Req} {sessionId : Option Str}
    (hnext : next.store = (self.store.createTask self.now taskParams request sessionId).2)
    (hinterval : IsI64 (taskParams.pollInterval.getD self.store.defaultPollInterval))
    (httl : ∀ ttl ∈ taskParams.ttl, IsI64 ttl) :
    CreatedOnTime self taskParams sessionId next ↔ self.store.Prompt self.now
          (taskParams.pollInterval.getD self.store.defaultPollInterval) ∧
        ∀ ttl ∈ taskParams.ttl, 0 ≤ ttl := by
  have hpoll := @perm_dueAt_iff _ _ self.store self.now
    [((self.store.nextKey sessionId).1, sessionId,
      taskParams.pollInterval.getD self.store.defaultPollInterval)]
    (by simpa using hinterval) _ _ (pushPoll_perm _ self.store.pollSchedule)
  rw [forall_mem_singleton] at hpoll
  have hexpiry : next.store.cleanups = self.store.cleanups ++
      (taskParams.ttl.map fun ttl => ⟨self.now + ttl.toNat,
        (self.store.nextKey sessionId).1, sessionId⟩).toList ↔
        ∀ ttl ∈ taskParams.ttl, 0 ≤ ttl := by
    rw [hnext, createTask]
    cases hlife : taskParams.ttl with
    | none => simp
    | some ttl =>
      have hend := expiresAt_eq_iff self.now (httl ttl hlife)
      simpa [nextKey] using hend
  rw [← hpoll, ← hexpiry]
  constructor
  · intro hcreated
    have hfirst := hcreated.poll
    rw [hnext] at hfirst
    exact ⟨hfirst, hcreated.expiry⟩
  · rintro ⟨hfirst, hend⟩
    refine ⟨?_, hend⟩
    rw [hnext]
    exact hfirst

omit [SchemaCrate] in
theorem initial_inRange {defaultPollInterval : Int} (hdefault : IsI64 defaultPollInterval)
    (lastInstant now : Nat) :
    InRange (initial (.new defaultPollInterval lastInstant) now : State Req Res) := by
  refine ⟨hdefault, ?_, ?_⟩
  · intro key entry hentry
    cases hentry
  · intro task htask
    cases htask

/-- In every run with `i64`s from the other party: polls and ends of tasks are
scheduled for when they are due exactly when the intervals are not negative, or
a cast poll interval cannot be represented. -/
theorem run_onTime_iff {defaultPollInterval : Int} (hdefault : IsI64 defaultPollInterval)
    {lastInstant now : Nat} {trace : List (Action Req Res)} {state next : State Req Res}
    (htrace : ∀ action ∈ trace, action.InRange)
    (hrun : Lts.run step (initial (.new defaultPollInterval lastInstant) now) trace = some state)
    {action : Action Req Res} (haction : action.InRange) (hstep : step state action = some next) :
    OnTime state action next ↔ Prompt state action := by
  have hstate := @Lts.run_trace_invariant _ _ step
    (fun trace state => (∀ action ∈ trace, action.InRange) → InRange state)
    (fun hcurrent hnext hall => (hcurrent fun action hmem =>
        hall action (mem_append_left _ hmem)).step
      (hall _ (mem_append_right _ mem_cons_self)) hnext)
    _ _ _ (fun _ => initial_inRange hdefault lastInstant now) hrun htrace
  cases step_cases hstep with
  | @createTask taskParams request sessionId =>
    exact createdOnTime_iff rfl (isI64_getD haction.1 hstate.default) haction.2
  | @sleep toReschedule hloop =>
    have htasks := hstate.loop
    have hagain : state.loop.toReschedule = toReschedule := by
      rw [hloop]
      rfl
    rw [OnTime, Prompt, hagain]
    rw [hagain] at htasks
    exact perm_dueAt_iff htasks (state.store.pollSchedule_reSchedule_perm state.now toReschedule)
  | _ => exact Iff.rfl

end

namespace TaskIntervalsWitness

attribute [local instance] SchemaCrate.protocol

def lastInstant : Nat := Nat.pow 2 63 * 1000

def start : State Unit Unit :=
  initial (.new 1250 lastInstant) 0

def create (interval ttl : Int) : Action Unit Unit :=
  .createTask ⟨some ttl, some interval⟩ () none

def again (interval : Int) : List (Action Unit Unit) :=
  [create 0 100, .wake, .call, .reply (.ok (.working, some interval))]

def instants (state : State Unit Unit) : List Nat :=
  state.store.pollSchedule.map (·.nextPollAt)

/-- Intervals of 50 and a life of 100 milliseconds are kept. -/
theorem onTime_again :
    ∃ state next, Lts.run step start (again 50) = some state ∧
      step state .sleep = some next ∧ OnTime state .sleep next := by
  have hruns : (Lts.run step start (again 50)).any (fun state =>
      (step state .sleep).isSome &&
        state.loop.toReschedule.all (0 ≤ ·.2.2)) = true := by decide +kernel
  obtain ⟨state, hstate, hlater⟩ := (Option.any_eq_true _ _).mp hruns
  rw [Bool.and_eq_true, List.all_eq_true] at hlater
  obtain ⟨next, hnext⟩ := Option.isSome_iff_exists.mp hlater.1
  refine ⟨state, next, hstate, hnext, ?_⟩
  refine (@run_onTime_iff _ _ _ 1250 (by decide) lastInstant 0 (again 50) _ _ ?_
    hstate .sleep trivial hnext).mpr ?_
  · simp [again, create, Action.InRange, IsI64]
  · exact fun task htask => .inl (of_decide_eq_true (hlater.2 task htask))

/-- An interval of minus one millisecond puts the poll 584 million years ahead,
and a life of minus one millisecond so the end of the task. -/
theorem negative_not_onTime :
    (step start (create (-1) (-1))).map (fun next =>
        (instants next, next.store.cleanups.map (·.expiresAt))) =
      some ([18446744073709551615], [18446744073709551615]) ∧
    (Lts.run step start (again (-1) ++ [.sleep])).map instants = some [18446744073709551615] ∧
    start.store.dueAt 0 (-1) = 0 := by
  decide +kernel

end TaskIntervalsWitness

end PollLoop

end McpSdk
