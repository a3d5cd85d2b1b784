/-
Tasks that have left the store while the polling loop still has them. A callback
that calls such a task unfinished puts it back.
-/
import McpSdk.PollLoop

namespace McpSdk.PollLoop

open List

section

variable [SchemaCrate] {Req Res : Type}

/-- A task that is gone when its callback returns is not put back. -/
def LeavesSchedule (self : State Req Res) : Action Req Res → Prop
  | .reply result =>
    ∀ task ∈ self.loop.current, ¬ self.store.Stored task →
      ∀ next, step self (.reply result) = some next → task ∉ entries next
  | _ => True

/-- A callback calls its task unfinished while it is in the store. -/
def UnfinishedIsStored (self : State Req Res) : Action Req Res → Prop
  | .reply (.ok (status, _)) =>
    ∀ task ∈ self.loop.current, status.isTerminal = true ∨ self.store.Stored task
  | _ => True

instance (self : State Req Res) :
    ∀ action, Decidable (UnfinishedIsStored self action)
  | .reply (.ok (status, _)) =>
    inferInstanceAs (Decidable (∀ task ∈ self.loop.current,
      status.isTerminal = true ∨ self.store.Stored task))
  | .reply (.error _) | .tick _ | .createTask .. | .storeTaskResult .. | .updateTaskStatus ..
  | .expire _ | .wake | .call | .sleep => isTrue trivial

/-- The keys that the callback is still to be called for. -/
def pending (self : State Req Res) : List TaskKey :=
  self.store.scheduleKeys ++ self.loop.pending

omit [SchemaCrate] in
theorem pending_sublist_entries (self : State Req Res) : (pending self).Sublist (entries self) := by
  refine List.Sublist.append_left ?_ _
  cases self.loop with
  | sleeping | polling => exact .refl _
  | awaiting task tasks toReschedule => exact sublist_cons_self _ _

variable {self : State Req Res}

omit [SchemaCrate] in
theorem Sound.current_not_mem_pending (hself : Sound self) (hids : WithinIds self)
    {task : TaskKey} (htask : self.loop.current = some task) : task ∉ pending self := by
  obtain ⟨tasks, toReschedule, hloop⟩ := current_eq_some htask
  have hnodup := hself.entries_nodup hids
  rw [entries, hloop] at hnodup
  rw [pending, hloop]
  exact (nodup_cons.mp (perm_middle.nodup_iff.mp hnodup)).1

theorem reply_entries {next : State Req Res} {result : Except Str (TaskStatus × Option Int)}
    {task : TaskKey} (htask : self.loop.current = some task)
    (hstep : step self (.reply result) = some next) :
    pending next = entries next ∧ ((entries next = pending self ∧
          ∀ status pollInterval, result = .ok (status, pollInterval) → status.isTerminal = true) ∨
        ((entries next).Perm (task :: pending self) ∧
          (self.store.Stored task ∨ ∃ status pollInterval, result = .ok (status, pollInterval) ∧
              status.isTerminal = false))) := by
  obtain ⟨tasks, toReschedule, hawaiting⟩ := current_eq_some htask
  cases step_cases hstep with
  | terminal hloop hstatus =>
    cases hawaiting.symm.trans hloop
    refine ⟨rfl, .inl ⟨?_, ?_⟩⟩
    · rw [entries, pending, hloop, (self.store.removeTask_frame task.1 task.2).2]
      rfl
    · rintro status pollInterval ⟨⟩
      exact hstatus
  | unfinished hloop hstatus =>
    cases hawaiting.symm.trans hloop
    refine ⟨rfl, .inr ⟨?_, .inr ⟨_, _, rfl, hstatus⟩⟩⟩
    rw [entries, pending, hloop]
    refine ((awaiting_perm_polling task tasks toReschedule _).append_left _).trans ?_
    exact perm_middle
  | failed hloop =>
    cases hawaiting.symm.trans hloop
    refine ⟨rfl, ?_⟩
    rw [TaskPolling.afterFailure, InMemoryTaskStore.getTask_eq_map_getEntry]
    cases hentry : self.store.getEntry task with
    | none =>
      refine .inl ⟨?_, ?_⟩
      · rw [entries, pending, hloop]
        rfl
      · rintro status pollInterval ⟨⟩
    | some entry =>
      refine .inr ⟨?_, .inl ?_⟩
      · rw [entries, pending, hloop]
        refine ((awaiting_perm_polling task tasks toReschedule _).append_left _).trans ?_
        exact perm_middle
      · rw [InMemoryTaskStore.Stored, hentry]
        rfl

theorem Sound.leavesSchedule_iff (hself : Sound self) (hids : WithinIds self)
    (action : Action Req Res) : LeavesSchedule self action ↔ UnfinishedIsStored self action := by
  cases action with
  | reply result =>
    constructor
    · intro hleaves
      cases result with
      | error error => trivial
      | ok answer =>
        obtain ⟨status, pollInterval⟩ := answer
        intro task htask
        by_contra hneither
        rw [not_or, Bool.not_eq_true] at hneither
        obtain ⟨tasks, toReschedule, hloop⟩ := current_eq_some htask
        obtain ⟨next, hnext⟩ : ∃ next, PollLoop.step self
            (.reply (.ok (status, pollInterval))) = some next := by
          simp [PollLoop.step, hloop, hneither.1]
        have hgone := hleaves task htask hneither.2 next hnext
        rcases (reply_entries htask hnext).2 with ⟨-, hstatus⟩ | ⟨hback, -⟩
        · rw [hstatus _ _ rfl] at hneither
          cases hneither.1
        · exact hgone (hback.mem_iff.mpr mem_cons_self)
    · intro hcondition task htask hgone next hnext
      rcases (reply_entries htask hnext).2 with ⟨hout, -⟩ | ⟨-, hstored⟩
      · rw [hout]
        exact hself.current_not_mem_pending hids htask
      · rcases hstored with hstored | ⟨status, pollInterval, rfl, hstatus⟩
        · exact absurd hstored hgone
        · rcases hcondition task htask with hterminal | hstored
          · rw [hstatus] at hterminal
            cases hterminal
          · exact absurd hstored hgone
  | tick | createTask | storeTaskResult | updateTaskStatus | expire | wake
  | call | sleep => exact Iff.rfl

/-- A task that was made and is gone, with a bound on the calls for it. -/
structure Leaving (key : TaskKey) (bound : Nat) (state : State Req Res) :
    Prop where
  created : key ∈ state.created
  gone : ¬ state.store.Stored key
  calls : state.calls.count key + (pending state).count key ≤ bound

variable {key : TaskKey}

theorem reply_pending {next : State Req Res} {result : Except Str (TaskStatus × Option Int)}
    (hgone : ¬ self.store.Stored key) (hcondition : UnfinishedIsStored self (.reply result))
    (hstep : step self (.reply result) = some next) :
    (pending next).count key = (pending self).count key := by
  obtain ⟨task, htask⟩ : ∃ task, self.loop.current = some task := by
    cases step_cases hstep with
    | terminal hloop hstatus | unfinished hloop hstatus | failed hloop =>
      exact ⟨_, congrArg Loop.current hloop⟩
  obtain ⟨hpending, hcases⟩ := reply_entries htask hstep
  rw [hpending]
  rcases hcases with ⟨hout, -⟩ | ⟨hback, hstored⟩
  · rw [hout]
  · have htaskStored : self.store.Stored task := by
      rcases hstored with hstored | ⟨status, pollInterval, rfl, hstatus⟩
      · exact hstored
      · have hneither := hcondition task htask
        rw [hstatus] at hneither
        simpa using hneither
    rw [hback.count_eq, count_cons_of_ne]
    rintro rfl
    exact hgone htaskStored

theorem Step.calls_pending {next : State Req Res} {action : Action Req Res}
    (hstep : Step self action next) (hcreated : key ∈ self.created) (hnodup : next.created.Nodup)
    (hreply : ∀ result, action = .reply result → (pending next).count key =
      (pending self).count key) :
    next.calls.count key + (pending next).count key =
      self.calls.count key + (pending self).count key := by
  cases hstep with
  | tick => rfl
  | @createTask taskParams request sessionId =>
    have hperm := (self.store.scheduleKeys_createTask_perm self.now
      taskParams request sessionId).append_right self.loop.pending
    rw [pending, hperm.count_eq, cons_append, count_cons_of_ne]
    · rfl
    · rintro rfl
      exact (nodup_append.mp hnodup).2.2 _ hcreated _ mem_cons_self rfl
  | storeTaskResult =>
    rw [pending, (self.store.storeTaskResult_frame ..).2]
    rfl
  | updateTaskStatus =>
    rw [pending, (self.store.updateTaskStatus_frame ..).2]
    rfl
  | expire hcleanup hexpired =>
    rw [pending, (self.store.expire_frame _).2]
    rfl
  | wake hloop =>
    rw [pending, pending, hloop, ← self.store.tasksToPoll_append self.now]
    simp only [Loop.pending, count_append, InMemoryTaskStore.pollKeys]
    simp only [map_nil, count_nil]
    omega
  | call hloop =>
    rw [pending, pending, hloop]
    simp only [Loop.pending, count_append, count_cons, count_nil]
    omega
  | terminal | unfinished | failed => rw [hreply _ rfl]
  | @sleep toReschedule hloop =>
    have hperm := self.store.scheduleKeys_reSchedule_perm self.now toReschedule
    rw [pending, pending, hloop, count_append, hperm.count_eq]
    simp only [Loop.pending, count_append, count_nil, nil_append]
    omega

/-- A step keeps the bound on the calls for a removed task. -/
theorem Leaving.step {key : TaskKey} {bound : Nat} {self next : State Req Res}
    {action : Action Req Res} (hself : Leaving key bound self)
    (hcondition : UnfinishedIsStored self action) (hstep : PollLoop.step self action = some next)
    (hnodup : next.created.Nodup) : Leaving key bound next := by
  have heffect := (step_cases hstep).effect
  refine ⟨heffect.created_prefix.subset hself.created, ?_, ?_⟩
  · intro hstored
    cases heffect with
    | created other hcreated hentries hstoredBefore =>
      rcases hstoredBefore key hstored with rfl | hold
      · rw [hcreated] at hnodup
        exact (nodup_append.mp hnodup).2.2 _ hself.created _ mem_cons_self rfl
      · exact hself.gone hold
    | kept hcreated hentries hstoredBefore =>
      exact hself.gone (hstoredBefore key hstored)
    | dropped other hcreated hentries hstoredBefore =>
      exact hself.gone (hstoredBefore key hstored).1
  · rw [(step_cases hstep).calls_pending hself.created hnodup]
    · exact hself.calls
    · rintro result rfl
      exact reply_pending hself.gone hcondition hstep

theorem Sound.count_calls_le {middle final : State Req Res} (hmiddle : Sound middle)
    {after : List (Action Req Res)} (hrun : Lts.run PollLoop.step middle after = some final)
    (hids : WithinIds final) (hcondition : Lts.Along PollLoop.step UnfinishedIsStored middle after)
    (hkey : key ∈ middle.created) (hgone : ¬ middle.store.Stored key) :
    final.calls.count key ≤ middle.calls.count key + 1 := by
  have hpending : (pending middle).count key ≤ 1 := by
    have hwithin := Lts.run_backward withinIds_backward hrun hids
    exact nodup_iff_count_le_one.mp ((hmiddle.entries_nodup hwithin).sublist
      (pending_sublist_entries middle)) key
  have hleaving : Leaving key (middle.calls.count key + 1) middle := ⟨hkey, hgone, by omega⟩
  have hfinal := @Lts.run_invariant _ _ PollLoop.step UnfinishedIsStored
    (fun state => state.created.Nodup → Leaving key (middle.calls.count key + 1) state)
    (fun hstate hstepCondition hstep hnodup =>
      (hstate (hnodup.sublist
        (step_cases hstep).effect.created_prefix.sublist)).step
          hstepCondition hstep hnodup)
    _ _ _ (fun _ => hleaving) hcondition hrun
  have hcalls := (hfinal ((hmiddle.run hrun).numbered.created_nodup hids)).calls
  omega

/-- In every run with at most as many tasks as ids: tasks that are gone are not
put back, and called for at most once more, exactly when no callback calls one
of them unfinished. -/
theorem run_leavesSchedule_iff {defaultPollInterval : Int} {lastInstant now : Nat}
    {trace : List (Action Req Res)} {final : State Req Res}
    (hrun : Lts.run step (initial (.new defaultPollInterval lastInstant) now) trace = some final)
    (hids : final.created.length ≤ Nat.pow 2 64) :
    (Lts.Along step LeavesSchedule (initial (.new defaultPollInterval lastInstant) now) trace ∧
      ∀ before after middle key, before ++ after = trace →
        Lts.run step (initial (.new defaultPollInterval lastInstant) now) before = some middle →
        key ∈ middle.created → ¬ middle.store.Stored key →
          final.calls.count key ≤ middle.calls.count key + 1) ↔ Lts.Along step UnfinishedIsStored
        (initial (.new defaultPollInterval lastInstant) now) trace := by
  have hsound : Sound (initial (.new defaultPollInterval lastInstant) now :
      State Req Res) := initial_sound ..
  have hiff := Lts.along_congr_of_run (fun hstate hstep => hstate.step hstep)
    withinIds_backward Sound.leavesSchedule_iff hsound hrun hids
  rw [hiff, and_iff_left_iff_imp]
  rintro hcondition before after middle key rfl hbefore hkey hgone
  obtain ⟨other, hother, hafter⟩ := Lts.run_append_eq_some.mp hrun
  cases hbefore.symm.trans hother
  refine (hsound.run hbefore).count_calls_le hafter hids ?_ hkey hgone
  exact ((Lts.along_append hbefore).mp hcondition).2

end

namespace RemovedPollsWitness

attribute [local instance] SchemaCrate.protocol

def start : State Unit Unit :=
  initial (.new 1250 (Nat.pow 2 63)) 0

def taskKey : TaskKey :=
  (TaskPolling.entryId 0, none)

/-- A task outlives its ten milliseconds before its first poll is due. -/
def expired : List (Action Unit Unit) :=
  [.createTask ⟨some 10, some 100⟩ () none, .tick 200, .expire ⟨10, taskKey.1, none⟩]

def round (answer : Except Str (TaskStatus × Option Int)) : List (Action Unit Unit) :=
  [.wake, .call, .reply answer, .sleep, .tick 200]

/-- The calls for the task, whether it was made and is stored, and scheduled. -/
def reading (state : State Unit Unit) : Nat × Bool × Bool × Bool :=
  (state.calls.count taskKey, decide (taskKey ∈ state.created),
    decide (state.store.Stored taskKey), decide (taskKey ∈ entries state))

/-- The callback still calls the task unfinished, round after round. -/
theorem expired_called_twice :
    ∃ middle final, Lts.run step start expired = some middle ∧
      Lts.run step middle (round (.ok (.working, some 100)) ++
        round (.ok (.working, some 100))) = some final ∧
      taskKey ∈ middle.created ∧ ¬ middle.store.Stored taskKey ∧
      middle.calls.count taskKey = 0 ∧ final.calls.count taskKey = 2 ∧ taskKey ∈ entries final := by
  have hmiddle : (Lts.run step start expired).map reading =
      some (0, true, false, true) := by decide +kernel
  have hfinal : (Lts.run step start (expired ++
      (round (.ok (.working, some 100)) ++ round (.ok (.working, some 100))))).map reading =
      some (2, true, false, true) := by decide +kernel
  obtain ⟨final, hrun, hlast⟩ := Option.map_eq_some_iff.mp hfinal
  obtain ⟨middle, hbefore, hafter⟩ := Lts.run_append_eq_some.mp hrun
  rw [hbefore, Option.map_some, Option.some.injEq] at hmiddle
  simp only [reading, Prod.mk.injEq, decide_eq_true_iff, decide_eq_false_iff_not] at hmiddle hlast
  exact ⟨middle, final, hbefore, hafter, hmiddle.2.1, hmiddle.2.2.1,
    hmiddle.1, hlast.1, hlast.2.2.2⟩

def expiredFailing : List (Action Unit Unit) :=
  expired ++ round (.error "gone")

theorem expiredFailing_called_once :
    ∃ final, Lts.run step start expiredFailing = some final ∧
      Lts.Along step LeavesSchedule start expiredFailing ∧
      final.calls.count taskKey = 1 ∧ taskKey ∉ entries final := by
  have hfinal : (Lts.run step start expiredFailing).map
      (fun final => (reading final, final.created.length)) =
        some ((1, true, false, false), 1) := by decide +kernel
  obtain ⟨final, hrun, hread⟩ := Option.map_eq_some_iff.mp hfinal
  simp only [reading, Prod.mk.injEq, decide_eq_false_iff_not] at hread
  have hids : final.created.length ≤ Nat.pow 2 64 := by
    rw [hread.2]
    decide
  have hleaves := (run_leavesSchedule_iff hrun hids).mpr (by decide +kernel)
  exact ⟨final, hrun, hleaves.1, hread.1.1, hread.1.2.2.2⟩

end RemovedPollsWitness

end McpSdk.PollLoop
