/-
The entries of a session and the list of its ids. All operations keep them in
agreement but one: a finished task that the polling loop removes stays in the
list.
-/
import McpSdk.PollLoop

namespace McpSdk.PollLoop

open List Option
open InMemoryTaskStore (sessionIds_createTask sessionIds_expire stored_expire stored_removeTask
  not_stored_iff)

section

variable [SchemaCrate] {Req Res : Type}

/-- The ids that were given out in a session, the last one first. -/
def newestFirst (created : List TaskKey) (sessionId : Option Str) : List Str :=
  ((created.filter (·.2 = sessionId)).map (·.1)).reverse

/-- The list of a session has the ids of its tasks, each once, newest first. -/
structure IndexesAgree (state : State Req Res) : Prop where
  nodup : ∀ sessionId, (state.store.sessionIds sessionId).Nodup
  mem_iff : ∀ taskId sessionId, taskId ∈ state.store.sessionIds sessionId ↔
    state.store.Stored (taskId, sessionId)
  newest : ∀ sessionId, (state.store.sessionIds sessionId).Sublist
    (newestFirst state.created sessionId)

/-- The callback calls a task finished only when it has left the store. -/
def FinishedIsGone (self : State Req Res) : Action Req Res → Prop
  | .reply (.ok (status, _)) =>
    ∀ task ∈ self.loop.current, status.isTerminal = true → ¬ self.store.Stored task
  | _ => True

instance (self : State Req Res) :
    ∀ action, Decidable (FinishedIsGone self action)
  | .reply (.ok (status, _)) =>
    inferInstanceAs (Decidable (∀ task ∈ self.loop.current,
      status.isTerminal = true → ¬ self.store.Stored task))
  | .reply (.error _) | .tick _ | .createTask .. | .storeTaskResult .. | .updateTaskStatus ..
  | .expire _ | .wake | .call | .sleep => isTrue trivial

omit [SchemaCrate] in
theorem newestFirst_append (created : List TaskKey) (key : TaskKey) (sessionId : Option Str) :
    newestFirst (created ++ [key]) sessionId =
      if sessionId = key.2 then key.1 :: newestFirst created sessionId
      else newestFirst created sessionId := by
  simp only [newestFirst, filter_append, filter_cons, filter_nil, decide_eq_true_eq]
  split
  · next heq => simp [heq]
  · next hne => simp [Ne.symm hne]

omit [SchemaCrate] in
theorem IndexesAgree.congr {self next : State Req Res} (hself : IndexesAgree self)
    (hids : ∀ sessionId, next.store.sessionIds sessionId = self.store.sessionIds sessionId)
    (hstored : ∀ key, next.store.Stored key ↔ self.store.Stored key)
    (hcreated : next.created = self.created) : IndexesAgree next := by
  refine ⟨?_, ?_, ?_⟩
  · intro sessionId
    rw [hids]
    exact hself.nodup sessionId
  · intro taskId sessionId
    rw [hids, hstored]
    exact hself.mem_iff taskId sessionId
  · intro sessionId
    rw [hids, hcreated]
    exact hself.newest sessionId

omit [SchemaCrate] in
theorem IndexesAgree.createTask {self : State Req Res} (hself : IndexesAgree self)
    {taskParams : CreateTaskOptions} {request : Req} {sessionId : Option Str}
    (hfresh : ¬ self.store.Stored (self.store.nextKey sessionId)) :
    IndexesAgree
      { self with
        store := (self.store.createTask self.now taskParams request sessionId).2
        created := self.created ++ [self.store.nextKey sessionId] } := by
  refine ⟨?_, ?_, ?_⟩
  · intro other
    rw [sessionIds_createTask]
    split
    · rw [nodup_cons, hself.mem_iff]
      exact ⟨hfresh, hself.nodup sessionId⟩
    · exact hself.nodup other
  · intro taskId other
    rw [sessionIds_createTask, InMemoryTaskStore.stored_createTask]
    split
    · next heq =>
      subst heq
      rw [mem_cons, hself.mem_iff]
      exact or_congr_left ⟨fun hid => Prod.ext hid rfl, congrArg Prod.fst⟩
    · next hne =>
      rw [hself.mem_iff]
      exact (or_iff_right fun hkey => hne (congrArg Prod.snd hkey)).symm
  · intro other
    rw [sessionIds_createTask, newestFirst_append]
    change (if other = sessionId then _ else _ : List Str).Sublist
      (if other = sessionId then _ else _)
    split
    · next heq =>
      subst heq
      exact (hself.newest other).cons_cons _
    · exact hself.newest other

omit [SchemaCrate] in
theorem IndexesAgree.expire {self : State Req Res} (hself : IndexesAgree self) (cleanup : Cleanup) :
    IndexesAgree { self with store := self.store.expire cleanup } := by
  refine ⟨?_, ?_, ?_⟩
  · intro sessionId
    rw [sessionIds_expire]
    split
    · exact (hself.nodup sessionId).erase _
    · exact hself.nodup sessionId
  · intro taskId sessionId
    rw [sessionIds_expire, stored_expire]
    split
    · next heq =>
      subst heq
      rw [(hself.nodup _).mem_erase_iff, hself.mem_iff]
      simp
    · next hne =>
      rw [hself.mem_iff]
      simp [hne]
  · intro sessionId
    rw [sessionIds_expire]
    split
    · exact erase_sublist.trans (hself.newest sessionId)
    · exact hself.newest sessionId

omit [SchemaCrate] in
/-- The indexes agree after a removal only if the task was not there. -/
theorem IndexesAgree.terminal_iff {self : State Req Res}
    (hself : IndexesAgree self) (task : TaskKey) (loop : Loop) :
    IndexesAgree
        { self with
          store := self.store.removeTask task.1 task.2, loop } ↔
      ¬ self.store.Stored task := by
  constructor
  · intro hnext hstored
    have hlisted := (hself.mem_iff task.1 task.2).mpr hstored
    rw [← self.store.sessionIds_removeTask task.1 task.2] at hlisted
    have hthere := (hnext.mem_iff task.1 task.2).mp hlisted
    exact (stored_removeTask.mp hthere).1 rfl
  · intro hgone
    refine hself.congr (self.store.sessionIds_removeTask task.1 task.2) ?_ rfl
    intro key
    rw [stored_removeTask, and_iff_right_iff_imp]
    rintro hkey rfl
    exact hgone hkey

/-- When a step keeps the indexes in agreement. -/
theorem IndexesAgree.step_iff {self next : State Req Res} {action : Action Req Res}
    (hsound : Sound self) (hself : IndexesAgree self) (hids : WithinIds next)
    (hstep : step self action = some next) : IndexesAgree next ↔ FinishedIsGone self action := by
  have hnodup := (hsound.step hstep).numbered.created_nodup hids
  cases step_cases hstep with
  | createTask =>
    refine iff_of_true (hself.createTask ?_) trivial
    intro hstored
    exact (nodup_append.mp hnodup).2.2 _
      (hsound.scheduled.stored_created _ hstored) _ mem_cons_self rfl
  | tick =>
    exact iff_of_true (hself.congr (fun _ => rfl) (fun _ => Iff.rfl) rfl) trivial
  | storeTaskResult =>
    exact iff_of_true (hself.congr (self.store.sessionIds_storeTaskResult _ _ _ _)
      (fun _ => InMemoryTaskStore.stored_storeTaskResult) rfl) trivial
  | updateTaskStatus =>
    exact iff_of_true (hself.congr (self.store.sessionIds_updateTaskStatus _ _ _ _)
      (fun _ => InMemoryTaskStore.stored_updateTaskStatus) rfl) trivial
  | expire hcleanup hexpired => exact iff_of_true (hself.expire _) trivial
  | wake | call =>
    exact iff_of_true (hself.congr (fun _ => rfl) (fun _ => Iff.rfl) rfl) trivial
  | terminal hloop hstatus =>
    rw [hself.terminal_iff, FinishedIsGone, hloop]
    simp [Loop.current, hstatus]
  | unfinished hloop hstatus =>
    refine iff_of_true (hself.congr (fun _ => rfl) (fun _ => Iff.rfl) rfl) ?_
    simp [FinishedIsGone, hstatus]
  | failed | sleep =>
    exact iff_of_true (hself.congr (fun _ => rfl) (fun _ => Iff.rfl) rfl) trivial

omit [SchemaCrate] in
theorem initial_indexesAgree (defaultPollInterval : Int) (lastInstant now : Nat) :
    IndexesAgree (initial (.new defaultPollInterval lastInstant) now : State Req Res) := by
  refine ⟨fun _ => nodup_nil, ?_, fun _ => List.Sublist.refl []⟩
  intro taskId sessionId
  exact iff_of_false not_mem_nil (not_stored_iff.mpr rfl)

/-- In every run with at most as many tasks as ids: the indexes agree in every
state exactly when the callback calls no stored task finished. -/
theorem run_indexesAgree_iff {defaultPollInterval : Int} {lastInstant now : Nat}
    {trace : List (Action Req Res)} {final : State Req Res}
    (hrun : Lts.run step (initial (.new defaultPollInterval lastInstant) now) trace = some final)
    (hids : final.created.length ≤ Nat.pow 2 64) :
    (∀ before after middle, before ++ after = trace →
        Lts.run step (initial (.new defaultPollInterval lastInstant) now)
          before = some middle → IndexesAgree middle) ↔ Lts.Along step FinishedIsGone
        (initial (.new defaultPollInterval lastInstant) now) trace :=
  Lts.forall_states_iff_along (fun hstate hstep => Sound.step hstate hstep)
    withinIds_backward
    (fun hstate hagree hbounded hstep =>
      IndexesAgree.step_iff hstate hagree hbounded hstep)
    (initial_sound ..) (initial_indexesAgree ..) hrun hids

end

namespace TaskIndexesWitness

attribute [local instance] SchemaCrate.protocol

def start : State Unit Unit :=
  initial (.new 1250 (Nat.pow 2 63)) 0

def taskId : Str :=
  TaskPolling.entryId 0

/-- Two tasks; the older one is polled once its interval has passed. -/
def polled (answer : Except Str (TaskStatus × Option Int)) : List (Action Unit Unit) :=
  [.createTask ⟨some 5000, some 100⟩ () none,
    .createTask ⟨none, some 5000⟩ () none, .tick 200, .wake, .call,
    .reply answer]

/-- The callback calls the task finished, and its id stays in the list. -/
theorem finished_not_agree :
    ∃ final, Lts.run step start (polled (.ok (.completed, none))) = some final ∧
      taskId ∈ final.store.sessionIds none ∧
      ¬ final.store.Stored (taskId, none) ∧ ¬ IndexesAgree final := by
  have hfinal : (Lts.run step start (polled (.ok (.completed, none)))).map
      (fun final => (decide (taskId ∈ final.store.sessionIds none),
        decide (final.store.Stored (taskId, none)))) = some (true, false) := by
    decide +kernel
  obtain ⟨final, hrun, hread⟩ := map_eq_some_iff.mp hfinal
  rw [Prod.mk.injEq, decide_eq_true_iff, decide_eq_false_iff_not] at hread
  refine ⟨final, hrun, hread.1, hread.2, ?_⟩
  intro hagree
  exact hread.2 ((hagree.mem_iff taskId none).mp hread.1)

def failedExpired : List (Action Unit Unit) :=
  polled (.error "offline") ++
    ([.sleep, .tick 5000, .expire ⟨5000, taskId, none⟩] : List (Action Unit Unit))

theorem failedExpired_agree :
    ∃ final, Lts.run step start failedExpired = some final ∧
      final.store.sessionIds none = [TaskPolling.entryId 1] ∧ IndexesAgree final := by
  have hfinal : (Lts.run step start failedExpired).map
      (fun final => (final.store.sessionIds none, final.created.length)) =
        some ([TaskPolling.entryId 1], 2) := by
    decide +kernel
  obtain ⟨final, hrun, hread⟩ := map_eq_some_iff.mp hfinal
  rw [Prod.mk.injEq] at hread
  refine ⟨final, hrun, hread.1, ?_⟩
  have hids : final.created.length ≤ Nat.pow 2 64 := by
    rw [hread.2]
    decide
  exact (run_indexesAgree_iff hrun hids).mpr (by decide +kernel)
    _ [] _ (append_nil _) hrun

end TaskIndexesWitness

end McpSdk.PollLoop
