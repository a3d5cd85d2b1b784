/-
Whether a task that has ended stays as it is. Storing a result and setting a
status change it whatever its status is.
-/
import McpSdk.Lts
import McpSdk.TaskStore

namespace McpSdk.TaskFinality

section

variable [SchemaCrate] {Req Res : Type}

/-- What happens to a task store; each call holds its lock to the end. -/
inductive Action (Req Res : Type) where
  | createTask (now : Nat) (taskParams : CreateTaskOptions) (request : Req) (sessionId : Option Str)
  | storeTaskResult (taskId : Str) (status : TaskStatus) (result : Res) (sessionId : Option Str)
  | updateTaskStatus (taskId : Str) (status : TaskStatus)
      (statusMessage : Option Str) (sessionId : Option Str)
  | removeTask (taskId : Str) (sessionId : Option Str)
  | expire (cleanup : Cleanup)

/-- One call of the store. -/
def step (store : InMemoryTaskStore Req Res) :
    Action Req Res → Option (InMemoryTaskStore Req Res)
  | .createTask now taskParams request sessionId =>
    some (store.createTask now taskParams request sessionId).2
  | .storeTaskResult taskId status result sessionId =>
    some (store.storeTaskResult taskId status result sessionId)
  | .updateTaskStatus taskId status statusMessage sessionId =>
    some (store.updateTaskStatus taskId status statusMessage sessionId)
  | .removeTask taskId sessionId => some (store.removeTask taskId sessionId)
  | .expire cleanup =>
    if cleanup ∈ store.cleanups then some (store.expire cleanup) else none

def entry (store : InMemoryTaskStore Req Res) (taskId : Str)
    (sessionId : Option Str) : Option (TaskEntry Req Res) :=
  (store.sessionTasks sessionId).lookup taskId

/-- Every task that has ended keeps its status and result, if it is still there. -/
def Keeps (before after : InMemoryTaskStore Req Res) : Prop :=
  ∀ taskId sessionId old new, entry before taskId sessionId = some old →
    old.task.status.isTerminal = true →
      entry after taskId sessionId = some new →
        new.task.status = old.task.status ∧ new.result = old.result

/-- `store_task_result` and `update_task_status` keep what has ended. -/
def FinalStays (store : InMemoryTaskStore Req Res) :
    Action Req Res → Prop
  | .storeTaskResult taskId status result sessionId =>
    Keeps store (store.storeTaskResult taskId status result sessionId)
  | .updateTaskStatus taskId status statusMessage sessionId =>
    Keeps store
      (store.updateTaskStatus taskId status statusMessage sessionId)
  | _ => True

/-- A call on a task that has ended repeats its status and result. -/
def Repeats (store : InMemoryTaskStore Req Res) : Action Req Res → Prop
  | .storeTaskResult taskId status result sessionId =>
    ∀ old, entry store taskId sessionId = some old →
      old.task.status.isTerminal = true → status = old.task.status ∧ old.result = some result
  | .updateTaskStatus taskId status _ sessionId =>
    ∀ old, entry store taskId sessionId = some old →
      old.task.status.isTerminal = true → status = old.task.status
  | _ => True

/-- A store in which one entry is put in place of another. -/
def put (store : InMemoryTaskStore Req Res) (taskId : Str) (sessionId : Option Str)
    (new : TaskEntry Req Res) : InMemoryTaskStore Req Res :=
  { store with
    tasks := store.tasks.insert sessionId
      ((store.sessionTasks sessionId).insert taskId new) }

variable (store : InMemoryTaskStore Req Res)

omit [SchemaCrate] in
theorem entry_put (taskId : Str) (sessionId : Option Str) (new : TaskEntry Req Res) :
    entry (put store taskId sessionId new) taskId sessionId = some new := by
  simp [entry, put, InMemoryTaskStore.sessionTasks]

omit [SchemaCrate] in
theorem entry_put_of_ne {taskId other : Str} {sessionId otherSession : Option Str}
    (new : TaskEntry Req Res) (hne : ¬ (other = taskId ∧ otherSession = sessionId)) :
    entry (put store taskId sessionId new) other otherSession = entry store other otherSession := by
  by_cases hsession : otherSession = sessionId
  · subst hsession
    have hother : other ≠ taskId := fun heq => hne ⟨heq, rfl⟩
    simp [entry, put, InMemoryTaskStore.sessionTasks, AList.lookup_insert_ne hother]
  · simp [entry, put, InMemoryTaskStore.sessionTasks, AList.lookup_insert_ne hsession]

theorem keeps_put_iff {store : InMemoryTaskStore Req Res} {taskId : Str} {sessionId : Option Str}
    {old new : TaskEntry Req Res} (hold : entry store taskId sessionId = some old) :
    Keeps store (put store taskId sessionId new) ↔ (old.task.status.isTerminal = true →
        new.task.status = old.task.status ∧ new.result = old.result) := by
  constructor
  · intro hkeeps hterminal
    exact hkeeps taskId sessionId old new hold hterminal (entry_put store taskId sessionId new)
  · intro hnew other otherSession before after hbefore hterminal hafter
    by_cases hsame : other = taskId ∧ otherSession = sessionId
    · obtain ⟨rfl, rfl⟩ := hsame
      cases hold.symm.trans hbefore
      cases (entry_put store other otherSession new).symm.trans hafter
      exact hnew hterminal
    · rw [entry_put_of_ne store new hsame] at hafter
      cases hbefore.symm.trans hafter
      exact ⟨rfl, rfl⟩

theorem keeps_refl : Keeps store store := by
  intro taskId sessionId old new hold _ hnew
  cases hold.symm.trans hnew
  exact ⟨rfl, rfl⟩

theorem keeps_storeTaskResult_iff (taskId : Str) (status : TaskStatus)
    (result : Res) (sessionId : Option Str) :
    Keeps store (store.storeTaskResult taskId status result sessionId) ↔
      Repeats store (.storeTaskResult taskId status result sessionId) := by
  simp only [Repeats]
  cases hold : entry store taskId sessionId with
  | none =>
    have hsame : store.storeTaskResult taskId status result sessionId =
        store := by
      simp only [InMemoryTaskStore.storeTaskResult]
      rw [show (store.sessionTasks sessionId).lookup taskId = none from hold]
    rw [hsame]
    exact iff_of_true (keeps_refl store) (by simp)
  | some old =>
    have hput : store.storeTaskResult taskId status result sessionId =
        put store taskId sessionId
          { old with
            task := { old.task with status, statusMessage := none }
            result := some result } := by
      simp only [InMemoryTaskStore.storeTaskResult]
      rw [show (store.sessionTasks sessionId).lookup taskId = some old from hold]
      rfl
    rw [hput, keeps_put_iff hold, eq_comm (a := some result)]
    simp

theorem keeps_updateTaskStatus_iff (taskId : Str) (status : TaskStatus)
    (statusMessage : Option Str) (sessionId : Option Str) :
    Keeps store (store.updateTaskStatus taskId status statusMessage sessionId) ↔ Repeats store
        (.updateTaskStatus taskId status statusMessage sessionId) := by
  simp only [Repeats]
  cases hold : entry store taskId sessionId with
  | none =>
    have hsame : store.updateTaskStatus taskId status statusMessage
        sessionId = store := by
      simp only [InMemoryTaskStore.updateTaskStatus]
      rw [show (store.sessionTasks sessionId).lookup taskId = none from hold]
    rw [hsame]
    exact iff_of_true (keeps_refl store) (by simp)
  | some old =>
    have hput : store.updateTaskStatus taskId status statusMessage
        sessionId = put store taskId sessionId
          { old with task := { old.task with status, statusMessage } } := by
      simp only [InMemoryTaskStore.updateTaskStatus]
      rw [show (store.sessionTasks sessionId).lookup taskId = some old from hold]
      rfl
    rw [hput, keeps_put_iff hold]
    simp

theorem finalStays_iff_repeats (action : Action Req Res) :
    FinalStays store action ↔ Repeats store action := by
  cases action with
  | storeTaskResult taskId status result sessionId =>
    exact keeps_storeTaskResult_iff store taskId status result sessionId
  | updateTaskStatus taskId status statusMessage sessionId =>
    exact keeps_updateTaskStatus_iff store taskId status statusMessage sessionId
  | createTask | removeTask | expire => exact Iff.rfl

/-- In every run, what has ended is kept exactly when each call on such a task
repeats what it has. -/
theorem run_finalStays_iff (store : InMemoryTaskStore Req Res) (actions : List (Action Req Res)) :
    Lts.Along step FinalStays store actions ↔ Lts.Along step Repeats store actions :=
  @Lts.along_congr _ _ _ _ _ (fun _ => True) (fun _ _ => trivial)
    (fun _ action => finalStays_iff_repeats _ action) _ trivial actions

end

namespace TaskFinalityWitness

attribute [local instance] SchemaCrate.protocol

def start : InMemoryTaskStore Unit Nat :=
  .new 1250 (Nat.pow 2 63)

def taskId : Str :=
  start.idGen.idFor 0

/-- A task that is completed with one result is then failed with another. -/
def overwritten : List (Action Unit Nat) :=
  [.createTask 0 ⟨none, none⟩ () none,
    .storeTaskResult taskId .completed 1 none,
    .storeTaskResult taskId .failed 2 none]

theorem overwritten_not_finalStays : ¬ Lts.Along step FinalStays start overwritten := by
  intro halong
  have hkeeps := (halong.2 _ rfl).2 _ rfl |>.1 taskId none
    _ _ rfl rfl rfl
  exact absurd hkeeps.1 (by decide)

def reopened : List (Action Unit Nat) :=
  [.createTask 0 ⟨none, none⟩ () none,
    .updateTaskStatus taskId .cancelled none none,
    .updateTaskStatus taskId .working none none]

theorem reopened_not_finalStays : ¬ Lts.Along step FinalStays start reopened := by
  intro halong
  have hkeeps := (halong.2 _ rfl).2 _ rfl |>.1 taskId none
    _ _ rfl rfl rfl
  exact absurd hkeeps.1 (by decide)

end TaskFinalityWitness

end McpSdk.TaskFinality
