/-
What the operations of the task store do to the entries, to the list of ids of
each session, and to the keys of the poll schedule.
-/
import McpSdk.TaskStore

namespace McpSdk

open List Option

abbrev TaskKey : Type := Str × Option Str

namespace InMemoryTaskStore

variable {Req Res : Type} (self : InMemoryTaskStore Req Res)

/-- The entry of a task: `get_task` of the inner store. -/
def getEntry (key : TaskKey) : Option (TaskEntry Req Res) :=
  (self.sessionTasks key.2).lookup key.1

def Stored (key : TaskKey) : Prop :=
  (self.getEntry key).isSome = true

instance (self : InMemoryTaskStore Req Res) (key : TaskKey) : Decidable (self.Stored key) :=
  inferInstanceAs (Decidable (_ = true))

def sessionIds (sessionId : Option Str) : List Str :=
  (self.orderedTaskIds.lookup sessionId).getD []

def nextKey (sessionId : Option Str) : TaskKey :=
  (self.idGen.generate.1, sessionId)

theorem getTask_eq_map_getEntry (taskId : Str) (sessionId : Option Str) :
    self.getTask taskId sessionId = (self.getEntry (taskId, sessionId)).map (·.task) := rfl

theorem getEntry_insert (sessionId : Option Str)
    (sessionMap : AList fun _ => TaskEntry Req Res) (key : TaskKey) :
    { self with tasks := self.tasks.insert sessionId sessionMap }.getEntry
        key =
      if key.2 = sessionId then sessionMap.lookup key.1
      else self.getEntry key := by
  unfold getEntry sessionTasks
  split
  · next heq =>
    subst heq
    simp
  · next hne => rw [AList.lookup_insert_ne hne]

theorem sessionIds_insert (sessionId : Option Str) (ids : List Str) (other : Option Str) :
    { self with
      orderedTaskIds := self.orderedTaskIds.insert sessionId ids }.sessionIds
        other =
      if other = sessionId then ids else self.sessionIds other := by
  unfold sessionIds
  split
  · next heq =>
    subst heq
    simp
  · next hne => rw [AList.lookup_insert_ne hne]

theorem getEntry_insert_insert (key other : TaskKey) (entry : TaskEntry Req Res) :
    { self with
      tasks := self.tasks.insert key.2
        ((self.sessionTasks key.2).insert key.1 entry) }.getEntry other =
      if other = key then some entry else self.getEntry other := by
  rw [getEntry_insert]
  by_cases hsession : other.2 = key.2
  · rw [if_pos hsession]
    by_cases hid : other.1 = key.1
    · rw [if_pos (Prod.ext hid hsession), hid, AList.lookup_insert]
    · rw [if_neg fun heq => hid (congrArg Prod.fst heq),
        AList.lookup_insert_ne hid, getEntry, hsession]
  · rw [if_neg hsession, if_neg fun heq => hsession (congrArg Prod.snd heq)]

def newEntry (now : Nat) (taskParams : CreateTaskOptions) (request : Req)
    (sessionId : Option Str) : TaskEntry Req Res :=
  ⟨(self.createTask now taskParams request sessionId).1, request, none⟩

theorem getEntry_createTask (now : Nat)
    (taskParams : CreateTaskOptions) (request : Req) (sessionId : Option Str) (key : TaskKey) :
    (self.createTask now taskParams request sessionId).2.getEntry key =
      if key = self.nextKey sessionId then
        some (self.newEntry now taskParams request sessionId)
      else self.getEntry key :=
  self.getEntry_insert_insert (self.nextKey sessionId) key
    (self.newEntry now taskParams request sessionId)

theorem sessionIds_createTask (now : Nat)
    (taskParams : CreateTaskOptions) (request : Req) (sessionId other : Option Str) :
    (self.createTask now taskParams request sessionId).2.sessionIds other =
      if other = sessionId then
        (self.nextKey sessionId).1 :: self.sessionIds sessionId
      else self.sessionIds other :=
  self.sessionIds_insert sessionId _ other

theorem getEntry_removeTask (removed key : TaskKey) :
    (self.removeTask removed.1 removed.2).getEntry key =
      if key = removed then none else self.getEntry key := by
  unfold removeTask
  split
  · next sessionMap hmap =>
    rw [getEntry_insert]
    by_cases hsession : key.2 = removed.2
    · rw [if_pos hsession]
      have hold : self.getEntry key = sessionMap.lookup key.1 := by
        rw [← hsession] at hmap
        simp [getEntry, sessionTasks, hmap]
      by_cases hid : key.1 = removed.1
      · rw [if_pos (Prod.ext hid hsession), hid, AList.lookup_erase]
      · rw [if_neg fun heq => hid (congrArg Prod.fst heq), AList.lookup_erase_ne hid, hold]
    · rw [if_neg hsession, if_neg fun heq => hsession (congrArg Prod.snd heq)]
  · next hmap =>
    split
    · next heq =>
      subst heq
      simp [getEntry, sessionTasks, hmap]
    · rfl

theorem sessionIds_removeTask (taskId : Str) (sessionId other : Option Str) :
    (self.removeTask taskId sessionId).sessionIds other = self.sessionIds other := by
  unfold removeTask
  split
  · rfl
  · rfl

theorem getD_lookup_foldl_erase {κ ν : Type} [DecidableEq κ] {default : ν} {isDefault : ν → Bool}
    (hdefault : ∀ value, isDefault value = true → value = default) (keys : List κ)
    (map : AList fun _ : κ => ν) (key : κ) :
    ((keys.foldl (fun map other =>
        if isDefault ((map.lookup other).getD default) then map.erase other
        else map) map).lookup key).getD default =
      (map.lookup key).getD default := by
  induction keys generalizing map with
  | nil => rfl
  | cons other keys ih =>
    rw [foldl_cons, ih]
    split
    · next htrivial =>
      by_cases heq : key = other
      · subst heq
        rw [AList.lookup_erase, hdefault _ htrivial]
        rfl
      · rw [AList.lookup_erase_ne heq]
    · rfl

theorem getEntry_retainNonEmpty (key : TaskKey) :
    self.retainNonEmpty.getEntry key = self.getEntry key := by
  have hempty : ∀ map : AList fun _ : Str => TaskEntry Req Res,
      map.entries.isEmpty = true → map = ∅ := by
    intro map hmap
    exact AList.ext (isEmpty_iff.mp hmap)
  exact congrArg (AList.lookup key.1)
    (getD_lookup_foldl_erase hempty self.tasks.keys self.tasks key.2)

theorem sessionIds_retainNonEmpty (sessionId : Option Str) :
    self.retainNonEmpty.sessionIds sessionId = self.sessionIds sessionId :=
  getD_lookup_foldl_erase (fun _ => isEmpty_iff.mp)
    self.orderedTaskIds.keys self.orderedTaskIds sessionId

theorem getEntry_expire (cleanup : Cleanup) (key : TaskKey) :
    (self.expire cleanup).getEntry key =
      if key = (cleanup.taskId, cleanup.sessionId) then none
      else self.getEntry key := by
  rw [← self.getEntry_removeTask (cleanup.taskId, cleanup.sessionId)]
  refine Eq.trans (getEntry_retainNonEmpty _ key) ?_
  split
  · rfl
  · rfl

theorem sessionIds_expire (cleanup : Cleanup) (sessionId : Option Str) :
    (self.expire cleanup).sessionIds sessionId =
      if sessionId = cleanup.sessionId then
        (self.sessionIds sessionId).erase cleanup.taskId
      else self.sessionIds sessionId := by
  refine Eq.trans (sessionIds_retainNonEmpty _ sessionId) ?_
  have hremoved := self.sessionIds_removeTask cleanup.taskId cleanup.sessionId
  simp only [← hremoved sessionId]
  split
  · next ids hids =>
    rw [sessionIds_insert]
    refine if_ctx_congr Iff.rfl ?_ fun _ => rfl
    rintro rfl
    rw [sessionIds, hids]
    rfl
  · next hids =>
    split
    · next heq =>
      subst heq
      simp [sessionIds, hids]
    · rfl

theorem getEntry_modify (changed : TaskKey)
    (change : TaskEntry Req Res → TaskEntry Req Res) (key : TaskKey) :
    (match (self.sessionTasks changed.2).lookup changed.1 with
      | some entry =>
        { self with
          tasks := self.tasks.insert changed.2
            ((self.sessionTasks changed.2).insert changed.1 (change entry)) }
      | none => self).getEntry key =
      if key = changed then (self.getEntry key).map change
      else self.getEntry key := by
  split
  · next entry hentry =>
    rw [getEntry_insert_insert]
    refine if_ctx_congr Iff.rfl ?_ fun _ => rfl
    rintro rfl
    rw [getEntry, hentry]
    rfl
  · next hentry =>
    split
    · next heq =>
      subst heq
      rw [getEntry, hentry]
      rfl
    · rfl

theorem getEntry_storeTaskResult (changed : TaskKey)
    (status : TaskStatus) (result : Res) (key : TaskKey) :
    (self.storeTaskResult changed.1 status result changed.2).getEntry key =
      if key = changed then
        (self.getEntry key).map fun entry =>
          { entry with
            task := { entry.task with status, statusMessage := none }
            result := some result }
      else self.getEntry key :=
  self.getEntry_modify changed _ key

theorem getEntry_updateTaskStatus (changed : TaskKey)
    (status : TaskStatus) (statusMessage : Option Str) (key : TaskKey) :
    (self.updateTaskStatus changed.1 status statusMessage changed.2).getEntry key =
      if key = changed then
        (self.getEntry key).map fun entry =>
          { entry with task := { entry.task with status, statusMessage } }
      else self.getEntry key :=
  self.getEntry_modify changed _ key

theorem sessionIds_storeTaskResult (taskId : Str)
    (status : TaskStatus) (result : Res) (sessionId other : Option Str) :
    (self.storeTaskResult taskId status result sessionId).sessionIds other =
      self.sessionIds other := by
  unfold storeTaskResult
  split
  · rfl
  · rfl

theorem sessionIds_updateTaskStatus (taskId : Str)
    (status : TaskStatus) (statusMessage : Option Str) (sessionId other : Option Str) :
    (self.updateTaskStatus taskId status statusMessage
        sessionId).sessionIds other = self.sessionIds other := by
  unfold updateTaskStatus
  split
  · rfl
  · rfl

theorem updateTaskStatus_frame (taskId : Str)
    (status : TaskStatus) (statusMessage : Option Str) (sessionId : Option Str) :
    (self.updateTaskStatus taskId status statusMessage sessionId).idGen = self.idGen ∧
      (self.updateTaskStatus taskId status statusMessage
        sessionId).scheduleKeys = self.scheduleKeys := by
  unfold updateTaskStatus
  split
  · exact ⟨rfl, rfl⟩
  · exact ⟨rfl, rfl⟩

variable {self : InMemoryTaskStore Req Res}

theorem not_stored_iff {key : TaskKey} : ¬ self.Stored key ↔ self.getEntry key = none := by
  rw [Stored, Bool.not_eq_true, isSome_eq_false_iff, isNone_iff_eq_none]

theorem stored_createTask {now : Nat} {taskParams : CreateTaskOptions}
    {request : Req} {sessionId : Option Str} {key : TaskKey} :
    (self.createTask now taskParams request sessionId).2.Stored key ↔
      key = self.nextKey sessionId ∨ self.Stored key := by
  rw [Stored, getEntry_createTask]
  split
  · next heq => simp [heq]
  · next hne => simp [hne, Stored]

theorem stored_removeTask {removed key : TaskKey} :
    (self.removeTask removed.1 removed.2).Stored key ↔ key ≠ removed ∧ self.Stored key := by
  rw [Stored, getEntry_removeTask]
  split
  · next heq => simp [heq]
  · next hne => simp [hne, Stored]

theorem stored_expire {cleanup : Cleanup} {key : TaskKey} :
    (self.expire cleanup).Stored key ↔
      key ≠ (cleanup.taskId, cleanup.sessionId) ∧ self.Stored key := by
  rw [Stored, getEntry_expire, ← self.getEntry_removeTask (cleanup.taskId, cleanup.sessionId)]
  exact stored_removeTask

theorem stored_storeTaskResult {taskId : Str} {status : TaskStatus} {result : Res}
    {sessionId : Option Str} {key : TaskKey} :
    (self.storeTaskResult taskId status result sessionId).Stored key ↔ self.Stored key := by
  rw [Stored, self.getEntry_storeTaskResult (taskId, sessionId)]
  split
  · rw [isSome_map, Stored]
  · rfl

theorem stored_updateTaskStatus {taskId : Str} {status : TaskStatus} {statusMessage : Option Str}
    {sessionId : Option Str} {key : TaskKey} :
    (self.updateTaskStatus taskId status statusMessage sessionId).Stored key ↔ self.Stored key := by
  rw [Stored, self.getEntry_updateTaskStatus (taskId, sessionId)]
  split
  · rw [isSome_map, Stored]
  · rfl

theorem pushPoll_perm (poll : ScheduledPoll) (schedule : List ScheduledPoll) :
    (pushPoll poll schedule).Perm (poll :: schedule) := by
  induction schedule with
  | nil => exact .refl _
  | cons head rest ih =>
    rw [pushPoll]
    split
    · exact .refl _
    · exact (ih.cons head).trans (.swap poll head rest)

theorem scheduleKeys_createTask_perm (self : InMemoryTaskStore Req Res) (now : Nat)
    (taskParams : CreateTaskOptions) (request : Req) (sessionId : Option Str) :
    (self.createTask now taskParams request sessionId).2.scheduleKeys.Perm
      (self.nextKey sessionId :: self.scheduleKeys) :=
  (pushPoll_perm _ self.pollSchedule).map _

/-- Every task that is to be scheduled again gets one poll. -/
theorem pollSchedule_reSchedule_perm (self : InMemoryTaskStore Req Res)
    (now : Nat) (tasks : List (Str × Option Str × Int)) :
    (self.reSchedule now tasks).pollSchedule.Perm
      (tasks.map (fun task => ⟨self.nextPollAt now task.2.2, task.1, task.2.1⟩) ++
        self.pollSchedule) := by
  change (tasks.foldl (fun schedule task =>
      pushPoll ⟨self.nextPollAt now task.2.2, task.1, task.2.1⟩ schedule)
      self.pollSchedule).Perm _
  generalize self.pollSchedule = schedule
  induction tasks generalizing schedule with
  | nil => exact .refl _
  | cons task tasks ih =>
    refine (ih _).trans ?_
    refine ((pushPoll_perm _ schedule).append_left _).trans ?_
    exact perm_middle

theorem scheduleKeys_reSchedule_perm (self : InMemoryTaskStore Req Res) (now : Nat)
    (tasks : List (Str × Option Str × Int)) :
    (self.reSchedule now tasks).scheduleKeys.Perm (pollKeys tasks ++ self.scheduleKeys) := by
  have hperm := (self.pollSchedule_reSchedule_perm now tasks).map
    fun poll => (poll.taskId, poll.sessionId)
  rwa [List.map_append, List.map_map] at hperm

end InMemoryTaskStore

end McpSdk
