/-
The in-memory task store: tasks by session and id, and the schedule of the
polls. Instants and durations are milliseconds.
-/
import Mathlib.Data.List.AList
import McpSdk.FastIdGenerator

namespace McpSdk

open List

inductive TaskStatus where
  | cancelled
  | completed
  | failed
  | inputRequired
  | working
deriving Repr, DecidableEq

/-- `TaskStatus::is_terminal` is a method of the schema crate. -/
class SchemaCrate where
  isTerminal : TaskStatus → Bool

/-- The statuses that are terminal in the protocol. -/
@[reducible] def SchemaCrate.protocol : SchemaCrate where
  isTerminal
    | .cancelled | .completed | .failed => true
    | .inputRequired | .working => false

def TaskStatus.isTerminal [schema : SchemaCrate] (status : TaskStatus) : Bool :=
  schema.isTerminal status

structure Task where
  taskId : Str
  status : TaskStatus
  pollInterval : Option Int
  ttl : Option Int
  statusMessage : Option Str
deriving Repr, DecidableEq

structure CreateTaskOptions where
  ttl : Option Int
  pollInterval : Option Int
deriving Repr, DecidableEq

structure TaskEntry (Req Res : Type) where
  task : Task
  request : Req
  result : Option Res

/-- One entry of the schedule; the earliest comes first. -/
structure ScheduledPoll where
  nextPollAt : Nat
  taskId : Str
  sessionId : Option Str
deriving Repr, DecidableEq

/-- The cleanup that is started with a task that has a time to live. -/
structure Cleanup where
  expiresAt : Nat
  taskId : Str
  sessionId : Option Str
deriving Repr, DecidableEq

structure InMemoryTaskStore (Req Res : Type) where
  idGen : FastIdGenerator
  tasks : AList fun _ : Option Str => AList fun _ : Str => TaskEntry Req Res
  orderedTaskIds : AList fun _ : Option Str => List Str
  pollSchedule : List ScheduledPoll
  cleanups : List Cleanup
  defaultPollInterval : Int
  /-- The last instant that the platform's clock can represent. -/
  lastInstant : Nat

/-- The order of the tuples in the heap. -/
def ScheduledPoll.before (left right : ScheduledPoll) : Bool :=
  if left.nextPollAt ≠ right.nextPollAt then
    left.nextPollAt < right.nextPollAt
  else if left.taskId ≠ right.taskId then left.taskId < right.taskId
  else match left.sessionId, right.sessionId with
    | none, some _ => true
    | some leftId, some rightId => leftId < rightId
    | _, none => false

def asU64 (n : Int) : Nat :=
  (n % (Nat.pow 2 64 : Nat)).toNat

/-- Put a poll at its place in the schedule. -/
def pushPoll (poll : ScheduledPoll) : List ScheduledPoll → List ScheduledPoll
  | [] => [poll]
  | head :: rest =>
    if poll.before head then poll :: head :: rest
    else head :: pushPoll poll rest

theorem mem_pushPoll {poll other : ScheduledPoll} {schedule : List ScheduledPoll} :
    other ∈ pushPoll poll schedule ↔ other = poll ∨ other ∈ schedule := by
  induction schedule with
  | nil => simp [pushPoll]
  | cons head rest ih =>
    rw [pushPoll]
    split
    · simp
    · rw [mem_cons, ih, mem_cons]
      exact or_left_comm

namespace InMemoryTaskStore

variable {Req Res : Type}

def new (defaultPollInterval : Int) (lastInstant : Nat) : InMemoryTaskStore Req Res :=
  { idGen := .new (some "tsk")
    tasks := ∅
    orderedTaskIds := ∅
    pollSchedule := []
    cleanups := []
    defaultPollInterval
    lastInstant }

/-- `checked_add` with the interval, or the present when that overflows. -/
def nextPollAt (self : InMemoryTaskStore Req Res) (now : Nat) (interval : Int) : Nat :=
  if now + asU64 interval ≤ self.lastInstant then now + asU64 interval
  else now

def sessionTasks (self : InMemoryTaskStore Req Res) (sessionId : Option Str) :
    AList fun _ : Str => TaskEntry Req Res :=
  (self.tasks.lookup sessionId).getD ∅

def getTask (self : InMemoryTaskStore Req Res) (taskId : Str)
    (sessionId : Option Str) : Option Task :=
  ((self.sessionTasks sessionId).lookup taskId).map (·.task)

def createTask (self : InMemoryTaskStore Req Res) (now : Nat) (taskParams : CreateTaskOptions)
    (request : Req) (sessionId : Option Str) : Task × InMemoryTaskStore Req Res :=
  let (taskId, idGen) := self.idGen.generate
  let task : Task :=
    { taskId
      status := .working
      pollInterval := taskParams.pollInterval
      ttl := taskParams.ttl
      statusMessage := none }
  let poll : ScheduledPoll :=
    { nextPollAt := self.nextPollAt now (taskParams.pollInterval.getD self.defaultPollInterval)
      taskId
      sessionId }
  (task,
    { self with
      idGen
      tasks := self.tasks.insert sessionId
        ((self.sessionTasks sessionId).insert taskId ⟨task, request, none⟩)
      orderedTaskIds := self.orderedTaskIds.insert sessionId
        (taskId :: (self.orderedTaskIds.lookup sessionId).getD [])
      pollSchedule := pushPoll poll self.pollSchedule
      cleanups := match taskParams.ttl with
        | some ttl => self.cleanups ++ [⟨now + asU64 ttl, taskId, sessionId⟩]
        | none => self.cleanups })

/-- `remove_task`, which leaves the list of ids as it is. -/
def removeTask (self : InMemoryTaskStore Req Res) (taskId : Str)
    (sessionId : Option Str) : InMemoryTaskStore Req Res :=
  match self.tasks.lookup sessionId with
  | some sessionMap =>
    { self with
      tasks := self.tasks.insert sessionId (sessionMap.erase taskId) }
  | none => self

/-- Drop the entries of sessions that hold nothing any more. -/
def retainNonEmpty (self : InMemoryTaskStore Req Res) : InMemoryTaskStore Req Res :=
  { self with
    tasks := self.tasks.keys.foldl (fun tasks sessionId =>
      if ((tasks.lookup sessionId).getD ∅).entries.isEmpty then
        tasks.erase sessionId
      else tasks) self.tasks
    orderedTaskIds := self.orderedTaskIds.keys.foldl (fun ids sessionId =>
      if ((ids.lookup sessionId).getD []).isEmpty then ids.erase sessionId
      else ids) self.orderedTaskIds }

/-- A task that has outlived its time is removed; its poll stays. -/
def expire (self : InMemoryTaskStore Req Res) (cleanup : Cleanup) : InMemoryTaskStore Req Res :=
  let removed := self.removeTask cleanup.taskId cleanup.sessionId
  let unlisted := match removed.orderedTaskIds.lookup cleanup.sessionId with
    | some ids =>
      { removed with
        orderedTaskIds := removed.orderedTaskIds.insert cleanup.sessionId
          (ids.erase cleanup.taskId) }
    | none => removed
  { unlisted.retainNonEmpty with cleanups := self.cleanups.erase cleanup }

def tasksToPoll (self : InMemoryTaskStore Req Res) (now : Nat) :
    List (Str × Option Str) × InMemoryTaskStore Req Res :=
  ((self.pollSchedule.takeWhile (·.nextPollAt ≤ now)).map fun poll => (poll.taskId, poll.sessionId),
    { self with
      pollSchedule := self.pollSchedule.dropWhile (·.nextPollAt ≤ now) })

def reSchedule (self : InMemoryTaskStore Req Res) (now : Nat)
    (tasks : List (Str × Option Str × Int)) : InMemoryTaskStore Req Res :=
  { self with
    pollSchedule := tasks.foldl (fun schedule task =>
      pushPoll ⟨self.nextPollAt now task.2.2, task.1, task.2.1⟩ schedule)
      self.pollSchedule }

def storeTaskResult (self : InMemoryTaskStore Req Res) (taskId : Str) (status : TaskStatus)
    (result : Res) (sessionId : Option Str) : InMemoryTaskStore Req Res :=
  match (self.sessionTasks sessionId).lookup taskId with
  | some entry =>
    let task := { entry.task with status, statusMessage := none }
    { self with
      tasks := self.tasks.insert sessionId
        ((self.sessionTasks sessionId).insert taskId { entry with task, result := some result }) }
  | none => self

def updateTaskStatus (self : InMemoryTaskStore Req Res) (taskId : Str) (status : TaskStatus)
    (statusMessage : Option Str) (sessionId : Option Str) : InMemoryTaskStore Req Res :=
  match (self.sessionTasks sessionId).lookup taskId with
  | some entry =>
    let task := { entry.task with status, statusMessage }
    { self with
      tasks := self.tasks.insert sessionId
        ((self.sessionTasks sessionId).insert taskId { entry with task }) }
  | none => self

def scheduleKeys (self : InMemoryTaskStore Req Res) : List (Str × Option Str) :=
  self.pollSchedule.map fun poll => (poll.taskId, poll.sessionId)

variable (self : InMemoryTaskStore Req Res)

theorem createTask_taskId (now : Nat) (taskParams : CreateTaskOptions)
    (request : Req) (sessionId : Option Str) :
    (self.createTask now taskParams request sessionId).1.taskId =
      self.idGen.idFor self.idGen.counter := rfl

theorem createTask_idGen (now : Nat) (taskParams : CreateTaskOptions)
    (request : Req) (sessionId : Option Str) :
    (self.createTask now taskParams request sessionId).2.idGen =
      { self.idGen with counter := self.idGen.counter + 1 } := rfl

theorem mem_scheduleKeys_createTask {self : InMemoryTaskStore Req Res}
    {now : Nat} {taskParams : CreateTaskOptions} {request : Req}
    {sessionId : Option Str} {key : Str × Option Str}
    (hkey : key ∈ (self.createTask now taskParams request sessionId).2.scheduleKeys) :
    key = ((self.createTask now taskParams request sessionId).1.taskId,
        sessionId) ∨ key ∈ self.scheduleKeys := by
  obtain ⟨poll, hpoll, rfl⟩ := mem_map.mp hkey
  rcases mem_pushPoll.mp hpoll with rfl | hold
  · exact .inl rfl
  · exact .inr (mem_map_of_mem hold)

theorem removeTask_frame (taskId : Str) (sessionId : Option Str) :
    (self.removeTask taskId sessionId).idGen = self.idGen ∧
      (self.removeTask taskId sessionId).scheduleKeys = self.scheduleKeys := by
  unfold removeTask
  split
  · exact ⟨rfl, rfl⟩
  · exact ⟨rfl, rfl⟩

theorem expire_frame (cleanup : Cleanup) :
    (self.expire cleanup).idGen = self.idGen ∧
      (self.expire cleanup).scheduleKeys = self.scheduleKeys := by
  have hremoved := self.removeTask_frame cleanup.taskId cleanup.sessionId
  unfold expire
  simp only
  split
  · exact hremoved
  · exact hremoved

theorem storeTaskResult_frame (taskId : Str) (status : TaskStatus)
    (result : Res) (sessionId : Option Str) :
    (self.storeTaskResult taskId status result sessionId).idGen = self.idGen ∧
      (self.storeTaskResult taskId status result sessionId).scheduleKeys = self.scheduleKeys := by
  unfold storeTaskResult
  split
  · exact ⟨rfl, rfl⟩
  · exact ⟨rfl, rfl⟩

theorem tasksToPoll_append (now : Nat) :
    (self.tasksToPoll now).1 ++ (self.tasksToPoll now).2.scheduleKeys = self.scheduleKeys := by
  rw [tasksToPoll, scheduleKeys, scheduleKeys, ← map_append, takeWhile_append_dropWhile]

def pollKeys (tasks : List (Str × Option Str × Int)) : List (Str × Option Str) :=
  tasks.map fun task => (task.1, task.2.1)

theorem pollKeys_append (left right : List (Str × Option Str × Int)) :
    pollKeys (left ++ right) = pollKeys left ++ pollKeys right :=
  map_append

theorem mem_scheduleKeys_reSchedule {self : InMemoryTaskStore Req Res} {now : Nat}
    {tasks : List (Str × Option Str × Int)} {key : Str × Option Str}
    (hkey : key ∈ (self.reSchedule now tasks).scheduleKeys) :
    key ∈ pollKeys tasks ∨ key ∈ self.scheduleKeys := by
  obtain ⟨poll, hpoll, rfl⟩ := mem_map.mp hkey
  -- the schedule grows by one poll for each task
  have hgrow : ∀ schedule : List ScheduledPoll,
      poll ∈ tasks.foldl (fun schedule task =>
        pushPoll ⟨self.nextPollAt now task.2.2, task.1, task.2.1⟩ schedule)
        schedule →
      (poll.taskId, poll.sessionId) ∈ pollKeys tasks ∨ poll ∈ schedule := by
    clear hpoll hkey
    induction tasks with
    | nil => exact fun _ hpoll => .inr hpoll
    | cons task tasks ih =>
      intro schedule hpoll
      rcases ih _ hpoll with hlater | hpushed
      · exact .inl (mem_cons_of_mem _ hlater)
      · rcases mem_pushPoll.mp hpushed with rfl | hold
        · exact .inl mem_cons_self
        · exact .inr hold
  rcases hgrow self.pollSchedule hpoll with hnew | hold
  · exact .inl hnew
  · exact .inr (mem_map_of_mem hold)

end InMemoryTaskStore

end McpSdk
