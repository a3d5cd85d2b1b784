/-
A client that lists the tasks of a session page by page while tasks come and
expire. When the task that the cursor names has expired, the walk starts again.
-/
import McpSdk.CursorWalk
import McpSdk.TaskIndexes

namespace McpSdk

namespace InMemoryTaskStore

open List Option

variable {Req Res : Type}

def listTasks (self : InMemoryTaskStore Req Res) (pageSize : Nat) (cursor : Option Str)
    (sessionId : Option Str) : List Task × Option Str :=
  match self.orderedTaskIds.lookup sessionId with
  | none => ([], none)
  | some orderedIds =>
    let startIdx := (cursor.bind fun taskId =>
      orderedIds.findIdx? (· = taskId)).getD 0
    let endIdx := min (startIdx + pageSize) orderedIds.length
    let pageIds := (orderedIds.drop startIdx).take (endIdx - startIdx)
    (pageIds.filterMap fun taskId => self.getTask taskId sessionId,
      if endIdx < orderedIds.length then orderedIds[endIdx]? else none)

theorem take_slice (ids : List Str) (startIdx pageSize : Nat) :
    (ids.drop startIdx).take (min (startIdx + pageSize) ids.length - startIdx) =
      (ids.drop startIdx).take pageSize := by
  rcases Nat.le_total (startIdx + pageSize) ids.length with hle | hge
  · rw [Nat.min_eq_left hle, Nat.add_sub_cancel_left]
  · rw [Nat.min_eq_right hge, take_of_length_le (by simp),
      take_of_length_le (by rw [List.length_drop]; omega)]

theorem getElem?_slice_end (ids : List Str) (endIdx : Nat) :
    (if min endIdx ids.length < ids.length then
      ids[min endIdx ids.length]? else none) = ids[endIdx]? := by
  rcases Nat.lt_or_ge endIdx ids.length with hlt | hge
  · rw [Nat.min_eq_left (Nat.le_of_lt hlt), if_pos hlt]
  · rw [Nat.min_eq_right hge, if_neg (Nat.lt_irrefl _), getElem?_eq_none hge]

theorem listTasks_eq (self : InMemoryTaskStore Req Res) (pageSize : Nat)
    (cursor : Option Str) (sessionId : Option Str) :
    self.listTasks pageSize cursor sessionId =
      ((CursorWalk.page pageSize (self.sessionIds sessionId) cursor).filterMap
          fun taskId => self.getTask taskId sessionId,
        CursorWalk.nextCursor pageSize (self.sessionIds sessionId) cursor) := by
  unfold listTasks sessionIds
  split
  · next hids =>
    rw [hids]
    simp [CursorWalk.page, CursorWalk.nextCursor]
  · next orderedIds hids =>
    rw [hids]
    simp only [getD_some, take_slice, getElem?_slice_end]
    rfl

def Named (self : InMemoryTaskStore Req Res) : Prop :=
  ∀ key entry, self.getEntry key = some entry → entry.task.taskId = key.1

theorem Named.createTask {self : InMemoryTaskStore Req Res} (hself : self.Named) (now : Nat)
    (taskParams : CreateTaskOptions) (request : Req) (sessionId : Option Str) :
    (self.createTask now taskParams request sessionId).2.Named := by
  intro key entry hentry
  rw [getEntry_createTask] at hentry
  split at hentry
  · next hkey =>
    cases hentry
    rw [hkey]
    rfl
  · exact hself key entry hentry

theorem Named.expire {self : InMemoryTaskStore Req Res} (hself : self.Named)
    (cleanup : Cleanup) : (self.expire cleanup).Named := by
  intro key entry hentry
  rw [getEntry_expire] at hentry
  split at hentry
  · cases hentry
  · exact hself key entry hentry

theorem Named.map_taskId_filterMap {self : InMemoryTaskStore Req Res} (hself : self.Named)
    {sessionId : Option Str} {taskIds : List Str}
    (hstored : ∀ taskId ∈ taskIds, self.Stored (taskId, sessionId)) :
    (taskIds.filterMap fun taskId => self.getTask taskId sessionId).map (·.taskId) = taskIds := by
  induction taskIds with
  | nil => rfl
  | cons taskId taskIds ih =>
    obtain ⟨entry, hentry⟩ := isSome_iff_exists.mp (hstored taskId List.mem_cons_self)
    have htask : self.getTask taskId sessionId = some entry.task := by
      rw [getTask_eq_map_getEntry, hentry]
      rfl
    simp only [filterMap_cons, htask, map_cons]
    rw [hself (taskId, sessionId) entry hentry,
      ih fun other hother => hstored other (mem_cons_of_mem _ hother)]

end InMemoryTaskStore

namespace TaskPages

section

variable [SchemaCrate] {Req Res : Type}

/-- Before the first request, with a cursor to follow, or at the end. -/
inductive Walk where
  | notStarted
  | following (cursor : Str)
  | finished
deriving Repr, DecidableEq

def Walk.cursor : Walk → Option Str
  | .following cursor => some cursor
  | _ => none

/-- `atStart` has the ids that the session had at the first request. -/
structure State (Req Res : Type) where
  base : PollLoop.State Req Res
  walk : Walk
  pages : List (List Task)
  atStart : List Str

/-- The client asks for a page, while the store changes. -/
inductive Action (Req : Type) where
  | tick (elapsed : Nat)
  | createTask (taskParams : CreateTaskOptions) (request : Req) (sessionId : Option Str)
  | expire (cleanup : Cleanup)
  /-- The client asks for its next page. -/
  | listTasks

/-- The client has asked for no page. -/
def initial (store : InMemoryTaskStore Req Res) (now : Nat) : State Req Res :=
  { base := PollLoop.initial store now
    walk := .notStarted
    pages := []
    atStart := [] }

/-- A page is returned, and the client follows its cursor. -/
def turnPage (pageSize : Nat) (sessionId : Option Str)
    (self : State Req Res) (cursor : Option Str) : State Req Res :=
  let result := self.base.store.listTasks pageSize cursor sessionId
  { self with
    walk := match result.2 with
      | some cursor => .following cursor
      | none => .finished
    pages := self.pages ++ [result.1] }

/-- A step of the store alone. -/
def baseStep (self : State Req Res) (action : PollLoop.Action Req Res) : Option (State Req Res) :=
  (PollLoop.step self.base action).map fun base => { self with base }

variable {self : State Req Res}

variable {next : State Req Res}

theorem baseStep_cases {action : PollLoop.Action Req Res}
    (hstep : baseStep self action = some next) :
    ∃ base, PollLoop.step self.base action = some base ∧
      next = { self with base } := by
  obtain ⟨base, hbase, hnext⟩ := Option.map_eq_some_iff.mp hstep
  exact ⟨base, hbase, hnext.symm⟩

/-- One page is asked for, or the store changes. -/
def step (pageSize : Nat) (sessionId : Option Str) (self : State Req Res) :
    Action Req → Option (State Req Res)
  | .tick elapsed => baseStep self (.tick elapsed)
  | .createTask taskParams request sessionId =>
    baseStep self (.createTask taskParams request sessionId)
  | .expire cleanup => baseStep self (.expire cleanup)
  | .listTasks =>
    match self.walk with
    | .notStarted =>
      some (turnPage pageSize sessionId
        { self with atStart := self.base.store.sessionIds sessionId } none)
    | .following cursor =>
      some (turnPage pageSize sessionId self (some cursor))
    | .finished => none

def returned (self : State Req Res) : List Str :=
  self.pages.flatten.map (·.taskId)

/-- The task that the cursor names is still stored. -/
def CursorStored (sessionId : Option Str) (self : State Req Res) :
    Action Req → Prop
  | .listTasks =>
    ∀ cursor ∈ self.walk.cursor, self.base.store.Stored (cursor, sessionId)
  | _ => True

instance (sessionId : Option Str) (self : State Req Res) :
    ∀ action : Action Req, Decidable (CursorStored sessionId self action)
  | .listTasks =>
    inferInstanceAs (Decidable (∀ cursor ∈ self.walk.cursor,
      self.base.store.Stored (cursor, sessionId)))
  | .tick _ | .createTask .. | .expire _ => isTrue trivial

/-- How far the client has come in the ids of its session. -/
inductive Advanced (sessionId : Option Str) (self : State Req Res) :
    Prop where
  | notStarted (hwalk : self.walk = .notStarted) (hpages : self.pages = [])
      (hstart : self.atStart = [])
  | following {cursor : Str} {pending : List Str}
      (hwalk : self.walk = .following cursor)
      (hprogress : CursorWalk.Progress (self.base.store.sessionIds sessionId)
        (some cursor) pending (returned self) self.atStart)
      (hpages : self.pages.length ≤ (returned self).length)
  | finished (hwalk : self.walk = .finished)
      (hprogress : CursorWalk.Progress (self.base.store.sessionIds sessionId)
        none [] (returned self) self.atStart)
      (hpages : self.pages.length ≤ (returned self).length + 1)

variable {sessionId : Option Str}

omit [SchemaCrate] in
theorem Advanced.change (hself : Advanced sessionId self) {base : PollLoop.State Req Res}
    (hchange : ∀ cursor pending, CursorWalk.Progress (self.base.store.sessionIds sessionId) cursor
      pending (returned self) self.atStart → ∃ later,
      CursorWalk.Progress (base.store.sessionIds sessionId) cursor later (returned self)
      self.atStart ∧ (pending = [] → later = [])) :
    Advanced sessionId { self with base } := by
  cases hself with
  | notStarted hwalk hpages hstart => exact .notStarted hwalk hpages hstart
  | following hwalk hprogress hpages =>
    obtain ⟨later, hlater, -⟩ := hchange _ _ hprogress
    exact .following hwalk hlater hpages
  | finished hwalk hprogress hpages =>
    obtain ⟨later, hlater, hnil⟩ := hchange _ _ hprogress
    rw [hnil rfl] at hlater
    exact .finished hwalk hlater hpages

/-- What holds of a walk as long as its cursor is spared. -/
structure Walking (sessionId : Option Str) (state : State Req Res) :
    Prop where
  sound : PollLoop.Sound state.base
  agree : PollLoop.IndexesAgree state.base
  named : state.base.store.Named
  known : ∀ taskId ∈ state.atStart, (taskId, sessionId) ∈ state.base.created
  advanced : Advanced sessionId state

omit [SchemaCrate] in
theorem initial_walking (sessionId : Option Str) (defaultPollInterval : Int)
    (lastInstant now : Nat) :
    Walking sessionId (initial (.new defaultPollInterval lastInstant) now :
      State Req Res) := by
  refine ⟨PollLoop.initial_sound .., PollLoop.initial_indexesAgree .., ?_, ?_,
    .notStarted rfl rfl rfl⟩
  · intro key entry hentry
    cases hentry
  · intro taskId htaskId
    cases htaskId

omit [SchemaCrate] in
theorem Walking.tick (hself : Walking sessionId self) (elapsed : Nat) :
    Advanced sessionId
      { self with base := { self.base with now := self.base.now + elapsed } } :=
  hself.advanced.change fun _ pending hprogress => ⟨pending, hprogress, id⟩

omit [SchemaCrate] in
theorem Walking.createTask {sessionId : Option Str} {self : State Req Res}
    (hself : Walking sessionId self) (taskParams : CreateTaskOptions) (request : Req)
    {taskSession : Option Str} (hfresh : self.base.store.nextKey taskSession ∉ self.base.created) :
    Advanced sessionId
      { self with
        base := { self.base with
          store := (self.base.store.createTask self.base.now taskParams request taskSession).2
          created := self.base.created ++
            [self.base.store.nextKey taskSession] } } := by
  refine hself.advanced.change ?_
  intro cursor pending hprogress
  refine ⟨pending, ?_, id⟩
  rw [InMemoryTaskStore.sessionIds_createTask]
  split
  · next heq =>
    subst heq
    refine hprogress.insert ?_ ?_
    · intro hlisted
      exact hfresh (hself.sound.scheduled.stored_created _ ((hself.agree.mem_iff _ _).mp hlisted))
    · intro hstart
      exact hfresh (hself.known _ hstart)
  · exact hprogress

omit [SchemaCrate] in
theorem Walking.expire {sessionId : Option Str} {self : State Req Res}
    (hself : Walking sessionId self) (cleanup : Cleanup) :
    Advanced sessionId
      { self with
        base := { self.base with
          store := self.base.store.expire cleanup } } := by
  refine hself.advanced.change ?_
  intro cursor pending hprogress
  rw [InMemoryTaskStore.sessionIds_expire]
  split
  · refine ⟨pending.erase cleanup.taskId, hprogress.erase _, ?_⟩
    rintro rfl
    rfl
  · exact ⟨pending, hprogress, id⟩

theorem Walking.base (hself : Walking sessionId self) {action : PollLoop.Action Req Res}
    {base : PollLoop.State Req Res} (hbase : PollLoop.step self.base action = some base)
    (hids : PollLoop.WithinIds base) (hkept : PollLoop.FinishedIsGone self.base action)
    (hnamed : base.store.Named) (hadvanced : Advanced sessionId { self with base }) :
    Walking sessionId { self with base } := by
  refine ⟨hself.sound.step hbase,
    (PollLoop.IndexesAgree.step_iff hself.sound hself.agree hids hbase).mpr
      hkept, hnamed, ?_, hadvanced⟩
  intro taskId htaskId
  exact (PollLoop.step_cases hbase).effect.created_prefix.subset (hself.known taskId htaskId)

variable {pageSize : Nat}

omit [SchemaCrate] in
theorem returned_turnPage (hagree : PollLoop.IndexesAgree self.base)
    (hnamed : self.base.store.Named) (cursor : Option Str) :
    returned (turnPage pageSize sessionId self cursor) = returned self ++ CursorWalk.page pageSize
        (self.base.store.sessionIds sessionId) cursor := by
  have hpage : ((self.base.store.listTasks pageSize cursor sessionId).1.map
      (·.taskId)) = CursorWalk.page pageSize
        (self.base.store.sessionIds sessionId) cursor := by
    rw [InMemoryTaskStore.listTasks_eq]
    refine hnamed.map_taskId_filterMap ?_
    intro taskId htaskId
    exact (hagree.mem_iff taskId sessionId).mp (List.mem_of_mem_drop (List.mem_of_mem_take htaskId))
  simp only [returned, turnPage, List.flatten_append, List.map_append]
  rw [← hpage]
  simp

omit [SchemaCrate] in
theorem advanced_turnPage {pageSize : Nat} (hpageSize : 0 < pageSize) {sessionId : Option Str}
    {self : State Req Res} (hagree : PollLoop.IndexesAgree self.base)
    (hnamed : self.base.store.Named) {cursor : Option Str} {pending : List Str}
    (hprogress : CursorWalk.Progress (self.base.store.sessionIds sessionId) cursor pending
      (returned self) self.atStart)
    (hstart : (self.base.store.sessionIds sessionId).drop (CursorWalk.startIndex
      (self.base.store.sessionIds sessionId) cursor) = pending)
    (hpages : self.pages.length ≤ (returned self).length) :
    Advanced sessionId (turnPage pageSize sessionId self cursor) := by
  obtain ⟨hpage, hnext, hturned⟩ := hprogress.turn hstart pageSize
  have hreturned : returned (turnPage pageSize sessionId self cursor) =
      returned self ++ CursorWalk.page pageSize (self.base.store.sessionIds sessionId) cursor :=
    returned_turnPage hagree hnamed cursor
  have hlength : (turnPage pageSize sessionId self cursor).pages.length =
      self.pages.length + 1 := by
    simp [turnPage]
  have hcursor := congrArg Prod.snd (self.base.store.listTasks_eq pageSize cursor sessionId)
  have hcount := congrArg List.length hreturned
  rw [hpage, List.length_append, List.length_take] at hcount
  rw [← hreturned] at hturned
  rw [hnext] at hcursor hturned
  cases hrest : pending.drop pageSize with
  | cons item rest =>
    rw [hrest, List.head?_cons] at hcursor hturned
    have hlong := congrArg List.length hrest
    rw [List.length_drop, List.length_cons] at hlong
    refine .following ?_ hturned (by omega)
    simp [turnPage, hcursor]
  | nil =>
    rw [hrest, List.head?_nil] at hcursor hturned
    refine .finished ?_ hturned ?_
    · simp [turnPage, hcursor]
    · omega

theorem Walking.listTasks (hpageSize : 0 < pageSize) (hself : Walking sessionId self)
    (hcursor : CursorStored sessionId self (.listTasks : Action Req))
    (hstep : step pageSize sessionId self .listTasks = some next) : Walking sessionId next := by
  simp only [step] at hstep
  split at hstep
  · next hwalk =>
    cases hstep
    refine ⟨hself.sound, hself.agree, hself.named, ?_, ?_⟩
    · intro taskId htaskId
      exact hself.sound.scheduled.stored_created _
        ((hself.agree.mem_iff taskId sessionId).mp htaskId)
    · have hpages : self.pages = [] := by
        cases hself.advanced with
        | notStarted _ hpages _ => exact hpages
        | following hother | finished hother => cases hwalk.symm.trans hother
      refine @advanced_turnPage _ _ _ hpageSize _ { self with
        atStart := self.base.store.sessionIds sessionId } hself.agree
        hself.named none _ ?_ rfl ?_
      · have hnil : returned { self with
            atStart := self.base.store.sessionIds sessionId } = [] := by
          rw [returned, hpages]
          rfl
        rw [hnil]
        exact .start (hself.agree.nodup sessionId)
      · rw [hpages]
        exact Nat.zero_le _
  · next cursor hwalk =>
    cases hstep
    have hstored := hcursor cursor (congrArg Walk.cursor hwalk)
    refine ⟨hself.sound, hself.agree, hself.named, hself.known, ?_⟩
    cases hself.advanced with
    | notStarted hother | finished hother => cases hwalk.symm.trans hother
    | following hother hprogress hpages =>
      cases hwalk.symm.trans hother
      have hlisted := (hself.agree.mem_iff cursor sessionId).mpr hstored
      exact advanced_turnPage hpageSize hself.agree hself.named hprogress
        (hprogress.drop_startIndex rfl hlisted) hpages
  · cases hstep

/-- A step that spares the cursor keeps the walk complete. -/
theorem Walking.step {pageSize : Nat} (hpageSize : 0 < pageSize) {sessionId : Option Str}
    {self next : State Req Res} {action : Action Req} (hself : Walking sessionId self)
    (hcursor : CursorStored sessionId self action)
    (hstep : TaskPages.step pageSize sessionId self action = some next)
    (hids : PollLoop.WithinIds next.base) : Walking sessionId next := by
  cases action with
  | tick elapsed =>
    change baseStep self (.tick elapsed) = some next at hstep
    obtain ⟨base, hbase, rfl⟩ := baseStep_cases hstep
    cases PollLoop.step_cases hbase
    exact hself.base hbase hids trivial hself.named (hself.tick elapsed)
  | createTask taskParams request taskSession =>
    change baseStep self (.createTask taskParams request taskSession) = some next at hstep
    obtain ⟨base, hbase, rfl⟩ := baseStep_cases hstep
    have hnodup := (hself.sound.step hbase).numbered.created_nodup hids
    cases PollLoop.step_cases hbase
    refine hself.base hbase hids trivial (hself.named.createTask _ _ _ _)
      (hself.createTask taskParams request ?_)
    intro hold
    exact (List.nodup_append.mp hnodup).2.2 _ hold _ List.mem_cons_self rfl
  | expire cleanup =>
    change baseStep self (.expire cleanup) = some next at hstep
    obtain ⟨base, hbase, rfl⟩ := baseStep_cases hstep
    cases PollLoop.step_cases hbase
    exact hself.base hbase hids trivial (hself.named.expire cleanup) (hself.expire cleanup)
  | listTasks => exact hself.listTasks hpageSize hcursor hstep

theorem withinIds_backward {action : Action Req}
    (hstep : step pageSize sessionId self action = some next)
    (hnext : PollLoop.WithinIds next.base) : PollLoop.WithinIds self.base := by
  cases action with
  | tick elapsed =>
    change baseStep self (.tick elapsed) = some next at hstep
    obtain ⟨base, hbase, rfl⟩ := baseStep_cases hstep
    exact PollLoop.withinIds_backward hbase hnext
  | createTask taskParams request taskSession =>
    change baseStep self (.createTask taskParams request taskSession) = some next at hstep
    obtain ⟨base, hbase, rfl⟩ := baseStep_cases hstep
    exact PollLoop.withinIds_backward hbase hnext
  | expire cleanup =>
    change baseStep self (.expire cleanup) = some next at hstep
    obtain ⟨base, hbase, rfl⟩ := baseStep_cases hstep
    exact PollLoop.withinIds_backward hbase hnext
  | listTasks =>
    simp only [step] at hstep
    split at hstep
    · cases hstep
      exact hnext
    · cases hstep
      exact hnext
    · cases hstep

/-- A run that spares the cursor keeps the walk complete. -/
theorem Walking.run (hpageSize : 0 < pageSize) {init final : State Req Res}
    {trace : List (Action Req)} (hinit : Walking sessionId init)
    (hcursor : Lts.Along (TaskPages.step pageSize sessionId) (CursorStored sessionId) init trace)
    (hrun : Lts.run (TaskPages.step pageSize sessionId) init trace = some final)
    (hids : PollLoop.WithinIds final.base) : Walking sessionId final :=
  @Lts.run_invariant _ _ (TaskPages.step pageSize sessionId)
    (CursorStored sessionId)
    (fun state => PollLoop.WithinIds state.base → Walking sessionId state)
    (fun hstate hcondition hstep hwithin =>
      (hstate (withinIds_backward hstep hwithin)).step hpageSize hcondition
        hstep hwithin)
    _ _ _ (fun _ => hinit) hcursor hrun hids

/-- In every run in which each cursor names a task that is still there, with at
most as many tasks as ids, for every positive page size: the walk returns no
task twice, needs at most one page more than there were tasks, and returns every
task that was there at the start and is there still. -/
theorem run_walk_complete {pageSize : Nat} (hpageSize : 0 < pageSize) {sessionId : Option Str}
    {defaultPollInterval : Int} {lastInstant now : Nat} {trace : List (Action Req)}
    {final : State Req Res}
    (hrun : Lts.run (step pageSize sessionId) (initial (.new defaultPollInterval lastInstant) now)
      trace = some final)
    (hcursor : Lts.Along (step pageSize sessionId) (CursorStored sessionId) (initial (.new
      defaultPollInterval lastInstant) now : State Req Res) trace)
    (hids : final.base.created.length ≤ Nat.pow 2 64) :
    (returned final).Nodup ∧ final.pages.length ≤ final.atStart.length + 1 ∧
      (final.walk = .finished → ∀ taskId ∈ final.atStart,
        final.base.store.Stored (taskId, sessionId) → taskId ∈ returned final) := by
  have hwalking := (initial_walking sessionId defaultPollInterval lastInstant
    now).run hpageSize hcursor hrun hids
  cases hwalking.advanced with
  | notStarted hwalk hpages hstart =>
    refine ⟨by simp [returned, hpages], by simp [hpages], ?_⟩
    intro hfinished
    cases hwalk.symm.trans hfinished
  | following hwalk hprogress hpages =>
    have hnodup := hprogress.distinct.sublist (List.sublist_append_left _ _)
    have hlength := (List.subperm_of_subset hprogress.distinct hprogress.subset).length_le
    rw [List.length_append] at hlength
    refine ⟨hnodup, by omega, ?_⟩
    intro hfinished
    cases hwalk.symm.trans hfinished
  | finished hwalk hprogress hpages =>
    have hnodup := hprogress.distinct.sublist (List.sublist_append_left _ _)
    have hlength := (List.subperm_of_subset hprogress.distinct hprogress.subset).length_le
    rw [List.length_append] at hlength
    refine ⟨hnodup, by omega, ?_⟩
    intro _ taskId htaskId hstored
    have hlisted := (hwalking.agree.mem_iff taskId sessionId).mpr hstored
    simpa using hprogress.covers taskId htaskId hlisted

end

namespace TaskPagesWitness

attribute [local instance] SchemaCrate.protocol

def start : State Unit Unit :=
  initial (.new 1250 (Nat.pow 2 63)) 0

def taskId (index : Nat) : Str :=
  TaskPolling.entryId index

/-- The task that the cursor names expires between the two pages. -/
def cursorExpires : List (Action Unit) :=
  [.createTask ⟨some 10, none⟩ () none, .createTask ⟨none, none⟩ () none,
    .listTasks, .tick 20, .expire ⟨10, taskId 0, none⟩, .listTasks]

theorem cursorExpires_returned_twice :
    ∃ final, Lts.run (step 1 none) start cursorExpires = some final ∧
      final.walk = .finished ∧ returned final = [taskId 1, taskId 1] := by
  have hfinal : (Lts.run (step 1 none) start cursorExpires).map
      (fun final => (final.walk, returned final)) =
        some (.finished, [taskId 1, taskId 1]) := by decide +kernel
  obtain ⟨final, hrun, hread⟩ := Option.map_eq_some_iff.mp hfinal
  rw [Prod.mk.injEq] at hread
  exact ⟨final, hrun, hread⟩

/-- A task that was returned expires, and another one is created. -/
def othersChange : List (Action Unit) :=
  [.createTask ⟨none, none⟩ () none, .createTask ⟨some 10, none⟩ () none,
    .listTasks, .tick 20, .expire ⟨10, taskId 1, none⟩,
    .createTask ⟨none, none⟩ () none, .listTasks]

theorem othersChange_complete :
    ∃ final, Lts.run (step 1 none) start othersChange = some final ∧
      final.walk = .finished ∧ (returned final).Nodup ∧ taskId 0 ∈ returned final := by
  have hfinal : (Lts.run (step 1 none) start othersChange).map
      (fun final => (final.walk, final.base.created.length,
        decide (taskId 0 ∈ final.atStart ∧ final.base.store.Stored (taskId 0, none)))) =
        some (.finished, 3, true) := by decide +kernel
  obtain ⟨final, hrun, hread⟩ := Option.map_eq_some_iff.mp hfinal
  simp only [Prod.mk.injEq, decide_eq_true_iff] at hread
  obtain ⟨hwalk, hcreated, hstart, hstored⟩ := hread
  have hids : final.base.created.length ≤ Nat.pow 2 64 := by
    rw [hcreated]
    decide
  obtain ⟨hnodup, -, hcomplete⟩ := run_walk_complete Nat.zero_lt_one hrun (by decide +kernel) hids
  exact ⟨final, hrun, hwalk, hnodup, hcomplete hwalk (taskId 0) hstart hstored⟩

end TaskPagesWitness

end TaskPages

end McpSdk
