/-
Calls of `wait_for_task_result` beside the polling loop. An entry has room for
one sender, so that a second call makes the first fail.
-/
import Mathlib.Logic.Function.Basic
import McpSdk.PollLoop

namespace McpSdk.TaskWaiters

open List Option

section

variable [SchemaCrate] {Req Res : Type}

/-- The result of a call, once there is one. -/
abbrev Waiter (Res : Type) : Type :=
  Option (Except Str (TaskStatus × Option Res))

/-- The `result_tx` of an entry by its call, and all calls that subscribed. -/
structure Slot where
  resultTx : Option Nat
  registered : List Nat
deriving Repr, DecidableEq

/-- The polled store, and the calls that wait for results. -/
structure State (Req Res : Type) where
  base : PollLoop.State Req Res
  slots : TaskKey → Slot
  waiters : List (Waiter Res)

/-- A step of the polled store, or of a waiting call. -/
inductive Action (Req Res : Type) where
  | base (action : PollLoop.Action Req Res)
  | waitForTaskResult (taskId : Str) (sessionId : Option Str)

/-- No call waits. -/
def initial (store : InMemoryTaskStore Req Res) (now : Nat) : State Req Res :=
  { base := PollLoop.initial store now
    slots := fun _ => ⟨none, []⟩
    waiters := [] }

/-- What `rx.await` gives when the sender was dropped. -/
def channelClosed : Except Str (TaskStatus × Option Res) :=
  .error "channel closed"

def answer (waiters : List (Waiter Res)) (call : Option Nat)
    (result : Except Str (TaskStatus × Option Res)) : List (Waiter Res) :=
  match call with
  | some index => waiters.set index (some result)
  | none => waiters

/-- An entry goes, and the call whose sender it holds gets a result. -/
def release (self : State Req Res) (key : TaskKey)
    (result : Except Str (TaskStatus × Option Res)) : State Req Res :=
  { self with
    slots := Function.update self.slots key ⟨none, []⟩
    waiters := answer self.waiters (self.slots key).resultTx result }

/-- The polling loop removes a finished task and sends what it has. -/
def sendResult (self : State Req Res) (task : TaskKey) (status : TaskStatus) : State Req Res :=
  match self.base.store.getEntry task with
  | some entry => release self task (.ok (status, entry.result))
  | none => self

/-- What becomes of the senders in the entries. -/
def dropSenders (self : State Req Res) :
    PollLoop.Action Req Res → State Req Res
  | .createTask _ _ sessionId =>
    release self (self.base.store.nextKey sessionId) channelClosed
  | .expire cleanup =>
    release self (cleanup.taskId, cleanup.sessionId) channelClosed
  | .reply (.ok (status, _)) =>
    match self.base.loop.current with
    | some task =>
      if status.isTerminal then sendResult self task status else self
    | none => self
  | _ => self

/-- `subscribe_to_task`: the new sender takes the place of the old one. -/
def subscribe (self : State Req Res) (key : TaskKey) : State Req Res :=
  { self with
    slots := Function.update self.slots key
      ⟨some self.waiters.length, (self.slots key).registered ++ [self.waiters.length]⟩
    waiters := answer self.waiters (self.slots key).resultTx channelClosed ++ [none] }

/-- The store or one waiting call takes a step. -/
def step (self : State Req Res) : Action Req Res → Option (State Req Res)
  | .base action =>
    (PollLoop.step self.base action).map
      fun base => { dropSenders self action with base }
  | .waitForTaskResult taskId sessionId =>
    if self.base.store.Stored (taskId, sessionId) then
      some (subscribe self (taskId, sessionId))
    else
      some { self with
        waiters := self.waiters ++ [some (.error "task does not exists!")] }

/-- The last call that has subscribed to a task waits; the others have failed. -/
structure Registered (state : State Req Res) : Prop where
  resultTx : ∀ key, (state.slots key).resultTx = (state.slots key).registered.getLast?
  nodup : ∀ key, (state.slots key).registered.Nodup
  disjoint : ∀ key other index, index ∈ (state.slots key).registered →
    index ∈ (state.slots other).registered → key = other
  waiting : ∀ key index, (state.slots key).resultTx = some index → state.waiters[index]? = some none
  replaced : ∀ key index, index ∈ (state.slots key).registered →
    (state.slots key).resultTx ≠ some index → state.waiters[index]? = some (some channelClosed)

omit [SchemaCrate] in
theorem initial_registered (store : InMemoryTaskStore Req Res) (now : Nat) :
    Registered (initial store now) := by
  refine ⟨fun _ => rfl, fun _ => nodup_nil, ?_, ?_, ?_⟩
  · intro key other index hindex
    cases hindex
  · intro key index hindex
    cases hindex
  · intro key index hindex
    cases hindex

variable {self : State Req Res} {index : Nat}

omit [SchemaCrate] in
theorem Registered.mem_of_resultTx (hself : Registered self) {key : TaskKey}
    (hindex : (self.slots key).resultTx = some index) : index ∈ (self.slots key).registered := by
  rw [hself.resultTx] at hindex
  exact mem_of_getLast? hindex

omit [SchemaCrate] in
theorem Registered.index_lt (hself : Registered self) {key : TaskKey}
    (hindex : index ∈ (self.slots key).registered) : index < self.waiters.length := by
  by_cases hlast : (self.slots key).resultTx = some index
  · exact (List.getElem?_eq_some_iff.mp (hself.waiting key index hlast)).1
  · exact (List.getElem?_eq_some_iff.mp (hself.replaced key index hindex hlast)).1

omit [SchemaCrate] in
theorem answer_length (waiters : List (Waiter Res)) (call : Option Nat)
    (result : Except Str (TaskStatus × Option Res)) :
    (answer waiters call result).length = waiters.length := by
  unfold answer
  split
  · exact length_set
  · rfl

omit [SchemaCrate] in
theorem getElem?_answer_of_ne {waiters : List (Waiter Res)} {call : Option Nat}
    (hne : call ≠ some index) (result : Except Str (TaskStatus × Option Res)) :
    (answer waiters call result)[index]? = waiters[index]? := by
  unfold answer
  split
  · next other => exact getElem?_set_ne fun heq => hne (congrArg some heq)
  · rfl

omit [SchemaCrate] in
theorem getElem?_answer_of_some {waiters : List (Waiter Res)} {old : Waiter Res}
    (hold : waiters[index]? = some old) (result : Except Str (TaskStatus × Option Res)) :
    (answer waiters (some index) result)[index]? = some (some result) := by
  rw [answer, CallList.getElem?_set_of_some hold, if_pos rfl]

omit [SchemaCrate] in
theorem Registered.resultTx_ne (hself : Registered self) {key other : TaskKey} (hne : other ≠ key)
    (hindex : index ∈ (self.slots other).registered) : (self.slots key).resultTx ≠ some index := by
  intro hlast
  exact hne (hself.disjoint other key index hindex (hself.mem_of_resultTx hlast))

omit [SchemaCrate] in
theorem Registered.release (hself : Registered self) (key : TaskKey)
    (result : Except Str (TaskStatus × Option Res)) : Registered (release self key result) := by
  have hslots : ∀ other, (TaskWaiters.release self key result).slots other =
      if other = key then ⟨none, []⟩ else self.slots other := by
    intro other
    exact Function.update_apply ..
  refine ⟨?_, ?_, ?_, ?_, ?_⟩
  · intro other
    rw [hslots]
    split
    · rfl
    · exact hself.resultTx other
  · intro other
    rw [hslots]
    split
    · exact nodup_nil
    · exact hself.nodup other
  · intro other third index hother hthird
    rw [hslots] at hother hthird
    split at hother
    · cases hother
    · split at hthird
      · cases hthird
      · exact hself.disjoint other third index hother hthird
  · intro other index hindex
    rw [hslots] at hindex
    split at hindex
    · cases hindex
    · next hne =>
      refine Eq.trans (getElem?_answer_of_ne ?_ result) (hself.waiting other index hindex)
      exact hself.resultTx_ne hne (hself.mem_of_resultTx hindex)
  · intro other index hindex hlast
    rw [hslots] at hindex hlast
    split at hindex
    · cases hindex
    · next hne =>
      rw [if_neg hne] at hlast
      refine Eq.trans (getElem?_answer_of_ne ?_ result) (hself.replaced other index hindex hlast)
      exact hself.resultTx_ne hne hindex

omit [SchemaCrate] in
theorem slots_subscribe (self : State Req Res) (key other : TaskKey) :
    (subscribe self key).slots other =
      if other = key then
        ⟨some self.waiters.length, (self.slots key).registered ++ [self.waiters.length]⟩
      else self.slots other :=
  Function.update_apply ..

omit [SchemaCrate] in
theorem mem_registered_subscribe (self : State Req Res) (key other : TaskKey) (index : Nat) :
    index ∈ ((subscribe self key).slots other).registered ↔ index ∈ (self.slots other).registered ∨
        other = key ∧ index = self.waiters.length := by
  rw [slots_subscribe]
  split
  · next heq => simp [heq]
  · next hne => simp [hne]

omit [SchemaCrate] in
theorem getElem?_subscribe_of_lt (self : State Req Res) (key : TaskKey)
    (hindex : index < self.waiters.length) :
    (subscribe self key).waiters[index]? = (answer self.waiters (self.slots key).resultTx
        channelClosed)[index]? := by
  refine getElem?_append_left ?_
  rw [answer_length]
  exact hindex

omit [SchemaCrate] in
theorem Registered.getElem?_replaced (hself : Registered self) {key : TaskKey}
    (hindex : index ∈ (self.slots key).registered) :
    (answer self.waiters (self.slots key).resultTx channelClosed)[index]? =
      some (some channelClosed) := by
  by_cases hwaiting : (self.slots key).resultTx = some index
  · rw [hwaiting]
    exact getElem?_answer_of_some (hself.waiting key index hwaiting) _
  · rw [getElem?_answer_of_ne hwaiting]
    exact hself.replaced key index hindex hwaiting

omit [SchemaCrate] in
theorem Registered.subscribe (hself : Registered self) (key : TaskKey) :
    Registered (subscribe self key) := by
  have hnew : ∀ other, self.waiters.length ∉ (self.slots other).registered :=
    fun other hmem => Nat.lt_irrefl _ (hself.index_lt hmem)
  refine ⟨?_, ?_, ?_, ?_, ?_⟩
  · intro other
    rw [slots_subscribe]
    split
    · simp
    · exact hself.resultTx other
  · intro other
    rw [slots_subscribe]
    split
    · rw [nodup_append_comm, singleton_append, nodup_cons]
      exact ⟨hnew key, hself.nodup key⟩
    · exact hself.nodup other
  · intro other third index hother hthird
    rw [mem_registered_subscribe] at hother hthird
    rcases hother with hother | ⟨rfl, rfl⟩
    · rcases hthird with hthird | ⟨rfl, rfl⟩
      · exact hself.disjoint other third index hother hthird
      · exact absurd hother (hnew other)
    · rcases hthird with hthird | ⟨rfl, -⟩
      · exact absurd hthird (hnew third)
      · rfl
  · intro other index hindex
    rw [slots_subscribe] at hindex
    split at hindex
    · cases hindex
      refine (getElem?_append_right ?_).trans ?_
      · rw [answer_length]
      · simp [answer_length]
    · next hne =>
      have hmem := hself.mem_of_resultTx hindex
      rw [getElem?_subscribe_of_lt self key (hself.index_lt hmem),
        getElem?_answer_of_ne (hself.resultTx_ne hne hmem)]
      exact hself.waiting other index hindex
  · intro other index hindex hlast
    rw [slots_subscribe] at hlast
    rw [mem_registered_subscribe] at hindex
    rcases hindex with hindex | ⟨rfl, rfl⟩
    · rw [getElem?_subscribe_of_lt self key (hself.index_lt hindex)]
      split at hlast
      · next heq =>
        subst heq
        exact hself.getElem?_replaced hindex
      · next hne =>
        rw [getElem?_answer_of_ne (hself.resultTx_ne hne hindex)]
        exact hself.replaced other index hindex hlast
    · rw [if_pos rfl] at hlast
      exact absurd rfl hlast

omit [SchemaCrate] in
theorem Registered.congr {self next : State Req Res}
    (hself : Registered self) (hslots : next.slots = self.slots)
    (hwaiters : next.waiters = self.waiters) : Registered next := by
  obtain ⟨base, slots, waiters⟩ := next
  cases hslots
  cases hwaiters
  exact ⟨hself.resultTx, hself.nodup, hself.disjoint, hself.waiting, hself.replaced⟩

theorem Registered.dropSenders (hself : Registered self) (action : PollLoop.Action Req Res) :
    Registered (dropSenders self action) := by
  unfold TaskWaiters.dropSenders
  split
  · exact hself.release _ _
  · exact hself.release _ _
  · split
    · split
      · unfold sendResult
        split
        · exact hself.release _ _
        · exact hself
      · exact hself
    · exact hself
  · exact hself

omit [SchemaCrate] in
theorem Registered.refuse (hself : Registered self)
    (result : Except Str (TaskStatus × Option Res)) :
    Registered { self with waiters := self.waiters ++ [some result] } := by
  refine ⟨hself.resultTx, hself.nodup, hself.disjoint, ?_, ?_⟩
  · intro key index hindex
    exact CallList.getElem?_concat_of_some (hself.waiting key index hindex) _
  · intro key index hindex hlast
    exact CallList.getElem?_concat_of_some (hself.replaced key index hindex hlast) _

/-- A step keeps the last call the one that waits. -/
theorem Registered.step {self next : State Req Res} {action : Action Req Res}
    (hself : Registered self)
    (hstep : TaskWaiters.step self action = some next) : Registered next := by
  cases action with
  | base action =>
    obtain ⟨base, -, rfl⟩ := map_eq_some_iff.mp hstep
    exact (hself.dropSenders action).congr rfl rfl
  | waitForTaskResult taskId sessionId =>
    simp only [TaskWaiters.step] at hstep
    split at hstep
    · cases hstep
      exact hself.subscribe _
    · cases hstep
      exact hself.refuse _

/-- The last call is the one that waits, after any run. -/
theorem Registered.run {store : InMemoryTaskStore Req Res} {now : Nat}
    {trace : List (Action Req Res)} {final : State Req Res}
    (hrun : Lts.run TaskWaiters.step (initial store now) trace = some final) : Registered final :=
  Lts.run_keeps Registered.step (initial_registered store now) hrun

omit [SchemaCrate] in
/-- All calls at a task are answered just when there is at most one. -/
theorem Registered.answered_iff (hself : Registered self) (key : TaskKey)
    (result : TaskStatus × Option Res) :
    (∀ index ∈ (self.slots key).registered,
      (answer self.waiters (self.slots key).resultTx (.ok result))[index]? =
        some (some (.ok result))) ↔ (self.slots key).registered.length ≤ 1 := by
  constructor
  · intro hall
    by_contra hmany
    have hlast := hself.resultTx key
    -- the first of two calls has lost its sender to the last one
    cases hregistered : (self.slots key).registered with
    | nil => simp [hregistered] at hmany
    | cons first rest =>
      have hnodup := hself.nodup key
      rw [hregistered] at hall hlast hnodup hmany
      have hne : (self.slots key).resultTx ≠ some first := by
        intro hfirst
        cases rest with
        | nil => simp at hmany
        | cons second rest =>
          rw [hlast, getLast?_cons_cons] at hfirst
          exact (nodup_cons.mp hnodup).1 (mem_of_getLast? hfirst)
      have hfailed := hself.replaced key first (hregistered ▸ mem_cons_self) hne
      have hserved := hall first mem_cons_self
      rw [getElem?_answer_of_ne hne, hfailed] at hserved
      cases hserved
  · intro hone index hindex
    have hlast : (self.slots key).resultTx = some index := by
      rw [hself.resultTx]
      cases hregistered : (self.slots key).registered with
      | nil => simp [hregistered] at hindex
      | cons first rest =>
        rw [hregistered] at hone hindex
        cases eq_nil_of_length_eq_zero (Nat.le_zero.mp (Nat.le_of_succ_le_succ hone))
        cases mem_singleton.mp hindex
        rfl
    rw [hlast]
    exact getElem?_answer_of_some (hself.waiting key index hlast) _

/-- In every run: when the loop sees a terminal status for a stored task, all
calls that subscribed get it with the stored result exactly when at most one
did. -/
theorem run_answered_iff {store : InMemoryTaskStore Req Res} {now : Nat}
    {trace : List (Action Req Res)} {state next : State Req Res}
    (hrun : Lts.run step (initial store now) trace = some state) {task : TaskKey}
    (htask : state.base.loop.current = some task) {entry : TaskEntry Req Res}
    (hentry : state.base.store.getEntry task = some entry) {status : TaskStatus}
    (hstatus : status.isTerminal = true) {pollInterval : Option Int}
    (hstep : step state (.base (.reply (.ok (status, pollInterval)))) = some next) :
    (∀ call ∈ (state.slots task).registered,
      next.waiters[call]? = some (some (.ok (status, entry.result)))) ↔
        (state.slots task).registered.length ≤ 1 := by
  obtain ⟨base, -, rfl⟩ := map_eq_some_iff.mp hstep
  have hsent : dropSenders state (.reply (.ok (status, pollInterval))) =
      release state task (.ok (status, entry.result)) := by
    simp [dropSenders, htask, hstatus, sendResult, hentry]
  rw [hsent]
  exact (Registered.run hrun).answered_iff task (status, entry.result)

end

namespace TaskWaitersWitness

attribute [local instance] SchemaCrate.protocol

def start : State Unit Nat :=
  initial (.new 1250 (Nat.pow 2 63)) 0

def taskKey : TaskKey :=
  (TaskPolling.entryId 0, none)

/-- Some calls wait for a task, its result is stored, and the loop asks. -/
def asked (calls : Nat) : List (Action Unit Nat) :=
  .base (.createTask ⟨none, some 100⟩ () none) ::
    List.replicate calls (.waitForTaskResult taskKey.1 none) ++
    [.base (.storeTaskResult taskKey.1 .completed 7 none), .base (.tick 200),
      .base .wake, .base .call]

def completed : Action Unit Nat :=
  .base (.reply (.ok (.completed, none)))

/-- The task being polled, its result, and the calls that subscribed. -/
def reading (state : State Unit Nat) : Option TaskKey × Option (Option Nat) × List Nat :=
  (state.base.loop.current,
    (state.base.store.getEntry taskKey).map (·.result),
    (state.slots taskKey).registered)

/-- The first call fails when the second comes, which gets the result. -/
theorem two_waiters_first_fails :
    ∃ state next, Lts.run step start (asked 2) = some state ∧
      step state completed = some next ∧
      state.base.loop.current = some taskKey ∧
      (state.slots taskKey).registered = [0, 1] ∧
      next.waiters[0]? = some (some (.error "channel closed")) ∧
      next.waiters[1]? = some (some (.ok (.completed, some 7))) := by
  have hstate : (Lts.run step start (asked 2)).map reading =
      some (some taskKey, some (some 7), [0, 1]) := by decide +kernel
  have hnext : (Lts.run step start (asked 2 ++ [completed])).map
      (·.waiters) =
        some [some channelClosed, some (.ok (.completed, some 7))] := by
    decide +kernel
  obtain ⟨next, hrun, hwaiters⟩ := map_eq_some_iff.mp hnext
  obtain ⟨state, hasked, hlast⟩ := Lts.run_append_eq_some.mp hrun
  obtain ⟨other, hstep, heq⟩ := Lts.run_cons_eq_some.mp hlast
  cases heq
  rw [hasked, map_some, some.injEq] at hstate
  simp only [reading, Prod.mk.injEq] at hstate
  refine ⟨state, next, hasked, hstep, hstate.1, hstate.2.2, ?_, ?_⟩
  · rw [hwaiters]
    rfl
  · rw [hwaiters]
    rfl

/-- A single call gets the result. -/
theorem one_waiter_answered :
    ∃ state next, Lts.run step start (asked 1) = some state ∧ step state completed = some next ∧
      (state.slots taskKey).registered = [0] ∧
      next.waiters[0]? = some (some (.ok (.completed, some 7))) := by
  have hstate : (Lts.run step start (asked 1)).map reading =
      some (some taskKey, some (some 7), [0]) := by decide +kernel
  have hnext : (Lts.run step start (asked 1 ++ [completed])).isSome := by
    decide +kernel
  obtain ⟨next, hrun⟩ := isSome_iff_exists.mp hnext
  obtain ⟨state, hasked, hlast⟩ := Lts.run_append_eq_some.mp hrun
  obtain ⟨other, hstep, heq⟩ := Lts.run_cons_eq_some.mp hlast
  cases heq
  rw [hasked, map_some, some.injEq] at hstate
  simp only [reading, Prod.mk.injEq] at hstate
  obtain ⟨htask, hresult, hregistered⟩ := hstate
  obtain ⟨entry, hentry, hseven⟩ := map_eq_some_iff.mp hresult
  have hanswered := (run_answered_iff hasked htask hentry rfl hstep).mpr
    (by rw [hregistered]; decide)
  rw [hregistered, hseven] at hanswered
  exact ⟨state, next, hasked, hstep, hregistered, hanswered 0 mem_cons_self⟩

end TaskWaitersWitness

end McpSdk.TaskWaiters
