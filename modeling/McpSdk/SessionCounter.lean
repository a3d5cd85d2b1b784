/-
The session counter under concurrent calls. A call changes a shard under its
lock and the counter in a step of its own; `clear` empties the shards one by one
and resets the counter at the end.
-/
import Mathlib.Algebra.Order.BigOperators.Group.Finset
import McpSdk.SessionStore

namespace McpSdk.SessionCounter

open SessionStore

inductive Request where
  | set (key : Str)
  | delete (key : Str)
  | evictIdle (now : Nat)
  | clear
deriving Repr, DecidableEq

/-- The atomic operation that the holder of a shard's lock has yet to make. -/
inductive Update where
  | fetchAdd
  | fetchSub (removed : Nat)
deriving Repr, DecidableEq

/-- Before a shard, or inside one, with the instant of an `evict_idle`. -/
inductive Phase where
  | set (key : Str)
  | delete (key : Str)
  | evict (index now : Nat)
  | clear (index : Nat)
  | inside (index : Nat) (rest : Option Nat)
deriving Repr, DecidableEq

def Request.start : Request → Phase
  | .set key => .set key
  | .delete key => .delete key
  | .evictIdle now => .evict 0 now
  | .clear => .clear 0

/-- The store, the locks held, the calls, and whether a `fetch_sub` has wrapped. -/
structure State where
  store : InMemorySessionStore
  held : Nat → Option Update
  calls : AList fun _ : Nat => Phase
  wrapped : Bool

/-- An empty store, and no call under way. -/
def State.initial : State :=
  ⟨.new, fun _ => none, ∅, false⟩

/-- A call begins, takes the next shard, or makes its atomic operation. -/
inductive Action where
  | begin (call : Nat) (request : Request)
  | enter (call now : Nat)
  | count (call : Nat)
deriving Repr, DecidableEq

def usizeSize : Nat := 2 ^ 64

def Update.apply (count : Nat) : Update → Nat
  | .fetchAdd => count + 1
  | .fetchSub removed =>
    if removed ≤ count then count - removed
    else count + usizeSize - removed

def Update.wraps (count : Nat) : Update → Bool
  | .fetchAdd => false
  | .fetchSub removed => count < removed

namespace State

/-- The lock of a free shard is taken and the shard changed. -/
def lock (self : State) (call index : Nat) (shard : Shard) (update : Update)
    (rest : Option Nat) : Option State :=
  match self.held index with
  | some _ => none
  | none =>
    some { self with
      store := self.store.setShard index shard
      held := Function.update self.held index (some update)
      calls := self.calls.insert call (.inside index rest) }

/-- The lock of a free shard is taken and let go, with nothing to count. -/
def visit (self : State) (index : Nat) (store : InMemorySessionStore)
    (calls : AList fun _ : Nat => Phase) : Option State :=
  match self.held index with
  | some _ => none
  | none => some { self with store, calls }

end State

/-- One call runs up to its next atomic operation. -/
def step (config : Config) (state : State) : Action → Option State
  | .begin call request =>
    if call ∈ state.calls then none
    else some { state with calls := state.calls.insert call request.start }
  | .enter call now =>
    match state.calls.lookup call with
    | some (.set key) =>
      let index := config.shard key
      state.lock call index ((state.store.shards index).insert key now)
        .fetchAdd none
    | some (.delete key) =>
      let index := config.shard key
      if key ∈ state.store.shards index then
        state.lock call index ((state.store.shards index).erase key)
          (.fetchSub 1) none
      else state.visit index state.store (state.calls.erase call)
    | some (.evict index started) =>
      if index < shardCount then
        match config.ttlMs with
        | some ttl =>
          let before := state.store.shards index
          let after := before.retain started ttl
          state.lock call index after
            (.fetchSub (before.keys.length - after.keys.length))
            (some started)
        | none =>
          state.visit index state.store
            (state.calls.insert call (.evict (index + 1) started))
      else some { state with calls := state.calls.erase call }
    | some (.clear index) =>
      if index < shardCount then
        state.visit index (state.store.setShard index ∅)
          (state.calls.insert call (.clear (index + 1)))
      else
        some { state with
          store := { state.store with count := 0 }
          calls := state.calls.erase call }
    | _ => none
  | .count call =>
    match state.calls.lookup call with
    | some (.inside index rest) =>
      match state.held index with
      | some update =>
        some {
          store := { state.store with
            count := update.apply state.store.count }
          held := Function.update state.held index none
          calls := match rest with
            | some started =>
              state.calls.insert call (.evict (index + 1) started)
            | none => state.calls.erase call
          wrapped := state.wrapped || update.wraps state.store.count }
      | none => none
    | _ => none

/-- At rest the counter is the number of sessions, and it has never wrapped. -/
def Exact (state : State) : Prop :=
  (state.calls = ∅ → state.store.count = state.store.len) ∧ state.wrapped = false

/-- No session is stored and no atomic operation is outstanding. -/
def State.Empty (self : State) : Prop :=
  ∀ index < shardCount, (self.store.shards index).keys = [] ∧ self.held index = none

instance (state : State) : Decidable state.Empty :=
  inferInstanceAs (Decidable (∀ index < shardCount, _ ∧ _))

/-- A `set` finds its key absent, and a `clear` resets while the store is empty. -/
def Orderly.At (config : Config) (state : State) : Option Phase → Prop
  | some (.set key) => key ∉ state.store.shards (config.shard key)
  | some (.clear index) => index < shardCount ∨ state.Empty
  | _ => True

def Orderly (config : Config) (state : State) : Action → Prop
  | .enter call _ => Orderly.At config state (state.calls.lookup call)
  | _ => True

instance (config : Config) (state : State) :
    DecidablePred (Orderly.At config state)
  | some (.set key) =>
    inferInstanceAs (Decidable (key ∉ state.store.shards (config.shard key)))
  | some (.clear index) =>
    inferInstanceAs (Decidable (index < shardCount ∨ state.Empty))
  | some (.delete _) | some (.evict _ _) | some (.inside _ _) | none =>
    isTrue trivial

instance (config : Config) (state : State) :
    DecidablePred (Orderly config state)
  | .enter call _ =>
    inferInstanceAs
      (Decidable (Orderly.At config state (state.calls.lookup call)))
  | .begin _ _ | .count _ => isTrue trivial

/-- What the counter will have for a shard once its lock is free. -/
def due (shard : Shard) : Option Update → Nat
  | none => shard.keys.length
  | some .fetchAdd => shard.keys.length - 1
  | some (.fetchSub removed) => shard.keys.length + removed

def State.due (self : State) (index : Nat) : Nat :=
  SessionCounter.due (self.store.shards index) (self.held index)

def State.total (self : State) : Nat :=
  ∑ index ∈ Finset.range shardCount, self.due index

def State.Clearing (self : State) : Prop :=
  ∃ call index, self.calls.lookup call = some (.clear index)

/-- Each held lock has its holder, and the counter shows what it should, or more
during a `clear`. -/
structure Balanced (state : State) : Prop where
  holder : ∀ {index : Nat} {update : Update},
    state.held index = some update → index < shardCount ∧
      ∃ call rest, state.calls.lookup call = some (.inside index rest)
  added : ∀ {index : Nat}, state.held index = some .fetchAdd →
    1 ≤ (state.store.shards index).keys.length
  covers : state.total ≤ state.store.count
  settled : ¬ state.Clearing → state.store.count = state.total
  unwrapped : state.wrapped = false

/-- Only the phase of one call changes. -/
def Moves (call : Nat) (before after : AList fun _ : Nat => Phase) : Prop :=
  ∀ other, other ≠ call → after.lookup other = before.lookup other

theorem moves_insert (call : Nat) (calls : AList fun _ : Nat => Phase)
    (phase : Phase) : Moves call calls (calls.insert call phase) :=
  fun _ hother => AList.lookup_insert_ne hother

theorem moves_erase (call : Nat) (calls : AList fun _ : Nat => Phase) :
    Moves call calls (calls.erase call) :=
  fun _ hother => AList.lookup_erase_ne hother

/-- A call that is not in a shard and is no `clear`. -/
def Outside (phase : Option Phase) : Prop :=
  (∀ index rest, phase ≠ some (.inside index rest)) ∧ ∀ index, phase ≠ some (.clear index)

variable {state next : State} {call index : Nat} {update : Update}

theorem State.lock_eq_some {shard : Shard} {rest : Option Nat} :
    state.lock call index shard update rest = some next ↔
      state.held index = none ∧ { state with
        store := state.store.setShard index shard
        held := Function.update state.held index (some update)
        calls := state.calls.insert call (.inside index rest) } = next := by
  unfold State.lock
  cases state.held index with
  | none => simp
  | some update => simp

variable {calls : AList fun _ : Nat => Phase}

theorem State.visit_eq_some {store : InMemorySessionStore} :
    state.visit index store calls = some next ↔
      state.held index = none ∧ { state with store, calls } = next := by
  unfold State.visit
  cases state.held index with
  | none => simp
  | some update => simp

theorem Outside.of_not_mem (hcall : call ∉ calls) : Outside (calls.lookup call) := by
  rw [AList.lookup_eq_none.mpr hcall]
  simp [Outside]

theorem State.total_update {index : Nat} (hindex : index < shardCount)
    (hother : ∀ other, other ≠ index → next.due other = state.due other) :
    next.total + state.due index = state.total + next.due index := by
  have hmem : index ∈ Finset.range shardCount := Finset.mem_range.mpr hindex
  have hrest : ∑ other ∈ (Finset.range shardCount).erase index,
      next.due other = ∑ other ∈ (Finset.range shardCount).erase index, state.due other :=
    Finset.sum_congr rfl fun other hmem =>
      hother other (Finset.ne_of_mem_erase hmem)
  unfold State.total
  rw [← Finset.add_sum_erase _ next.due hmem, ← Finset.add_sum_erase _ state.due hmem, hrest]
  omega

theorem State.due_le_total (state : State) (hindex : index < shardCount) :
    state.due index ≤ state.total :=
  Finset.single_le_sum (fun _ _ => Nat.zero_le _)
    (Finset.mem_range.mpr hindex)

theorem InMemorySessionStore.lenBelow_eq_sum (store : InMemorySessionStore) (bound : Nat) :
    store.lenBelow bound = ∑ index ∈ Finset.range bound, (store.shards index).keys.length := by
  induction bound with
  | zero => rfl
  | succ bound ih =>
    rw [InMemorySessionStore.lenBelow, Finset.sum_range_succ, ih]

theorem Balanced.initial : Balanced State.initial where
  holder := by simp [State.initial]
  added := by simp [State.initial]
  covers := by decide
  settled := fun _ => by decide
  unwrapped := rfl

theorem Moves.keeps {other : Nat} {phase : Phase} {before after : AList fun _ : Nat => Phase}
    (hmoves : Moves call before after) (hcall : before.lookup call ≠ some phase)
    (hother : before.lookup other = some phase) : after.lookup other = some phase := by
  by_cases heq : other = call
  · subst heq
    exact absurd hother hcall
  · rw [hmoves other heq, hother]

theorem Moves.clearing (hmoves : Moves call state.calls next.calls)
    (hcall : ∀ index, state.calls.lookup call ≠ some (.clear index))
    (hclearing : state.Clearing) : next.Clearing := by
  obtain ⟨other, index, hother⟩ := hclearing
  exact ⟨other, index, hmoves.keeps (hcall index) hother⟩

section

variable (hstate : Balanced state)

include hstate

theorem Balanced.move (houtside : Outside (state.calls.lookup call))
    (hcalls : Moves call state.calls calls) : Balanced { state with calls } := by
  refine { hstate with holder := ?_, settled := ?_ }
  · intro index update hheld
    obtain ⟨hindex, holder, rest, hholder⟩ := hstate.holder hheld
    exact ⟨hindex, holder, rest, hcalls.keeps (houtside.1 index rest) hholder⟩
  · intro hclearing
    exact hstate.settled fun hbefore =>
      hclearing (Moves.clearing hcalls houtside.2 hbefore)

theorem Balanced.lock {shard : Shard} {rest : Option Nat}
    (hindex : index < shardCount) (hfree : state.held index = none)
    (houtside : Outside (state.calls.lookup call))
    (hdue : due shard (some update) = (state.store.shards index).keys.length)
    (hadded : update = .fetchAdd → 1 ≤ shard.keys.length) :
    Balanced { state with
      store := state.store.setShard index shard
      held := Function.update state.held index (some update)
      calls := state.calls.insert call (.inside index rest) } := by
  have hmoves := moves_insert call state.calls (.inside index rest)
  set next : State := { state with
    store := state.store.setShard index shard
    held := Function.update state.held index (some update)
    calls := state.calls.insert call (.inside index rest) } with hnext
  have htotal : next.total = state.total := by
    have hsum := @State.total_update state next index hindex (by
      intro other hother
      simp [State.due, hnext, hother, state.store.shards_setShard_of_ne shard hother])
    have hsame : next.due index = state.due index := by
      rw [State.due, State.due, hfree, hnext]
      dsimp only
      rw [state.store.shards_setShard, Function.update_self, hdue, due]
    omega
  refine ⟨?_, ?_, ?_, ?_, hstate.unwrapped⟩
  · intro other update' hheld
    by_cases heq : other = index
    · subst heq
      exact ⟨hindex, call, rest, AList.lookup_insert _⟩
    · obtain ⟨hother, holder, rest', hholder⟩ :=
        hstate.holder ((Function.update_of_ne heq _ _).symm.trans hheld)
      exact ⟨hother, holder, rest', hmoves.keeps (houtside.1 other rest') hholder⟩
  · intro other hheld
    by_cases heq : other = index
    · subst heq
      have hupdate : update = .fetchAdd := by
        simpa [hnext] using hheld
      rw [state.store.shards_setShard]
      exact hadded hupdate
    · rw [state.store.shards_setShard_of_ne shard heq]
      exact hstate.added ((Function.update_of_ne heq _ _).symm.trans hheld)
  · rw [htotal]
    exact hstate.covers
  · intro hclearing
    rw [htotal]
    exact hstate.settled fun hbefore =>
      hclearing (Moves.clearing hmoves houtside.2 hbefore)

/-- The operation of a shard makes the counter follow it, and does not wrap. -/
theorem Balanced.counted (hindex : index < shardCount) (hheld : state.held index = some update) :
    update.apply state.store.count + state.due index =
        state.store.count + (state.store.shards index).keys.length ∧
      update.wraps state.store.count = false := by
  have hcovers := hstate.covers
  have hdue := state.due_le_total hindex
  cases update with
  | fetchAdd =>
    have hadded := hstate.added hheld
    rw [State.due, hheld, due, Update.apply]
    exact ⟨by omega, rfl⟩
  | fetchSub removed =>
    rw [State.due, hheld, due] at hdue
    have hle : removed ≤ state.store.count := by omega
    rw [State.due, hheld, due, Update.apply, if_pos hle, Update.wraps]
    exact ⟨by omega, decide_eq_false (Nat.not_lt.mpr hle)⟩

theorem Balanced.count {rest : Option Nat}
    (hphase : state.calls.lookup call = some (.inside index rest))
    (hheld : state.held index = some update) (hcalls : Moves call state.calls calls) :
    Balanced {
      store := { state.store with count := update.apply state.store.count }
      held := Function.update state.held index none
      calls
      wrapped := state.wrapped || update.wraps state.store.count } := by
  set next : State := {
    store := { state.store with count := update.apply state.store.count }
    held := Function.update state.held index none
    calls
    wrapped := state.wrapped || update.wraps state.store.count } with hnext
  obtain ⟨hindex, -⟩ := hstate.holder hheld
  have hbefore : ∀ {other : Nat} {update' : Update},
      next.held other = some update' →
        other ≠ index ∧ state.held other = some update' := by
    intro other update' hother
    by_cases heq : other = index
    · subst heq
      simp [hnext] at hother
    · exact ⟨heq, (Function.update_of_ne heq _ _).symm.trans hother⟩
  have hsum := @State.total_update state next index hindex (by
    intro other hother
    simp [State.due, hnext, hother])
  have hafter : next.due index = (state.store.shards index).keys.length := by
    simp [State.due, hnext, due]
  obtain ⟨hcount, hwraps⟩ := hstate.counted hindex hheld
  have hcovers := hstate.covers
  refine ⟨?_, ?_, ?_, ?_, ?_⟩
  · intro other update' hother
    obtain ⟨hne, hheld'⟩ := hbefore hother
    obtain ⟨hbound, holder, rest', hholder⟩ := hstate.holder hheld'
    refine ⟨hbound, holder, rest', hcalls.keeps ?_ hholder⟩
    rw [hphase]
    simp [Ne.symm hne]
  · intro other hother
    exact hstate.added (hbefore hother).2
  · change next.total ≤ update.apply state.store.count
    omega
  · intro hclearing
    have hsettled := hstate.settled fun hbefore =>
      hclearing (Moves.clearing hcalls (by simp [hphase]) hbefore)
    change update.apply state.store.count = next.total
    omega
  · change (state.wrapped || update.wraps state.store.count) = false
    rw [hstate.unwrapped, hwraps]
    rfl

theorem Balanced.wipe (hindex : index < shardCount)
    (hfree : state.held index = none) (hphase : state.calls.lookup call = some (.clear index)) :
    Balanced { state with
      store := state.store.setShard index ∅
      calls := state.calls.insert call (.clear (index + 1)) } := by
  have hmoves := moves_insert call state.calls (.clear (index + 1))
  set next : State := { state with
    store := state.store.setShard index ∅
    calls := state.calls.insert call (.clear (index + 1)) } with hnext
  have hother : ∀ other, other ≠ index → next.store.shards other = state.store.shards other :=
    fun other hother => state.store.shards_setShard_of_ne ∅ hother
  refine ⟨?_, ?_, ?_, ?_, hstate.unwrapped⟩
  · intro other update hheld
    obtain ⟨hbound, holder, rest, hholder⟩ := hstate.holder hheld
    exact ⟨hbound, holder, rest, hmoves.keeps (by simp [hphase]) hholder⟩
  · intro other hheld
    have hne : other ≠ index := by
      rintro rfl
      cases hfree.symm.trans hheld
    rw [hother other hne]
    exact hstate.added hheld
  · have hsum := @State.total_update state next index hindex (by
      intro other hne
      rw [State.due, State.due, hother other hne])
    have hafter : next.due index = 0 := by
      rw [State.due, hnext]
      dsimp only
      rw [state.store.shards_setShard, hfree]
      rfl
    have hcovers := hstate.covers
    change next.total ≤ state.store.count
    omega
  · intro hclearing
    exact absurd ⟨call, index + 1, AList.lookup_insert _⟩ hclearing

theorem Balanced.reset (hempty : state.Empty)
    (hphase : state.calls.lookup call = some (.clear index)) :
    Balanced { state with
      store := { state.store with count := 0 }
      calls := state.calls.erase call } := by
  have htotal : state.total = 0 := by
    refine Finset.sum_eq_zero fun other hother => ?_
    obtain ⟨hkeys, hfree⟩ := hempty other (Finset.mem_range.mp hother)
    rw [State.due, hfree, due, hkeys, List.length_nil]
  refine ⟨?_, hstate.added, Nat.le_of_eq htotal, fun _ => htotal.symm, hstate.unwrapped⟩
  intro other update hheld
  obtain ⟨hbound, holder, rest, hholder⟩ := hstate.holder hheld
  exact ⟨hbound, holder, rest, (moves_erase call _).keeps (by simp [hphase]) hholder⟩

theorem Balanced.enter {config : Config} {now : Nat}
    (horderly : Orderly.At config state (state.calls.lookup call))
    (hstep : SessionCounter.step config state (.enter call now) = some next) : Balanced next := by
  simp only [SessionCounter.step] at hstep
  cases hphase : state.calls.lookup call with
  | none => simp [hphase] at hstep
  | some phase =>
    rw [hphase] at horderly hstep
    cases phase with
    | set key =>
      obtain ⟨hfree, rfl⟩ := State.lock_eq_some.mp hstep
      have hlen := length_keys_insert_of_not_mem horderly now
      refine hstate.lock (config.shard_lt key) hfree (by simp [Outside, hphase])
        ?_ (fun _ => by omega)
      rw [due, hlen, Nat.add_sub_cancel]
    | delete key =>
      by_cases hmem : key ∈ state.store.shards (config.shard key)
      · simp only [if_pos hmem] at hstep
        obtain ⟨hfree, rfl⟩ := State.lock_eq_some.mp hstep
        exact hstate.lock (config.shard_lt key) hfree (by simp [Outside, hphase])
          (length_keys_erase hmem) (by simp)
      · simp only [if_neg hmem] at hstep
        obtain ⟨-, rfl⟩ := State.visit_eq_some.mp hstep
        exact hstate.move (by simp [Outside, hphase]) (moves_erase call _)
    | evict index started =>
      have houtside : Outside (state.calls.lookup call) := by
        simp [Outside, hphase]
      by_cases hindex : index < shardCount
      · simp only [if_pos hindex] at hstep
        cases httl : config.ttlMs with
        | none =>
          rw [httl] at hstep
          obtain ⟨-, rfl⟩ := State.visit_eq_some.mp hstep
          exact hstate.move houtside (moves_insert call _ _)
        | some ttl =>
          rw [httl] at hstep
          obtain ⟨hfree, rfl⟩ := State.lock_eq_some.mp hstep
          refine hstate.lock hindex hfree houtside ?_ (by simp)
          exact Nat.add_sub_cancel' (InMemorySessionStore.retain_length_le
            _ started ttl)
      · simp only [if_neg hindex] at hstep
        cases hstep
        exact hstate.move houtside (moves_erase call _)
    | clear index =>
      by_cases hindex : index < shardCount
      · simp only [if_pos hindex] at hstep
        obtain ⟨hfree, rfl⟩ := State.visit_eq_some.mp hstep
        exact hstate.wipe hindex hfree hphase
      · simp only [if_neg hindex] at hstep
        cases hstep
        exact hstate.reset (horderly.resolve_left hindex) hphase
    | inside index rest => cases hstep

/-- An orderly step keeps the counter balanced. -/
theorem Balanced.step {config : Config} {action : Action} (horderly : Orderly config state action)
    (hstep : SessionCounter.step config state action = some next) : Balanced next := by
  cases action with
  | begin call request =>
    simp only [SessionCounter.step] at hstep
    split at hstep
    · cases hstep
    · next hcall =>
      cases hstep
      exact hstate.move (.of_not_mem hcall) (moves_insert call _ _)
  | enter call now => exact hstate.enter horderly hstep
  | count call =>
    simp only [SessionCounter.step] at hstep
    split at hstep
    · next index rest hphase =>
      split at hstep
      · next update hheld =>
        cases hstep
        refine hstate.count hphase hheld ?_
        cases rest with
        | none => exact moves_erase call _
        | some started => exact moves_insert call _ _
      · cases hstep
    · cases hstep

theorem Balanced.exact: Exact state := by
  refine ⟨?_, hstate.unwrapped⟩
  intro hcalls
  have hclearing : ¬ state.Clearing := by
    rintro ⟨call, index, hcall⟩
    simp [hcalls] at hcall
  have hfree : ∀ index, state.held index = none := by
    intro index
    cases hheld : state.held index with
    | none => rfl
    | some update =>
      obtain ⟨-, call, rest, hcall⟩ := hstate.holder hheld
      simp [hcalls] at hcall
  rw [hstate.settled hclearing, InMemorySessionStore.len,
    InMemorySessionStore.lenBelow_eq_sum, State.total]
  refine Finset.sum_congr rfl fun index _ => ?_
  rw [State.due, hfree index, due]

end

/-- In every interleaving in which each `set` is of an absent key and each
`clear` resets an empty store: at rest the counter is exact, and it never wraps. -/
theorem run_counter_exact (config : Config) {actions : List Action} {final : State}
    (horderly : Lts.Along (step config) (Orderly config) State.initial actions)
    (hrun : Lts.run (step config) State.initial actions = some final) : Exact final := by
  have hbalanced : Balanced final :=
    Lts.run_invariant (fun hstate hcondition hstep =>
      hstate.step hcondition hstep) Balanced.initial horderly hrun
  exact hbalanced.exact

namespace SessionCounterWitness

def config : Config :=
  ⟨List.length, 2, some 10⟩

def overwriting : List Action :=
  [.begin 0 (.set "a"), .enter 0 0, .count 0, .begin 1 (.set "a"), .enter 1 1, .count 1]

theorem overwriting_not_exact :
    ∃ final, Lts.run (step config) State.initial overwriting = some final ∧ ¬ Exact final := by
  have hrun : Lts.run (step config) State.initial overwriting = some _ := rfl
  refine ⟨_, hrun, fun hexact => ?_⟩
  exact absurd (hexact.1 rfl) (by decide)

/-- A session is set behind the back of a `clear`, and then deleted. -/
def overtaken : List Action :=
  ([.begin 0 .clear] : List Action) ++
    List.replicate shardCount (Action.enter 0 0) ++
    ([.begin 1 (.set "a"), .enter 1 0, .count 1, .enter 0 0,
      .begin 2 (.delete "a"), .enter 2 1, .count 2] : List Action)

theorem overtaken_wraps :
    ∃ final, Lts.run (step config) State.initial overtaken = some final ∧
      final.wrapped = true ∧ final.store.count = usizeSize - 1 := by
  have hcounter : (Lts.run (step config) State.initial overtaken).map
      (fun final => (final.wrapped, final.store.count)) =
        some (true, usizeSize - 1) := by
    decide +kernel
  obtain ⟨final, hrun, hfinal⟩ := Option.map_eq_some_iff.mp hcounter
  exact ⟨final, hrun, congrArg Prod.fst hfinal, congrArg Prod.snd hfinal⟩

/-- One session is evicted, the other deleted, and a `clear` finds a third. -/
def orderly : List Action :=
  ([.begin 0 (.set "a"), .begin 1 (.set "bc"), .enter 1 9,
      .enter 0 0, .count 0, .count 1, .begin 2 (.evictIdle 11),
      .begin 3 (.delete "bc"), .enter 2 11, .count 2, .enter 3 11,
      .enter 2 11, .count 2, .count 3] : List Action) ++
    List.flatten (List.replicate 14 [Action.enter 2 11, .count 2]) ++
    ([.enter 2 11, .begin 4 (.set "d"), .enter 4 12, .count 4, .begin 5 .clear] : List Action) ++
    List.replicate (shardCount + 1) (Action.enter 5 13)

theorem orderly_exact :
    ∃ final, Lts.run (step config) State.initial orderly = some final ∧ Exact final := by
  have hsome : (Lts.run (step config) State.initial orderly).isSome := by
    decide +kernel
  obtain ⟨final, hrun⟩ := Option.isSome_iff_exists.mp hsome
  exact ⟨final, hrun, run_counter_exact config (by decide +kernel) hrun⟩

end SessionCounterWitness

end McpSdk.SessionCounter
