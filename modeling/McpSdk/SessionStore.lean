/-
The in-memory session store and the requests that make new sessions. Sessions
are in shards with a lock each, and one counter is kept. A request asks whether
the store is full and inserts later; other requests run in between.
-/
import Mathlib.Data.List.AList
import McpSdk.Lts
import McpSdk.SseEvent

namespace McpSdk.SessionStore

open List Option

section Keys

universe u v

variable {κ : Type u} {ν : Type v} [DecidableEq κ] {map : AList fun _ : κ => ν}
  {key : κ}

theorem length_keys_erase (hkey : key ∈ map) :
    (map.erase key).keys.length + 1 = map.keys.length := by
  rw [AList.keys_erase]
  exact length_erase_add_one (AList.mem_keys.mp hkey)

theorem length_keys_insert_of_mem (hkey : key ∈ map) (value : ν) :
    (map.insert key value).keys.length = map.keys.length := by
  rw [AList.keys_insert, length_cons]
  exact length_erase_add_one (AList.mem_keys.mp hkey)

theorem length_keys_insert_of_not_mem (hkey : key ∉ map) (value : ν) :
    (map.insert key value).keys.length = map.keys.length + 1 := by
  rw [AList.keys_insert, length_cons, erase_of_not_mem hkey]

theorem length_keys_insert_le (map : AList fun _ : κ => ν) (key : κ) (value : ν) :
    (map.insert key value).keys.length ≤ map.keys.length + 1 := by
  rw [AList.keys_insert, length_cons]
  exact Nat.succ_le_succ erase_sublist.length_le

end Keys

def shardCount : Nat := 16

/-- A stored session is the time of its last access. -/
abbrev Shard := AList fun _ : Str => Nat

structure InMemorySessionStore where
  shards : Nat → Shard
  /-- The insertions less the removals.  The atomic counter holds the lowest 64
  bits. -/
  count : Nat

structure Config where
  /-- The hash of a key, which picks its shard. -/
  hash : Str → Nat
  maxSessions : Nat
  /-- The milliseconds of the `Duration`, which can be 2^64 and more. -/
  idleTtl : Option Nat

/-- The time to live that `evict_idle` compares with: `ttl.as_millis() as u64`. -/
def Config.ttlMs (self : Config) : Option Nat :=
  self.idleTtl.map (· % Nat.pow 2 64)

def Config.shard (self : Config) (key : Str) : Nat :=
  self.hash key % shardCount

theorem Config.shard_lt (self : Config) (key : Str) : self.shard key < shardCount :=
  Nat.mod_lt _ (by decide)

/-- A session that was last accessed more than the time to live ago. -/
def isIdle (lastAccessMs nowMs ttlMs : Nat) : Bool :=
  nowMs - lastAccessMs > ttlMs

def Shard.retain (self : Shard) (now ttl : Nat) : Shard :=
  ⟨self.entries.filter fun entry => !isIdle entry.2 now ttl,
    List.NodupKeys.sublist filter_sublist self.nodupKeys⟩

namespace InMemorySessionStore

def new : InMemorySessionStore :=
  ⟨fun _ => ∅, 0⟩

def lenBelow (self : InMemorySessionStore) : Nat → Nat
  | 0 => 0
  | index + 1 => self.lenBelow index + (self.shards index).keys.length

def len (self : InMemorySessionStore) : Nat :=
  self.lenBelow shardCount

def setShard (self : InMemorySessionStore) (index : Nat) (shard : Shard) : InMemorySessionStore :=
  { self with shards := Function.update self.shards index shard }

def set (config : Config) (self : InMemorySessionStore) (key : Str)
    (now : Nat) : InMemorySessionStore :=
  let index := config.shard key
  { self.setShard index ((self.shards index).insert key now) with
    count := self.count + 1 }

def delete (config : Config) (self : InMemorySessionStore) (key : Str) : InMemorySessionStore :=
  let index := config.shard key
  if key ∈ self.shards index then
    { self.setShard index ((self.shards index).erase key) with
      count := self.count - 1 }
  else self

/-- What `get` does to the session that it finds. -/
def touch (config : Config) (self : InMemorySessionStore) (key : Str)
    (now : Nat) : InMemorySessionStore :=
  let index := config.shard key
  self.setShard index ((self.shards index).replace key now)

/-- What `evict_idle` does while it holds the lock of one shard. -/
def evictShard (config : Config) (self : InMemorySessionStore)
    (index now : Nat) : InMemorySessionStore :=
  match config.ttlMs with
  | some ttl =>
    let before := self.shards index
    let after := before.retain now ttl
    { self.setShard index after with
      count := self.count - (before.keys.length - after.keys.length) }
  | none => self

end InMemorySessionStore

/-- In `evict_idle`, before this shard, or past the check and not yet stored. -/
inductive Phase where
  | evicting (index total now : Nat)
  | passed
deriving Repr, DecidableEq

/-- The store, and the requests for new sessions under way. -/
structure State where
  store : InMemorySessionStore
  requests : AList fun _ : Nat => Phase

/-- The two halves of a request, and other calls of the store. -/
inductive Action where
  /-- `is_full` up to its first `await`. -/
  | check (request now : Nat)
  /-- `evict_idle` for one shard; after the last, the end of `is_full`. -/
  | evict (request : Nat)
  | set (request : Nat) (sessionId : Str) (now : Nat)
  /-- The stream or the transport could not be made. -/
  | fail (request : Nat)
  | delete (sessionId : Str)
  | get (sessionId : Str) (now : Nat)
deriving Repr, DecidableEq

/-- An empty store, and no request past its check. -/
def initial : State :=
  ⟨.new, ∅⟩

/-- One half of a request, or one call of the store. -/
def step (config : Config) (state : State) : Action → Option State
  | .check request now =>
    if request ∈ state.requests then none
    else
      -- as long as the counter has not come round
      let phase := if state.store.count < config.maxSessions then .passed
        else .evicting 0 0 now
      some { state with requests := state.requests.insert request phase }
  | .evict request =>
    match state.requests.lookup request with
    | some (.evicting index total now) =>
      let store := state.store.evictShard config index now
      let total := total + (store.shards index).keys.length
      if index + 1 < shardCount then
        some ⟨store, state.requests.insert request (.evicting (index + 1) total now)⟩
      else if total ≥ config.maxSessions then
        -- 503 Service Unavailable
        some ⟨store, state.requests.erase request⟩
      else some ⟨store, state.requests.insert request .passed⟩
    | _ => none
  | .set request sessionId now =>
    if state.requests.lookup request = some .passed then
      some ⟨state.store.set config sessionId now, state.requests.erase request⟩
    else none
  | .fail request =>
    if state.requests.lookup request = some .passed then
      some { state with requests := state.requests.erase request }
    else none
  | .delete sessionId =>
    some { state with store := state.store.delete config sessionId }
  | .get sessionId now =>
    some { state with store := state.store.touch config sessionId now }

namespace InMemorySessionStore

variable (self : InMemorySessionStore) (shard : Shard)

theorem shards_setShard (index : Nat) (shard : Shard) :
    (self.setShard index shard).shards index = shard :=
  Function.update_self ..

variable {index : Nat}

theorem shards_setShard_of_ne {other : Nat} (hne : other ≠ index) :
    (self.setShard index shard).shards other = self.shards other :=
  Function.update_of_ne hne ..

theorem lenBelow_setShard_of_le {bound : Nat} (hbound : bound ≤ index) :
    (self.setShard index shard).lenBelow bound = self.lenBelow bound := by
  induction bound with
  | zero => rfl
  | succ bound ih =>
    have hne : bound ≠ index := by omega
    rw [lenBelow, lenBelow, ih (by omega), self.shards_setShard_of_ne shard hne]

theorem lenBelow_setShard {bound : Nat} (hbound : index < bound) :
    (self.setShard index shard).lenBelow bound + (self.shards index).keys.length =
      self.lenBelow bound + shard.keys.length := by
  induction bound with
  | zero => omega
  | succ bound ih =>
    rw [lenBelow, lenBelow]
    rcases Nat.lt_succ_iff_lt_or_eq.mp hbound with hless | rfl
    · have hne : bound ≠ index := by omega
      have hbelow := ih hless
      rw [self.shards_setShard_of_ne shard hne]
      omega
    · rw [self.shards_setShard, self.lenBelow_setShard_of_le shard (Nat.le_refl _)]
      omega

theorem lenBelow_count (count bound : Nat) :
    ({ self with count } : InMemorySessionStore).lenBelow bound =
      self.lenBelow bound := by
  induction bound with
  | zero => rfl
  | succ bound ih => rw [lenBelow, lenBelow, ih]

/-- No shard grows, and the counter still covers the sessions. -/
structure Reduces (before after : InMemorySessionStore) : Prop where
  lenBelow : ∀ bound, after.lenBelow bound ≤ before.lenBelow bound
  count : before.len ≤ before.count → after.len ≤ after.count

theorem Reduces.refl : self.Reduces self :=
  ⟨fun _ => Nat.le_refl _, fun hcount => hcount⟩

theorem setShard_reduces {shard : Shard} {count : Nat} (hindex : index < shardCount)
    (hlen : shard.keys.length ≤ (self.shards index).keys.length)
    (hcount : self.count ≤ count + ((self.shards index).keys.length - shard.keys.length)) :
    self.Reduces { self.setShard index shard with count } := by
  constructor
  · intro bound
    rw [lenBelow_count]
    by_cases hbound : index < bound
    · have hsum := self.lenBelow_setShard shard hbound
      omega
    · rw [self.lenBelow_setShard_of_le shard (by omega)]
  · intro hcovers
    have hsum := self.lenBelow_setShard shard hindex
    unfold len at hcovers ⊢
    rw [lenBelow_count]
    change _ ≤ count
    omega

theorem delete_reduces (config : Config) (self : InMemorySessionStore)
    (key : Str) : self.Reduces (self.delete config key) := by
  simp only [delete]
  split
  · next hmem =>
    have hlen := length_keys_erase hmem
    apply self.setShard_reduces (config.shard_lt key)
    · omega
    · omega
  · exact Reduces.refl self

theorem touch_reduces (config : Config) (self : InMemorySessionStore)
    (key : Str) (now : Nat) : self.Reduces (self.touch config key now) := by
  refine self.setShard_reduces (config.shard_lt key) ?_ ?_
  · rw [AList.keys_replace]
  · exact Nat.le_add_right _ _

theorem retain_length_le (now ttl : Nat) :
    (shard.retain now ttl).keys.length ≤ shard.keys.length := by
  simp only [AList.keys, List.keys, length_map]
  exact length_filter_le _ _

theorem evictShard_reduces (config : Config) (self : InMemorySessionStore)
    (hindex : index < shardCount) (now : Nat) :
    self.Reduces (self.evictShard config index now) := by
  unfold evictShard
  split
  · next ttl httl =>
    apply self.setShard_reduces hindex (retain_length_le _ now ttl)
    omega
  · exact Reduces.refl self

theorem set_len (config : Config) (self : InMemorySessionStore) (key : Str) (now : Nat) :
    (self.set config key now).len ≤ self.len + 1 ∧
      (self.set config key now).count = self.count + 1 := by
  refine ⟨?_, rfl⟩
  have hsum := self.lenBelow_setShard
    ((self.shards (config.shard key)).insert key now) (config.shard_lt key)
  have hlen := length_keys_insert_le (self.shards (config.shard key)) key now
  unfold len set
  rw [lenBelow_count]
  omega

end InMemorySessionStore

/-- The requests in `evict_idle` are before one of the shards. -/
def Indexed (requests : AList fun _ : Nat => Phase) : Prop :=
  ∀ request index total now,
    requests.lookup request = some (.evicting index total now) → index < shardCount

variable {requests : AList fun _ : Nat => Phase}

variable {phase : Phase}

theorem Indexed.insert (hrequests : Indexed requests)
    (hphase : ∀ index total now, phase = .evicting index total now → index < shardCount)
    (request : Nat) : Indexed (requests.insert request phase) := by
  intro other index total now hother
  by_cases heq : other = request
  · subst heq
    rw [AList.lookup_insert, some.injEq] at hother
    exact hphase index total now hother
  · rw [AList.lookup_insert_ne heq] at hother
    exact hrequests other index total now hother

theorem Indexed.erase (hrequests : Indexed requests) (request : Nat) :
    Indexed (requests.erase request) := by
  intro other index total now hother
  by_cases heq : other = request
  · subst heq
    rw [AList.lookup_erase] at hother
    cases hother
  · rw [AList.lookup_erase_ne heq] at hother
    exact hrequests other index total now hother

theorem mem_of_lookup {request : Nat} (hphase : requests.lookup request = some phase) :
    request ∈ requests := by
  rw [← AList.lookup_isSome, hphase]
  rfl

/-- The only request counts, and has covered the shards behind it. -/
def Counting (store : InMemorySessionStore) (requests : AList fun _ : Nat => Phase) : Prop :=
  ∃ request index total now, requests.keys = [request] ∧
    requests.lookup request = some (.evicting index total now) ∧
    store.lenBelow index ≤ total

theorem Counting.of_lookup {store : InMemorySessionStore} (hcounting : Counting store requests)
    {request : Nat} (hphase : requests.lookup request = some phase) :
    requests.keys = [request] ∧ ∃ index total now, phase = .evicting index total now ∧
        store.lenBelow index ≤ total := by
  obtain ⟨other, index, total, now, hkeys, hother, htotal⟩ := hcounting
  have hmem := AList.mem_keys.mp (mem_of_lookup hphase)
  rw [hkeys, mem_singleton] at hmem
  subst hmem
  rw [hother, some.injEq] at hphase
  exact ⟨hkeys, index, total, now, hphase.symm, htotal⟩

/-- The counter covers the sessions, and there is room for all requests, or the
only one still counts. -/
structure Bounded (config : Config) (store : InMemorySessionStore)
    (requests : AList fun _ : Nat => Phase) : Prop where
  count : store.len ≤ store.count
  indexed : Indexed requests
  room : store.len + requests.keys.length ≤ config.maxSessions ∨
    (store.len ≤ config.maxSessions ∧ Counting store requests)

namespace Bounded

variable {config : Config} {store : InMemorySessionStore}
  {requests : AList fun _ : Nat => Phase}

theorem initial (config : Config) : Bounded config .new ∅ := by
  refine ⟨Nat.le_refl _, ?_, .inl (Nat.zero_le _)⟩
  intro request index total now hphase
  cases hphase

section

variable (hbounded : Bounded config store requests)

include hbounded

theorem len_le : store.len ≤ config.maxSessions := by
  rcases hbounded.room with hroom | ⟨hlen, -⟩
  · omega
  · exact hlen

variable {request : Nat}

theorem room_of_passed (hphase : requests.lookup request = some .passed) :
    store.len + requests.keys.length ≤ config.maxSessions := by
  rcases hbounded.room with hroom | ⟨-, hcounting⟩
  · exact hroom
  · obtain ⟨-, _, _, _, heq, -⟩ := hcounting.of_lookup hphase
    cases heq

theorem reduces {after : InMemorySessionStore}
    (hafter : store.Reduces after) : Bounded config after requests := by
  have hlen : after.len ≤ store.len := hafter.lenBelow shardCount
  refine ⟨hafter.count hbounded.count, hbounded.indexed, ?_⟩
  rcases hbounded.room with hroom | ⟨hmax, hcounting⟩
  · left
    omega
  · obtain ⟨request, index, total, now, hkeys, hphase, htotal⟩ := hcounting
    exact .inr ⟨Nat.le_trans hlen hmax, request, index, total, now, hkeys,
      hphase, Nat.le_trans (hafter.lenBelow index) htotal⟩

theorem erase (hrequest : request ∈ requests) : Bounded config store (requests.erase request) := by
  have hkeys := length_keys_erase hrequest
  refine ⟨hbounded.count, hbounded.indexed.erase request, .inl ?_⟩
  rcases hbounded.room with hroom | ⟨hmax, other, index, total, now, hone, -⟩
  · omega
  · rw [hone, length_singleton] at hkeys
    omega

theorem set {request : Nat} (hphase : requests.lookup request = some .passed) (sessionId : Str)
    (now : Nat) : Bounded config (store.set config sessionId now) (requests.erase request) := by
  obtain ⟨hlen, hcount⟩ := store.set_len config sessionId now
  have hkeys := length_keys_erase (mem_of_lookup hphase)
  have hcovers := hbounded.count
  have hroom := hbounded.room_of_passed hphase
  refine ⟨?_, hbounded.indexed.erase request, .inl ?_⟩
  · omega
  · omega

theorem check_of_room (hroom : store.len + requests.keys.length < config.maxSessions)
    (hnew : request ∉ requests) {phase : Phase}
    (hphase : ∀ index total now, phase = .evicting index total now → index < shardCount) :
    Bounded config store (requests.insert request phase) := by
  refine ⟨hbounded.count, hbounded.indexed.insert hphase request, .inl ?_⟩
  rw [length_keys_insert_of_not_mem hnew]
  omega

theorem check_alone (halone : requests.keys = [])
    (request now : Nat) : Bounded config store (requests.insert request (.evicting 0 0 now)) := by
  refine ⟨hbounded.count, hbounded.indexed.insert ?_ request,
    .inr ⟨hbounded.len_le, request, 0, 0, now, ?_, ?_, Nat.le_refl _⟩⟩
  · intro index total time hphase
    cases hphase
    decide
  · rw [AList.keys_insert, halone]
    rfl
  · rw [AList.lookup_insert]

theorem evict {request index total now : Nat}
    (hphase : requests.lookup request = some (.evicting index total now))
    (hindex : index + 1 < shardCount) :
    Bounded config store (requests.insert request (.evicting (index + 1)
      (total + (store.shards index).keys.length) now)) := by
  refine ⟨hbounded.count, hbounded.indexed.insert ?_ request, ?_⟩
  · intro place sum time heq
    cases heq
    exact hindex
  · rcases hbounded.room with hroom | ⟨hmax, hcounting⟩
    · left
      rw [length_keys_insert_of_mem (mem_of_lookup hphase)]
      exact hroom
    · obtain ⟨hkeys, _, _, _, heq, htotal⟩ := hcounting.of_lookup hphase
      cases heq
      refine .inr ⟨hmax, request, _, _, _, ?_, AList.lookup_insert _, Nat.add_le_add_right htotal _⟩
      rw [AList.keys_insert, hkeys, erase_cons_head]

theorem pass {request index total now : Nat}
    (hphase : requests.lookup request = some (.evicting index total now))
    (hindex : shardCount ≤ index + 1)
    (htotal : total + (store.shards index).keys.length < config.maxSessions) :
    Bounded config store (requests.insert request .passed) := by
  have hbefore := hbounded.indexed request index total now hphase
  refine ⟨hbounded.count, hbounded.indexed.insert ?_ request, .inl ?_⟩
  · intro place sum time heq
    cases heq
  · rw [length_keys_insert_of_mem (mem_of_lookup hphase)]
    rcases hbounded.room with hroom | ⟨hmax, hcounting⟩
    · exact hroom
    · obtain ⟨hone, _, _, _, heq, hcovers⟩ := hcounting.of_lookup hphase
      cases heq
      have hlast : shardCount = index + 1 := by omega
      rw [hone, length_singleton, InMemorySessionStore.len, hlast, InMemorySessionStore.lenBelow]
      omega

end

end Bounded

/-- A check starts when no other is under way, or with room for all and itself. -/
def HasRoom (config : Config) (state : State) : Action → Prop
  | .check _ _ => state.requests.keys = [] ∨
      state.store.len + state.requests.keys.length < config.maxSessions
  | _ => True

instance (config : Config) (state : State) :
    DecidablePred (HasRoom config state)
  | .check _ _ => inferInstanceAs (Decidable (_ ∨ _))
  | .evict _ | .set _ _ _ | .fail _ | .delete _ | .get _ _ => isTrue trivial

/-- A step that has room keeps the sessions bounded. -/
theorem bounded_step {config : Config} {state next : State} {action : Action}
    (hstate : Bounded config state.store state.requests) (hroom : HasRoom config state action)
    (hstep : step config state action = some next) : Bounded config next.store next.requests := by
  cases action with
  | check request now =>
    simp only [step] at hstep
    split at hstep
    · cases hstep
    · next hnew =>
      cases hstep
      rcases hroom with hnone | hroom
      · split
        · next hcount =>
          have hcovers := hstate.count
          refine hstate.check_of_room ?_ hnew (by simp)
          rw [hnone, length_nil]
          omega
        · exact hstate.check_alone hnone request now
      · refine hstate.check_of_room hroom hnew ?_
        intro index total time heq
        split at heq
        · cases heq
        · cases heq
          decide
  | evict request =>
    simp only [step] at hstep
    split at hstep
    · next index total now hphase =>
      have hbefore := hstate.indexed request index total now hphase
      have hevicted := hstate.reduces (state.store.evictShard_reduces config hbefore now)
      split at hstep
      · next hindex =>
        cases hstep
        exact hevicted.evict hphase hindex
      · next hindex =>
        split at hstep
        · cases hstep
          exact hevicted.erase (mem_of_lookup hphase)
        · next htotal =>
          cases hstep
          exact hevicted.pass hphase (by omega) (by omega)
    · cases hstep
  | set request sessionId now =>
    obtain ⟨hphase, ⟨⟩⟩ := Lts.of_guard hstep
    exact hstate.set hphase sessionId now
  | fail request =>
    obtain ⟨hphase, ⟨⟩⟩ := Lts.of_guard hstep
    exact hstate.erase (mem_of_lookup hphase)
  | delete sessionId =>
    cases hstep
    exact hstate.reduces (state.store.delete_reduces config sessionId)
  | get sessionId now =>
    cases hstep
    exact hstate.reduces (state.store.touch_reduces config sessionId now)

/-- In every interleaving in which a check starts with room for all requests
under way and itself, or alone, the sessions never exceed the limit. -/
theorem run_len_le_maxSessions (config : Config) {actions : List Action} {final : State}
    (hroom : Lts.Along (step config) (HasRoom config) initial actions)
    (hrun : Lts.run (step config) initial actions = some final) :
    final.store.len ≤ config.maxSessions := by
  have hbounded : Bounded config final.store final.requests :=
    @Lts.run_invariant _ _ _ _ (fun state => Bounded config state.store state.requests)
      (fun hstate hcondition hstep => bounded_step hstate hcondition hstep)
      _ _ _ (Bounded.initial config) hroom hrun
  exact hbounded.len_le

namespace SessionStoreWitness

def config : Config :=
  ⟨List.length, 1, none⟩

/-- Two requests that both pass the check before either has its session. -/
def racing : List Action :=
  [.check 0 0, .check 1 0, .set 0 "a" 0, .set 1 "b" 0]

theorem racing_exceeds_maxSessions :
    ∃ final, Lts.run (step config) initial racing = some final ∧
      ¬ final.store.len ≤ config.maxSessions := by
  have hrun : Lts.run (step config) initial racing = some _ := rfl
  exact ⟨_, hrun, by decide⟩

/-- A second request finds the store full; a third one comes after a deletion. -/
def serial : List Action :=
  ([.check 0 0, .set 0 "a" 0, .check 1 5] : List Action) ++
    List.replicate shardCount (Action.evict 1) ++
    ([.delete "a", .check 2 6, .set 2 "b" 7] : List Action)

theorem serial_within_maxSessions :
    ∃ final, Lts.run (step config) initial serial = some final ∧
      final.store.len ≤ config.maxSessions := by
  have hrun : Lts.run (step config) initial serial = some _ := rfl
  exact ⟨_, hrun, run_len_le_maxSessions config (by decide) hrun⟩

end SessionStoreWitness

end McpSdk.SessionStore
