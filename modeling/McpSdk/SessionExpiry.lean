/-
The session store one call after the other: what `is_full` answers, and when an
idle session is gone. Idle sessions are dropped only when the counter is at the
limit.
-/
import McpSdk.SessionStore

namespace McpSdk.SessionStore

namespace InMemorySessionStore

def clear (self : InMemorySessionStore) : InMemorySessionStore :=
  ⟨fun index => if index < shardCount then ∅ else self.shards index, 0⟩

/-- `evict_idle` over the first shards: the sessions left, and the store. -/
def evictBelow (config : Config) (self : InMemorySessionStore) (now : Nat) :
    Nat → Nat × InMemorySessionStore
  | 0 => (0, self)
  | index + 1 =>
    let result := self.evictBelow config now index
    let store := result.2.evictShard config index now
    (result.1 + (store.shards index).keys.length, store)

def evictIdle (config : Config) (self : InMemorySessionStore) (now : Nat) :
    Nat × InMemorySessionStore :=
  self.evictBelow config now shardCount

/-- `count.load`. -/
def loadCount (self : InMemorySessionStore) : Nat :=
  self.count % Nat.pow 2 64

def isFull (config : Config) (self : InMemorySessionStore) (now : Nat) :
    Bool × InMemorySessionStore :=
  if self.loadCount < config.maxSessions then (false, self)
  else
    let result := self.evictIdle config now
    (result.1 ≥ config.maxSessions, result.2)

def has (config : Config) (self : InMemorySessionStore) (key : Str) : Bool :=
  key ∈ self.shards (config.shard key)

/-- `get`, with whether it finds the session. -/
def get (config : Config) (self : InMemorySessionStore) (key : Str)
    (now : Nat) : Bool × InMemorySessionStore :=
  (self.has config key, self.touch config key now)

end InMemorySessionStore

/-- A session with this last access is not idle; without a time to live none
is. -/
def Config.awake (self : Config) (now lastAccess : Nat) : Bool :=
  self.idleTtl.all fun ttl => !isIdle lastAccess now ttl

/-- `evict_idle` leaves a session with this last access where it is. -/
def Config.keeps (self : Config) (now lastAccess : Nat) : Bool :=
  self.ttlMs.all fun ttl => !isIdle lastAccess now ttl

theorem Config.keeps_eq_awake {self : Config} (httl : ∀ ttl ∈ self.idleTtl, ttl < Nat.pow 2 64) :
    self.keeps = self.awake := by
  unfold keeps awake ttlMs
  cases hidle : self.idleTtl with
  | none => rfl
  | some ttl => rw [Option.map_some, Nat.mod_eq_of_lt (httl ttl hidle)]

/-- The sessions in the first shards whose last access fulfils the condition. -/
def InMemorySessionStore.countBelow (self : InMemorySessionStore) (condition : Nat → Bool) :
    Nat → Nat
  | 0 => 0
  | index + 1 => self.countBelow condition index +
      (self.shards index).entries.countP fun entry => condition entry.2

/-- The sessions that are not idle. -/
def InMemorySessionStore.awakeLen (config : Config)
    (self : InMemorySessionStore) (now : Nat) : Nat :=
  self.countBelow (config.awake now) shardCount

inductive Call where
  | set (key : Str)
  | get (key : Str)
  | has (key : Str)
  | delete (key : Str)
  | clear
  | isFull
deriving Repr, DecidableEq

def InMemorySessionStore.perform (config : Config) (self : InMemorySessionStore) (call : Call)
    (now : Nat) : InMemorySessionStore :=
  match call with
  | .set key => self.set config key now
  | .get key => (self.get config key now).2
  | .has _ => self
  | .delete key => self.delete config key
  | .clear => self.clear
  | .isFull => (self.isFull config now).2

/-- The store after calls at any instants, one after the other. -/
def performAll (config : Config) (calls : List (Call × Nat)) : InMemorySessionStore :=
  calls.foldl (fun store call => store.perform config call.1 call.2) .new

namespace InMemorySessionStore

variable (config : Config) (self : InMemorySessionStore)

theorem keys_evictShard (index now : Nat) :
    ((self.evictShard config index now).shards index).keys.length =
      (self.shards index).entries.countP fun entry =>
        config.keeps now entry.2 := by
  unfold evictShard Config.keeps
  cases config.ttlMs with
  | none => simp [AList.keys, List.keys]
  | some ttl =>
    simp only [shards_setShard, Option.all_some]
    rw [AList.keys, List.keys, List.length_map, List.countP_eq_length_filter]
    rfl

theorem evictShard_shards_of_ne {index other : Nat} (hne : other ≠ index) (now : Nat) :
    (self.evictShard config index now).shards other = self.shards other := by
  unfold evictShard
  cases config.ttlMs with
  | none => rfl
  | some ttl => exact self.shards_setShard_of_ne _ hne

theorem evictBelow_shards_of_le (now : Nat) {index bound : Nat} (hindex : bound ≤ index) :
    (self.evictBelow config now bound).2.shards index = self.shards index := by
  induction bound with
  | zero => rfl
  | succ bound ih =>
    rw [evictBelow, evictShard_shards_of_ne config _ (by omega), ih (by omega)]

theorem evictBelow_total (now bound : Nat) :
    (self.evictBelow config now bound).1 = self.countBelow (config.keeps now) bound := by
  induction bound with
  | zero => rfl
  | succ bound ih =>
    rw [evictBelow, countBelow, keys_evictShard, ih,
      evictBelow_shards_of_le config self now (Nat.le_refl _)]

theorem countBelow_le (self : InMemorySessionStore) (condition : Nat → Bool) (bound : Nat) :
    self.countBelow condition bound ≤ self.lenBelow bound := by
  induction bound with
  | zero => exact Nat.le_refl _
  | succ bound ih =>
    have hshard : (self.shards bound).entries.countP (fun entry => condition entry.2) ≤
        (self.shards bound).keys.length := by
      rw [AList.keys, List.keys, List.length_map]
      exact List.countP_le_length
    rw [countBelow, lenBelow]
    omega

theorem evictBelow_reduces (now : Nat) {bound : Nat} (hbound : bound ≤ shardCount) :
    self.Reduces (self.evictBelow config now bound).2 := by
  induction bound with
  | zero => exact Reduces.refl self
  | succ bound ih =>
    have hbefore := ih (by omega)
    have hshard := (self.evictBelow config now bound).2.evictShard_reduces config hbound now
    exact ⟨fun index => Nat.le_trans (hshard.lenBelow index)
      (hbefore.lenBelow index), fun hcount =>
        hshard.count (hbefore.count hcount)⟩

theorem isFull_reduces (now : Nat) : self.Reduces (self.isFull config now).2 := by
  unfold isFull
  split
  · exact Reduces.refl self
  · exact self.evictBelow_reduces config now (Nat.le_refl _)

theorem lenBelow_clear (self : InMemorySessionStore) {bound : Nat}
    (hbound : bound ≤ shardCount) : self.clear.lenBelow bound = 0 := by
  induction bound with
  | zero => rfl
  | succ bound ih =>
    have hempty : self.clear.shards bound = ∅ := if_pos hbound
    rw [lenBelow, ih (by omega), hempty]
    rfl

/-- The counter covers the sessions, whatever is called. -/
theorem len_le_count_perform (config : Config) {self : InMemorySessionStore}
    (hself : self.len ≤ self.count) (call : Call) (now : Nat) :
    (self.perform config call now).len ≤ (self.perform config call now).count := by
  cases call with
  | set key =>
    obtain ⟨hlen, hcount⟩ := self.set_len config key now
    change (self.set config key now).len ≤ (self.set config key now).count
    omega
  | get key => exact (self.touch_reduces config key now).count hself
  | has key => exact hself
  | delete key => exact (self.delete_reduces config key).count hself
  | clear => exact Nat.le_of_eq (self.lenBelow_clear (Nat.le_refl _))
  | isFull => exact (self.isFull_reduces config now).count hself

theorem len_le_count (config : Config) (calls : List (Call × Nat)) :
    (performAll config calls).len ≤ (performAll config calls).count := by
  induction calls using List.reverseRecOn with
  | nil => exact Nat.le_refl _
  | append_singleton calls call ih =>
    rw [performAll, List.foldl_concat]
    exact len_le_count_perform config ih call.1 call.2

end InMemorySessionStore

/-- After any calls, `is_full` answers whether as many sessions as the limit are
not idle, as long as the time to live and the counter have 64 bits. -/
theorem isFull_iff_awakeLen (config : Config) (httl : ∀ ttl ∈ config.idleTtl, ttl < Nat.pow 2 64)
    (calls : List (Call × Nat)) (hwrap : (performAll config calls).count < Nat.pow 2 64)
    (now : Nat) :
    ((performAll config calls).isFull config now).1 = true ↔
      config.maxSessions ≤ (performAll config calls).awakeLen config now := by
  have hcount := InMemorySessionStore.len_le_count config calls
  generalize performAll config calls = store at hcount hwrap ⊢
  unfold InMemorySessionStore.isFull
  split
  · next hfast =>
    rw [InMemorySessionStore.loadCount, Nat.mod_eq_of_lt hwrap] at hfast
    -- idle sessions are counted, so the fast path has room to spare
    have hawake := store.countBelow_le (config.awake now) shardCount
    have hless : store.awakeLen config now < config.maxSessions := by
      unfold InMemorySessionStore.awakeLen
      unfold InMemorySessionStore.len at hcount
      omega
    exact iff_of_false Bool.false_ne_true (Nat.not_le.mpr hless)
  · rw [decide_eq_true_eq, InMemorySessionStore.evictIdle, InMemorySessionStore.evictBelow_total,
      Config.keeps_eq_awake httl]
    rfl

namespace SessionCapacityWitness

def config (idleTtl : Option Nat) : Config :=
  ⟨List.length, 1, idleTtl⟩

theorem performAll_replicate_set (config : Config) (key : Str) (now count : Nat) :
    performAll config (List.replicate (count + 1) (.set key, now)) =
      { InMemorySessionStore.new.set config key now with count := count + 1 } := by
  induction count with
  | zero => rfl
  | succ count ih =>
    rw [List.replicate_succ', performAll, List.foldl_concat, ← performAll, ih]
    simp [InMemorySessionStore.perform, InMemorySessionStore.set, InMemorySessionStore.setShard]

/-- `Duration::from_secs(18446744073709552)` has 2^64 + 384 milliseconds, so a
session that is not idle is dropped; and one is overlooked by a counter that
came round. -/
theorem isFull_misses_awake :
    (((performAll (config (some 18446744073709552000)) [(.set "a", 0)]).isFull
        (config (some 18446744073709552000)) 400).1 = false ∧
      (performAll (config (some 18446744073709552000)) [(.set "a", 0)]).awakeLen
        (config (some 18446744073709552000)) 400 = 1) ∧
    ∃ calls, calls.length = Nat.pow 2 64 ∧
      ((performAll (config none) calls).isFull (config none) 0).1 = false ∧
      (performAll (config none) calls).awakeLen (config none) 0 = 1 := by
  refine ⟨by decide, List.replicate (Nat.pow 2 64 - 1 + 1) (.set "a", 0), ?_, ?_⟩
  · exact List.length_replicate
  · rw [performAll_replicate_set]
    decide

theorem isFull_full :
    ((performAll (config (some 10)) [(.set "a", 0)]).isFull (config (some 10)) 10).1 = true :=
  (isFull_iff_awakeLen (config (some 10)) (by decide) [(.set "a", 0)] (by decide) 10).mpr
    (by decide)

end SessionCapacityWitness

namespace InMemorySessionStore

variable (config : Config) (self : InMemorySessionStore)

/-- The store as a map, over all shards. -/
def sessions (key : Str) : Option Nat :=
  (self.shards (config.shard key)).lookup key

theorem has_eq (key : Str) : self.has config key = (self.sessions config key).isSome := by
  unfold has sessions
  rw [Bool.eq_iff_iff, decide_eq_true_eq, AList.lookup_isSome]

theorem lookup_retain (shard : Shard) (now ttl : Nat) (key : Str) :
    (shard.retain now ttl).lookup key = (shard.lookup key).filter fun lastAccess =>
        !isIdle lastAccess now ttl := by
  apply Option.ext
  intro lastAccess
  change lastAccess ∈ (shard.retain now ttl).lookup key ↔ lastAccess ∈ (shard.lookup key).filter _
  rw [AList.mem_lookup_iff, Option.mem_filter_iff, AList.mem_lookup_iff]
  exact List.mem_filter

theorem lookup_replace (shard : Shard) (key other : Str) (now : Nat) :
    (shard.replace key now).lookup other =
      if other = key then (shard.lookup key).map fun _ => now
      else shard.lookup other := by
  obtain ⟨entries, hnodup⟩ := shard
  change (entries.kreplace key now).dlookup other =
    if other = key then (entries.dlookup key).map fun _ => now
    else entries.dlookup other
  clear hnodup
  induction entries with
  | nil => simp [List.kreplace]
  | cons entry entries ih =>
    obtain ⟨head, lastAccess⟩ := entry
    by_cases hhead : head = key
    · subst hhead
      have hhit : ((⟨head, lastAccess⟩ : Sigma fun _ => Nat) ::
          entries).kreplace head now = ⟨head, now⟩ :: entries :=
        List.lookmap_cons_some _ _ (if_pos rfl)
      rw [hhit]
      by_cases hother : other = head
      · subst hother
        simp
      · rw [if_neg hother, List.dlookup_cons_ne _ _ hother, List.dlookup_cons_ne _ _ hother]
    · have hmiss : ((⟨head, lastAccess⟩ : Sigma fun _ => Nat) ::
          entries).kreplace key now = ⟨head, lastAccess⟩ :: entries.kreplace key now :=
        List.lookmap_cons_none _ _ (if_neg (Ne.symm hhead))
      rw [hmiss]
      by_cases hother : other = head
      · subst hother
        simp [hhead]
      · rw [List.dlookup_cons_ne _ _ hother, ih, List.dlookup_cons_ne _ _ (Ne.symm hhead),
          List.dlookup_cons_ne _ _ hother]

theorem sessions_setShard {key : Str} {shard : Shard}
    (hshard : ∀ other, other ≠ key → shard.lookup other =
      (self.shards (config.shard key)).lookup other) :
    (self.setShard (config.shard key) shard).sessions config =
      Function.update (self.sessions config) key (shard.lookup key) := by
  funext other
  by_cases heq : other = key
  · subst heq
    rw [Function.update_self, sessions, shards_setShard]
  · rw [Function.update_of_ne heq, sessions, sessions]
    by_cases hsame : config.shard other = config.shard key
    · rw [hsame, shards_setShard, hshard other heq]
    · rw [self.shards_setShard_of_ne shard hsame]

theorem sessions_set (key : Str) (now : Nat) :
    (self.set config key now).sessions config =
      Function.update (self.sessions config) key (some now) := by
  refine (self.sessions_setShard config fun other hne =>
    AList.lookup_insert_ne hne).trans ?_
  rw [AList.lookup_insert]

theorem sessions_touch (key : Str) (now : Nat) :
    (self.touch config key now).sessions config = Function.update (self.sessions config) key
        ((self.sessions config key).map fun _ => now) := by
  rw [touch, self.sessions_setShard config fun other hne => by
    rw [lookup_replace, if_neg hne], lookup_replace, if_pos rfl]
  rfl

theorem sessions_delete (key : Str) :
    (self.delete config key).sessions config = Function.update (self.sessions config) key none := by
  simp only [delete]
  split
  · refine (self.sessions_setShard config fun other hne =>
      AList.lookup_erase_ne hne).trans ?_
    rw [AList.lookup_erase]
  · next habsent =>
    have hnone : self.sessions config key = none := AList.lookup_eq_none.mpr habsent
    rw [← hnone, Function.update_eq_self]

theorem sessions_clear : self.clear.sessions config = fun _ => none := by
  funext key
  have hempty : self.clear.shards (config.shard key) = ∅ := if_pos (config.shard_lt key)
  rw [sessions, hempty, AList.lookup_empty]

theorem has_touch (key : Str) (now : Nat) :
    (self.touch config key now).has config key = self.has config key := by
  rw [has_eq, has_eq, sessions_touch, Function.update_self, Option.isSome_map]

theorem lookup_evictShard (index now : Nat) (key : Str) :
    ((self.evictShard config index now).shards index).lookup key =
      ((self.shards index).lookup key).filter (config.keeps now) := by
  unfold evictShard
  cases httl : config.ttlMs with
  | none =>
    have hkeeps : config.keeps now = fun _ => true := by
      funext lastAccess
      rw [Config.keeps, httl, Option.all_none]
    rw [hkeeps]
    cases (self.shards index).lookup key with
    | none | some => rfl
  | some ttl =>
    have hkeeps : config.keeps now = fun lastAccess =>
        !isIdle lastAccess now ttl := by
      funext lastAccess
      rw [Config.keeps, httl, Option.all_some]
    rw [hkeeps]
    simp only [shards_setShard]
    exact lookup_retain _ now ttl key

theorem lookup_evictBelow (now : Nat) (key : Str) {index bound : Nat} (hindex : index < bound) :
    ((self.evictBelow config now bound).2.shards index).lookup key =
      ((self.shards index).lookup key).filter (config.keeps now) := by
  induction bound with
  | zero => omega
  | succ bound ih =>
    rw [evictBelow]
    rcases Nat.lt_succ_iff_lt_or_eq.mp hindex with hless | rfl
    · rw [evictShard_shards_of_ne config _ (by omega), ih hless]
    · rw [lookup_evictShard, evictBelow_shards_of_le config self now (Nat.le_refl _)]

/-- Only an `is_full` that finds the counter at the limit drops sessions. -/
theorem sessions_isFull (now : Nat) :
    (self.isFull config now).2.sessions config =
      if self.loadCount < config.maxSessions then self.sessions config
      else fun key => (self.sessions config key).filter
        (config.keeps now) := by
  unfold isFull
  split
  · rfl
  · funext key
    exact self.lookup_evictBelow config now key (config.shard_lt key)

end InMemorySessionStore

/-- The store, the last use of each session, and whether it was removed since. -/
structure Usage where
  store : InMemorySessionStore
  lastUse : Str → Option Nat
  removed : Str → Bool

namespace Usage

/-- No session has been used. -/
def initial : Usage :=
  ⟨.new, fun _ => none, fun _ => false⟩

/-- The instant is later than the time to live after the last use. -/
def late (config : Config) (self : Usage) (key : Str) (now : Nat) : Bool :=
  (self.lastUse key).any fun lastUse => !config.awake now lastUse

/-- The instant is late for the session by the clock of `evict_idle`. -/
def swept (config : Config) (self : Usage) (key : Str) (now : Nat) : Bool :=
  (self.lastUse key).any fun lastUse => !config.keeps now lastUse

/-- A session is removed by name, with all others, or by a late `is_full` that
finds the counter at the limit. -/
def record (config : Config) (self : Usage) (call : Call) (now : Nat) : Usage :=
  let store := self.store.perform config call now
  match call with
  | .set key =>
    ⟨store, Function.update self.lastUse key (some now), Function.update self.removed key false⟩
  | .get key =>
    { self with
      store
      lastUse := if self.store.has config key then
        Function.update self.lastUse key (some now) else self.lastUse }
  | .has _ => { self with store }
  | .delete key =>
    { self with store, removed := Function.update self.removed key true }
  | .clear => { self with store, removed := fun _ => true }
  | .isFull =>
    { self with
      store
      removed := fun key => self.removed key ||
        (decide (config.maxSessions ≤ self.store.loadCount) && self.swept config key now) }

/-- One call of the store, at its time. -/
def step (config : Config) (self : Usage) (call : Call × Nat) : Option Usage :=
  some (self.record config call.1 call.2)

/-- A late `get` or `has` does not find the session. -/
def MissesLate (config : Config) (self : Usage) (call : Call × Nat) : Prop :=
  ∀ key, call.1 = .get key ∨ call.1 = .has key →
    self.late config key call.2 = true → self.store.has config key = false

/-- A late `get` or `has` comes after a call that has removed the session. -/
def RemovedBefore (config : Config) (self : Usage) (call : Call × Nat) : Prop :=
  ∀ key, call.1 = .get key ∨ call.1 = .has key →
    self.late config key call.2 = true → self.removed key = true

/-- The store has the sessions that are not removed, with their last use. -/
def Recorded (config : Config) (self : Usage) : Prop :=
  self.store.sessions config = fun key =>
    if self.removed key then none else self.lastUse key

theorem initial_recorded (config : Config) : Recorded config initial :=
  rfl

theorem Recorded.has_eq {config : Config} {self : Usage}
    (hself : Recorded config self) (key : Str) :
    self.store.has config key = (!self.removed key && (self.lastUse key).isSome) := by
  rw [self.store.has_eq, hself]
  cases hremoved : self.removed key with
  | true | false => simp [hremoved]

theorem Recorded.record {config : Config} {self : Usage} (hself : Recorded config self)
    (call : Call) (now : Nat) : Recorded config (self.record config call now) := by
  funext other
  cases call with
  | set key =>
    change (self.store.set config key now).sessions config other = _
    rw [InMemorySessionStore.sessions_set, hself]
    by_cases heq : other = key
    · subst heq
      simp [Usage.record]
    · simp [Usage.record, heq]
  | get key =>
    change (self.store.touch config key now).sessions config other = _
    rw [InMemorySessionStore.sessions_touch, hself]
    simp only [Usage.record, hself.has_eq]
    by_cases heq : other = key
    · subst heq
      cases self.removed other with
      | true => simp
      | false =>
        cases hlast : self.lastUse other with
        | none => simp [hlast]
        | some lastUse => simp
    · rw [Function.update_of_ne heq, ite_apply, Function.update_of_ne heq, ite_self]
  | has key => exact congrFun hself other
  | delete key =>
    change (self.store.delete config key).sessions config other = _
    rw [InMemorySessionStore.sessions_delete, hself]
    by_cases heq : other = key
    · subst heq
      simp [Usage.record]
    · simp [Usage.record, heq]
  | clear =>
    change self.store.clear.sessions config other = none
    rw [InMemorySessionStore.sessions_clear]
  | isFull =>
    change (self.store.isFull config now).2.sessions config other = _
    rw [InMemorySessionStore.sessions_isFull, hself]
    simp only [Usage.record, swept]
    by_cases hfast : self.store.loadCount < config.maxSessions
    · simp [hfast, Nat.not_le.mpr hfast]
    · simp only [if_neg hfast, Nat.not_lt.mp hfast, decide_true, Bool.true_and]
      cases self.removed other with
      | true => rfl
      | false =>
        cases self.lastUse other with
        | none => rfl
        | some lastUse =>
          cases hkeeps : config.keeps now lastUse with
          | true | false => simp [hkeeps]

/-- A call keeps the record of the uses in line with the store. -/
theorem Recorded.step {config : Config} {self next : Usage}
    {call : Call × Nat} (hself : Recorded config self)
    (hstep : self.step config call = some next) : Recorded config next := by
  cases hstep
  exact hself.record call.1 call.2

theorem Recorded.misses_iff {config : Config} {self : Usage} (hself : Recorded config self)
    (call : Call × Nat) : MissesLate config self call ↔ RemovedBefore config self call := by
  refine forall_congr' fun key => forall_congr' fun _ =>
    forall_congr' fun hlate => ?_
  have hused : (self.lastUse key).isSome = true := by
    obtain ⟨lastUse, hlast, -⟩ := (Option.any_eq_true _ _).mp hlate
    rw [hlast, Option.isSome_some]
  rw [hself.has_eq, hused]
  simp

end Usage

/-- No late `get` or `has` finds its session exactly when it was deleted,
cleared, or swept by an `is_full` at the limit before. -/
theorem late_misses_iff (config : Config) (calls : List (Call × Nat)) :
    Lts.Along (Usage.step config) (Usage.MissesLate config) .initial calls ↔
      Lts.Along (Usage.step config) (Usage.RemovedBefore config) .initial calls := by
  exact @Lts.along_congr _ _ _ _ _ (Usage.Recorded config) (fun hstate hstep => hstate.step hstep)
    (fun hstate call => hstate.misses_iff call)
    _ (Usage.initial_recorded config) calls

namespace SessionExpiryWitness

def config : Config :=
  ⟨List.length, 2, some 10⟩

/-- A session that was set at the start is looked up after eleven instants. -/
def forgotten : List (Call × Nat) :=
  [(.set "a", 0), (.get "a", 11)]

theorem forgotten_found :
    ¬ Lts.Along (Usage.step config) (Usage.MissesLate config) .initial forgotten := by
  intro halong
  have hfound := halong.2 _ rfl |>.1 "a" (Or.inl rfl) (by decide)
  exact absurd hfound (by decide)

end SessionExpiryWitness

end McpSdk.SessionStore
