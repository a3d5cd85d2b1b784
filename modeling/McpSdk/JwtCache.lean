/-
The cache of verified tokens: the instant of the last remote check of every key,
and a queue of keys in the order of their insertion. A key that is recorded
again keeps its place.
-/
import McpSdk.Lts
import McpSdk.SseEvent
import Mathlib.Data.List.AList

namespace McpSdk

open List Option

structure JwtCache where
  map : AList fun _ : Str => Nat
  order : List Str
  remoteVerificationInterval : Nat
  capacity : Nat
deriving DecidableEq

namespace JwtCache

def new (remoteVerificationInterval capacity : Nat) : JwtCache :=
  ⟨∅, [], remoteVerificationInterval, capacity⟩

/-- An instant that is still to come counts as now. -/
def isRecent (self : JwtCache) (key : Str) (now : Nat) : Bool :=
  (self.map.lookup key).any fun last =>
    now - last ≤ self.remoteVerificationInterval

def removeKey (self : JwtCache) (key : Str) : JwtCache :=
  { self with
    map := self.map.erase key
    order := self.order.filter (· ≠ key) }

/-- The keys whose last check is longer ago than the interval. -/
def expired (self : JwtCache) (now : Nat) : List Str :=
  self.order.filter fun key =>
    (self.map.lookup key).any fun last =>
      self.remoteVerificationInterval < now - last

def removeExpired (self : JwtCache) (now : Nat) : JwtCache :=
  (self.expired now).foldl removeKey self

/-- `pop_front`, and the key that it gives is taken out of the map. -/
def evictOldest (self : JwtCache) : JwtCache :=
  match self.order with
  | [] => self
  | oldest :: order => { self with map := self.map.erase oldest, order }

/-- The clock is read for the expired keys, and again for the recorded one. -/
def record (self : JwtCache) (key : Str) (purged stamp : Nat) : JwtCache :=
  let self := self.removeExpired purged
  if key ∈ self.map then { self with map := self.map.insert key stamp }
  else
    let self := if self.map.keys.length ≥ self.capacity then self.evictOldest
      else self
    { self with
      map := self.map.insert key stamp
      order := self.order ++ [key] }

/-- The queue has the keys of the map, each once, and not too many. -/
structure Consistent (cache : JwtCache) : Prop where
  nodup : cache.order.Nodup
  mem_iff : ∀ key, key ∈ cache.order ↔ key ∈ cache.map
  length_le : cache.order.length ≤ max cache.capacity 1

variable {self : JwtCache}

theorem Consistent.perm (hself : self.Consistent) : self.order.Perm self.map.keys := by
  rw [perm_ext_iff_of_nodup hself.nodup self.map.keys_nodup]
  intro key
  rw [hself.mem_iff]
  exact AList.mem_keys

theorem Consistent.length_keys (hself : self.Consistent) :
    self.map.keys.length = self.order.length :=
  hself.perm.length_eq.symm

theorem consistent_new (interval capacity : Nat) : (new interval capacity).Consistent where
  nodup := nodup_nil
  mem_iff := by
    intro key
    simp [new]
  length_le := Nat.zero_le _

theorem Consistent.removeKey (hself : self.Consistent) (key : Str) :
    (self.removeKey key).Consistent where
  nodup := hself.nodup.filter _
  mem_iff := by
    intro other
    rw [JwtCache.removeKey, mem_filter, AList.mem_erase, hself.mem_iff]
    simp [and_comm]
  length_le := Nat.le_trans (length_filter_le _ _) hself.length_le

theorem removeExpired_keeps {motive : JwtCache → Prop}
    (hremove : ∀ {cache : JwtCache} (key : Str), motive cache → motive (cache.removeKey key))
    (hself : motive self) (now : Nat) : motive (self.removeExpired now) := by
  unfold removeExpired
  induction self.expired now generalizing self with
  | nil => exact hself
  | cons key keys ih => exact ih (hremove key hself)

theorem Consistent.removeExpired (hself : self.Consistent) (now : Nat) :
    (self.removeExpired now).Consistent :=
  removeExpired_keeps (fun key hcache => hcache.removeKey key) hself now

theorem Consistent.evictOldest (hself : self.Consistent) :
    self.evictOldest.Consistent ∧ (self.evictOldest.order.length = self.order.length - 1) := by
  unfold JwtCache.evictOldest
  split
  · next hempty => exact ⟨hself, by rw [hempty]; rfl⟩
  · next oldest order horder =>
    have hnodup := hself.nodup
    rw [horder, nodup_cons] at hnodup
    refine ⟨⟨hnodup.2, ?_, ?_⟩, by rw [horder]; rfl⟩
    · intro key
      rw [AList.mem_erase, ← hself.mem_iff, horder, mem_cons]
      constructor
      · intro hkey
        exact ⟨ne_of_mem_of_not_mem hkey hnodup.1, Or.inr hkey⟩
      · rintro ⟨hne, hkey⟩
        exact hkey.resolve_left hne
    · have hlength := hself.length_le
      rw [horder, length_cons] at hlength
      exact Nat.le_of_succ_le hlength

theorem removeExpired_capacity (self : JwtCache) (now : Nat) :
    (self.removeExpired now).capacity = self.capacity ∧
      (self.removeExpired now).remoteVerificationInterval = self.remoteVerificationInterval :=
  removeExpired_keeps
    (motive := fun cache => cache.capacity = self.capacity ∧
      cache.remoteVerificationInterval = self.remoteVerificationInterval)
    (fun _ hcache => hcache) ⟨rfl, rfl⟩ now

theorem evictOldest_capacity (self : JwtCache) :
    self.evictOldest.capacity = self.capacity ∧ self.evictOldest.remoteVerificationInterval =
        self.remoteVerificationInterval := by
  unfold evictOldest
  split
  · exact ⟨rfl, rfl⟩
  · exact ⟨rfl, rfl⟩

variable {key : Str}

theorem lookup_erase_some {map : AList fun _ : Str => Nat} {erased : Str} {last : Nat}
    (hlast : (map.erase erased).lookup key = some last) : map.lookup key = some last := by
  by_cases hkey : key = erased
  · rw [hkey, AList.lookup_erase] at hlast
    cases hlast
  · rwa [AList.lookup_erase_ne hkey] at hlast

theorem lookup_removeExpired {now last : Nat}
    (hlast : (self.removeExpired now).map.lookup key = some last) :
    self.map.lookup key = some last := by
  refine removeExpired_keeps (motive := fun cache => cache.map.lookup key = some last →
      self.map.lookup key = some last) ?_ id now hlast
  intro cache removed hcache hkept
  exact hcache (lookup_erase_some hkept)

theorem lookup_evictOldest {last : Nat} (hlast : self.evictOldest.map.lookup key = some last) :
    self.map.lookup key = some last := by
  unfold evictOldest at hlast
  split at hlast
  · exact hlast
  · exact lookup_erase_some hlast

theorem mem_of_mem_evictOldest (hkey : key ∈ self.evictOldest.map) : key ∈ self.map := by
  obtain ⟨last, hlast⟩ := isSome_iff_exists.mp (AList.lookup_isSome.mpr hkey)
  exact AList.lookup_isSome.mp (isSome_iff_exists.mpr ⟨last, lookup_evictOldest hlast⟩)

theorem record_cases (self : JwtCache) (key : Str) (purged stamp : Nat) :
    let kept := self.removeExpired purged
    (key ∈ kept.map ∧ self.record key purged stamp =
        { kept with map := kept.map.insert key stamp }) ∨
      (key ∉ kept.map ∧ ∃ room : JwtCache,
        (kept.map.keys.length < kept.capacity ∧ room = kept ∨ room = kept.evictOldest) ∧
        self.record key purged stamp =
          { room with
            map := room.map.insert key stamp
            order := room.order ++ [key] }) := by
  intro kept
  by_cases hmem : key ∈ kept.map
  · exact Or.inl ⟨hmem, if_pos hmem⟩
  · refine Or.inr ⟨hmem, ?_⟩
    by_cases hfull : kept.map.keys.length ≥ kept.capacity
    · refine ⟨kept.evictOldest, Or.inr rfl, ?_⟩
      simp only [record]
      rw [if_neg hmem, if_pos hfull]
    · refine ⟨kept, Or.inl ⟨Nat.lt_of_not_ge hfull, rfl⟩, ?_⟩
      simp only [record]
      rw [if_neg hmem, if_neg hfull]

theorem Consistent.refresh (hself : self.Consistent) (hkey : key ∈ self.map) (stamp : Nat) :
    Consistent { self with map := self.map.insert key stamp } where
  nodup := hself.nodup
  mem_iff := by
    intro other
    rw [AList.mem_insert, hself.mem_iff]
    constructor
    · exact Or.inr
    · rintro (rfl | hother)
      · exact hkey
      · exact hother
  length_le := hself.length_le

theorem Consistent.push (hself : self.Consistent) (hkey : key ∉ self.map)
    (hroom : self.order.length < max self.capacity 1) (stamp : Nat) :
    Consistent { self with
      map := self.map.insert key stamp
      order := self.order ++ [key] } where
  nodup := by
    rw [nodup_append]
    refine ⟨hself.nodup, nodup_singleton key, ?_⟩
    intro other hother last hlast
    rw [mem_singleton.mp hlast]
    rintro rfl
    exact hkey ((hself.mem_iff other).mp hother)
  mem_iff := by
    intro other
    rw [AList.mem_insert, mem_append, mem_singleton, hself.mem_iff]
    exact or_comm
  length_le := by
    rw [length_append]
    exact hroom

theorem Consistent.record (hself : self.Consistent) (key : Str) (purged stamp : Nat) :
    (self.record key purged stamp).Consistent := by
  have hkept := hself.removeExpired purged
  rcases self.record_cases key purged stamp with
    ⟨hmem, heq⟩ | ⟨hmem, room, hroom, heq⟩
  · rw [heq]
    exact hkept.refresh hmem stamp
  · rw [heq]
    rcases hroom with ⟨hlength, rfl⟩ | rfl
    · rw [hkept.length_keys] at hlength
      exact hkept.push hmem (Nat.lt_of_lt_of_le hlength (Nat.le_max_left _ _)) stamp
    · obtain ⟨hevicted, hlength⟩ := hkept.evictOldest
      refine hevicted.push (fun hkey => hmem (mem_of_mem_evictOldest hkey)) ?_ stamp
      -- with no room for a key at all, the queue has one key and loses it
      have hle := hkept.length_le
      rw [(evictOldest_capacity _).1, hlength]
      omega

theorem lookup_record {other : Str} {purged stamp last : Nat}
    (hlast : (self.record key purged stamp).map.lookup other = some last) :
    other = key ∧ last = stamp ∨ self.map.lookup other = some last := by
  by_cases hother : other = key
  · refine Or.inl ⟨hother, ?_⟩
    rw [hother] at hlast
    rcases self.record_cases key purged stamp with
      ⟨-, heq⟩ | ⟨-, room, -, heq⟩
    · rw [heq, AList.lookup_insert] at hlast
      exact (Option.some.inj hlast).symm
    · rw [heq, AList.lookup_insert] at hlast
      exact (Option.some.inj hlast).symm
  · refine Or.inr ?_
    rcases self.record_cases key purged stamp with
      ⟨-, heq⟩ | ⟨-, room, hroom, heq⟩
    · rw [heq, AList.lookup_insert_ne hother] at hlast
      exact lookup_removeExpired hlast
    · rw [heq, AList.lookup_insert_ne hother] at hlast
      rcases hroom with ⟨-, rfl⟩ | rfl
      · exact lookup_removeExpired hlast
      · exact lookup_removeExpired (lookup_evictOldest hlast)

theorem record_capacity (self : JwtCache) (key : Str) (purged stamp : Nat) :
    (self.record key purged stamp).capacity = self.capacity ∧
      (self.record key purged stamp).remoteVerificationInterval =
        self.remoteVerificationInterval := by
  obtain ⟨hcapacity, hinterval⟩ := self.removeExpired_capacity purged
  rcases self.record_cases key purged stamp with
    ⟨-, heq⟩ | ⟨-, room, hroom, heq⟩
  · rw [heq]
    exact ⟨hcapacity, hinterval⟩
  · rw [heq]
    rcases hroom with ⟨-, rfl⟩ | rfl
    · exact ⟨hcapacity, hinterval⟩
    · obtain ⟨hsame, hsameInterval⟩ := evictOldest_capacity (self.removeExpired purged)
      exact ⟨hsame.trans hcapacity, hsameInterval.trans hinterval⟩

/-- A call with the instants at which it reads the clock. -/
inductive Call where
  | record (key : Str) (purged stamp : Nat)
  | removeExpired (now : Nat)
deriving Repr, DecidableEq

/-- The cache, and the last instant that was read. -/
structure State where
  cache : JwtCache
  now : Nat
deriving DecidableEq

/-- The clock never goes back. -/
def step (state : State) : Call → Option State
  | .record key purged stamp =>
    if state.now ≤ purged ∧ purged ≤ stamp then
      some ⟨state.cache.record key purged stamp, stamp⟩
    else none
  | .removeExpired now =>
    if state.now ≤ now then some ⟨state.cache.removeExpired now, now⟩
    else none

/-- A consistent cache, in which every instant is that of a `record` of its key. -/
structure Records (interval capacity : Nat) (calls : List Call)
    (state : State) : Prop where
  consistent : state.cache.Consistent
  capacity : state.cache.capacity = capacity
  interval : state.cache.remoteVerificationInterval = interval
  recorded : ∀ {key : Str} {last : Nat},
    state.cache.map.lookup key = some last →
      last ≤ state.now ∧ ∃ purged, Call.record key purged last ∈ calls

theorem Records.start (interval capacity now : Nat) :
    Records interval capacity [] ⟨new interval capacity, now⟩ where
  consistent := consistent_new interval capacity
  capacity := rfl
  interval := rfl
  recorded := by
    intro key last hlast
    cases hlast

/-- A call keeps the instants those of earlier records. -/
theorem Records.step {interval capacity : Nat} {calls : List Call} {state next : State}
    {call : Call} (hstate : Records interval capacity calls state)
    (hstep : JwtCache.step state call = some next) :
    Records interval capacity (calls ++ [call]) next := by
  cases call with
  | record key purged stamp =>
    obtain ⟨htime, ⟨⟩⟩ := Lts.of_guard hstep
    obtain ⟨hcapacity, hinterval⟩ := state.cache.record_capacity key purged stamp
    refine ⟨hstate.consistent.record key purged stamp,
      hcapacity.trans hstate.capacity, hinterval.trans hstate.interval, ?_⟩
    intro other last hlast
    rcases lookup_record hlast with ⟨rfl, rfl⟩ | hbefore
    · exact ⟨Nat.le_refl _, purged, by simp⟩
    · obtain ⟨hle, before, hmem⟩ := hstate.recorded hbefore
      exact ⟨Nat.le_trans hle (Nat.le_trans htime.1 htime.2), before, mem_append_left _ hmem⟩
  | removeExpired now =>
    obtain ⟨htime, ⟨⟩⟩ := Lts.of_guard hstep
    obtain ⟨hcapacity, hinterval⟩ := state.cache.removeExpired_capacity now
    refine ⟨hstate.consistent.removeExpired now,
      hcapacity.trans hstate.capacity, hinterval.trans hstate.interval, ?_⟩
    intro key last hlast
    obtain ⟨hle, before, hmem⟩ := hstate.recorded (lookup_removeExpired hlast)
    exact ⟨Nat.le_trans hle htime, before, mem_append_left _ hmem⟩

/-- For all calls at instants that do not decrease: the queue has the keys of
the map, each once, at most `max capacity 1`, and a key is recent only as long
as it was recorded no longer ago than the interval. -/
theorem run_bookkeeping (interval capacity start : Nat) {calls : List Call} {final : State}
    (hrun : Lts.run step ⟨new interval capacity, start⟩ calls = some final) :
    final.cache.order.Nodup ∧ (∀ key, key ∈ final.cache.order ↔ key ∈ final.cache.map) ∧
      final.cache.map.keys.length ≤ max capacity 1 ∧
      ∀ key now, final.now ≤ now → final.cache.isRecent key now = true →
        ∃ purged stamp, Call.record key purged stamp ∈ calls ∧
          stamp ≤ now ∧ now - stamp ≤ interval := by
  have hfinal : Records interval capacity calls final :=
    Lts.run_trace_invariant (fun hstate hstep => hstate.step hstep)
      (Records.start interval capacity start) hrun
  refine ⟨hfinal.consistent.nodup, hfinal.consistent.mem_iff, ?_, ?_⟩
  · rw [hfinal.consistent.length_keys, ← hfinal.capacity]
    exact hfinal.consistent.length_le
  · intro key now hnow hrecent
    obtain ⟨last, hlast, hle⟩ := (any_eq_true _ _).mp hrecent
    obtain ⟨hbefore, purged, hmem⟩ := hfinal.recorded hlast
    rw [decide_eq_true_eq, hfinal.interval] at hle
    exact ⟨purged, last, hmem, Nat.le_trans hbefore hnow, hle⟩

namespace JwtCacheWitness

def calls : List Call :=
  [.record "a" 0 0, .record "b" 1 1, .record "a" 2 3, .removeExpired 4, .record "c" 5 5]

/-- A full cache loses its oldest key, although that was recorded again. -/
theorem bookkeeping_full :
    ∃ final, Lts.run step ⟨new 10 2, 0⟩ calls = some final ∧
      final.cache.order = ["b".toList, "c".toList] ∧
      final.cache.order.Nodup ∧
      (∀ key, key ∈ final.cache.order ↔ key ∈ final.cache.map) ∧
      final.cache.map.keys.length ≤ max 2 1 ∧
      ∀ key now, final.now ≤ now → final.cache.isRecent key now = true →
        ∃ purged stamp, Call.record key purged stamp ∈ calls ∧
          stamp ≤ now ∧ now - stamp ≤ 10 := by
  have hany : (Lts.run step ⟨new 10 2, 0⟩ calls).any (fun final =>
      final.cache.order = ["b".toList, "c".toList]) = true := by
    decide +kernel
  obtain ⟨final, hfinal, horder⟩ := (any_eq_true _ _).mp hany
  exact ⟨final, hfinal, of_decide_eq_true horder, run_bookkeeping 10 2 0 hfinal⟩

end JwtCacheWitness

end JwtCache

end McpSdk
