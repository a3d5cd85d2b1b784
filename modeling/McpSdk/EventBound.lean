/-
How much the event store keeps: the end of a session's history that the limit
allows. The limit is tested with an equality before the new event is appended,
so that a limit of zero is no limit.
-/
import McpSdk.EventStore

namespace McpSdk.InMemoryEventStore

open List

universe u

variable {μ : Type u}

/-- What a call does to a list of events of a session that grows by `push`. -/
def record (push : List (EventEntry μ) → EventEntry μ → List (EventEntry μ))
    (sessionId : Str) (events : List (EventEntry μ)) :
    StoreOp μ → List (EventEntry μ)
  | .storeEvent target streamId timeStamp message =>
    if sessionId = target then push events ⟨streamId, timeStamp, message⟩
    else events
  | .removeStreamInSession target streamId =>
    if sessionId = target then events.filter (·.streamId ≠ streamId)
    else events
  | .removeBySessionId target => if sessionId = target then [] else events
  | .clear => []

/-- The events of a session that have been stored and not removed. -/
def history (ops : List (StoreOp μ)) (sessionId : Str) : List (EventEntry μ) :=
  ops.foldl (record (fun events entry => events ++ [entry]) sessionId) []

/-- The first event of a session allocates its queue, which panics if too large. -/
def returns (withCapacity : Nat → Bool) (self : InMemoryEventStore μ) :
    StoreOp μ → Bool
  | .storeEvent sessionId _ _ _ =>
    (self.storageMap.lookup sessionId).isSome || withCapacity self.maxEventsPerSession
  | _ => true

/-- One call; a call that panics changes nothing. -/
def perform (withCapacity : Nat → Bool) (self : InMemoryEventStore μ × List (StoreOp μ))
    (op : StoreOp μ) : InMemoryEventStore μ × List (StoreOp μ) :=
  if self.1.returns withCapacity op then (self.1.apply op, self.2 ++ [op])
  else self

def performAll (withCapacity : Nat → Bool) (limit : Option Nat)
    (ops : List (StoreOp μ)) : InMemoryEventStore μ × List (StoreOp μ) :=
  ops.foldl (perform withCapacity) (new limit, [])

/-- The calls that return do what their operations do, in a row. -/
theorem performAll_eq_run (withCapacity : Nat → Bool) (limit : Option Nat)
    (ops : List (StoreOp μ)) :
    (performAll withCapacity limit ops).1 =
      (new limit).run (performAll withCapacity limit ops).2 := by
  induction ops using List.reverseRecOn with
  | nil => rfl
  | append_singleton ops op ih =>
    rw [performAll, foldl_append]
    change (perform withCapacity (performAll withCapacity limit ops) op).1 = (new limit).run
        (perform withCapacity (performAll withCapacity limit ops) op).2
    unfold perform
    split
    · rw [run_concat, ih]
    · exact ih

theorem run_maxEventsPerSession (self : InMemoryEventStore μ) (ops : List (StoreOp μ)) :
    (self.run ops).maxEventsPerSession = self.maxEventsPerSession := by
  induction ops using List.reverseRecOn with
  | nil => rfl
  | append_singleton ops op ih =>
    rw [run_concat, apply_maxEventsPerSession, ih]

theorem pushBounded_ne_nil (limit : Nat) (events : List (EventEntry μ))
    (entry : EventEntry μ) : pushBounded limit events entry ≠ [] := by
  simp [pushBounded]

theorem pushBounded_suffix {limit : Nat} {events stored : List (EventEntry μ)}
    (hsuffix : events <:+ stored) (entry : EventEntry μ) :
    pushBounded limit events entry <:+ stored ++ [entry] := by
  unfold pushBounded
  split
  · obtain ⟨gone, hgone⟩ := (List.tail_suffix events).trans hsuffix
    exact ⟨gone, by rw [← hgone, append_assoc]⟩
  · obtain ⟨gone, hgone⟩ := hsuffix
    exact ⟨gone, by rw [← hgone, append_assoc]⟩

theorem length_pushBounded_le {limit : Nat} (hlimit : limit ≠ 0) {events : List (EventEntry μ)}
    (hevents : events.length ≤ limit) (entry : EventEntry μ) :
    (pushBounded limit events entry).length ≤ limit := by
  unfold pushBounded
  split
  · rw [length_append, length_tail, length_singleton]
    omega
  · rw [length_append, length_singleton]
    omega

/-- A limit of zero takes nothing away: only an equal length meets the test. -/
theorem pushBounded_zero (events : List (EventEntry μ)) (entry : EventEntry μ) :
    pushBounded 0 events entry = events ++ [entry] := by
  unfold pushBounded
  split
  · next hempty => rw [length_eq_zero_iff.mp hempty]; rfl
  · rfl

/-- How a queue stands to the history of its session. -/
structure Keeps (limit : Nat) (events stored : List (EventEntry μ)) : Prop where
  suffix : events <:+ stored
  bounded : limit ≠ 0 → events.length ≤ limit
  unbounded : limit = 0 → events = stored

theorem Keeps.nil (limit : Nat) : Keeps limit ([] : List (EventEntry μ)) [] :=
  ⟨List.suffix_rfl, fun _ => Nat.zero_le _, fun _ => rfl⟩

theorem Keeps.record {limit : Nat} {events stored : List (EventEntry μ)}
    (hevents : Keeps limit events stored) (sessionId : Str) (op : StoreOp μ) :
    Keeps limit (record (pushBounded limit) sessionId events op)
      (record (fun events entry => events ++ [entry]) sessionId stored op) := by
  cases op with
  | storeEvent target streamId timeStamp message =>
    rw [InMemoryEventStore.record, InMemoryEventStore.record]
    split
    · refine ⟨pushBounded_suffix hevents.suffix _, ?_, ?_⟩
      · exact fun hlimit =>
          length_pushBounded_le hlimit (hevents.bounded hlimit) _
      · rintro rfl
        rw [pushBounded_zero, hevents.unbounded rfl]
    · exact hevents
  | removeStreamInSession target streamId =>
    rw [InMemoryEventStore.record, InMemoryEventStore.record]
    split
    · refine ⟨hevents.suffix.filter _, ?_, ?_⟩
      · exact fun hlimit =>
          (length_filter_le _ _).trans (hevents.bounded hlimit)
      · exact fun hlimit => by rw [hevents.unbounded hlimit]
    · exact hevents
  | removeBySessionId target =>
    rw [InMemoryEventStore.record, InMemoryEventStore.record]
    split
    · exact Keeps.nil limit
    · exact hevents
  | clear => exact Keeps.nil limit

theorem queue_apply (self : InMemoryEventStore μ) (op : StoreOp μ) (sessionId : Str) :
    (self.apply op).queue sessionId = record (pushBounded self.maxEventsPerSession) sessionId
        (self.queue sessionId) op := by
  cases op with
  | storeEvent target streamId timeStamp message => exact queue_storeEvent ..
  | removeStreamInSession target streamId =>
    exact queue_removeStreamInSession ..
  | removeBySessionId target => exact queue_removeBySessionId ..
  | clear => rfl

/-- After any run a queue keeps the newest events of its session. -/
theorem run_keeps (limit : Option Nat) (ops : List (StoreOp μ)) (sessionId : Str) :
    Keeps (limit.getD maxEventsPerSessionDefault)
      (((new limit).run ops).queue sessionId) (history ops sessionId) := by
  induction ops using List.reverseRecOn with
  | nil => exact Keeps.nil _
  | append_singleton ops op ih =>
    rw [run_concat, queue_apply, history, foldl_concat, run_maxEventsPerSession]
    exact ih.record sessionId op

theorem lookup_apply_ne_nil {self : InMemoryEventStore μ} {sessionId : Str}
    (hself : self.storageMap.lookup sessionId ≠ some []) (op : StoreOp μ) :
    (self.apply op).storageMap.lookup sessionId ≠ some [] := by
  cases op with
  | storeEvent target streamId timeStamp message =>
    by_cases htarget : sessionId = target
    · subst htarget
      simp [apply, storeEvent, pushBounded_ne_nil]
    · simpa [apply, storeEvent, AList.lookup_insert_ne htarget] using hself
  | removeStreamInSession target streamId =>
    rw [apply, removeStreamInSession]
    split
    · exact hself
    · next events hevents =>
      by_cases htarget : sessionId = target
      · subst htarget
        simp only
        split
        · simp
        · next hkept => simpa using hkept
      · simp only
        split
        · simpa [AList.lookup_erase_ne htarget] using hself
        · simpa [AList.lookup_insert_ne htarget] using hself
  | removeBySessionId target =>
    by_cases htarget : sessionId = target
    · subst htarget
      simp [apply, removeBySessionId]
    · simpa [apply, removeBySessionId, AList.lookup_erase_ne htarget] using hself
  | clear => simp [apply, clear]

/-- Every queue is within the limit and an end of its history, and not empty. -/
structure Bounded (store : InMemoryEventStore μ) (ops : List (StoreOp μ)) :
    Prop where
  length_le : ∀ sessionId, (store.queue sessionId).length ≤ store.maxEventsPerSession
  suffix : ∀ sessionId, store.queue sessionId <:+ history ops sessionId
  nonempty : ∀ sessionId, store.storageMap.lookup sessionId ≠ some []

theorem run_lookup_ne_nil (limit : Option Nat) (ops : List (StoreOp μ)) (sessionId : Str) :
    ((new limit).run ops).storageMap.lookup sessionId ≠ some [] := by
  induction ops using List.reverseRecOn with
  | nil => simp [run, new]
  | append_singleton ops op ih =>
    rw [run_concat]
    exact lookup_apply_ne_nil ih op

/-- After any calls the store is bounded exactly when the limit is not zero or
nothing is stored; for the other parts see `run_keeps` and `run_lookup_ne_nil`. -/
theorem performAll_bounded_iff (withCapacity : Nat → Bool) (limit : Option Nat)
    (ops : List (StoreOp μ)) :
    Bounded (performAll withCapacity limit ops).1 (performAll withCapacity limit ops).2 ↔
      limit.getD maxEventsPerSessionDefault ≠ 0 ∨ ∀ sessionId,
          history (performAll withCapacity limit ops).2 sessionId = [] := by
  rw [performAll_eq_run]
  generalize (performAll withCapacity limit ops).2 = returned
  have hkeeps := run_keeps limit returned
  have hlimit : ((new limit : InMemoryEventStore μ).run returned).maxEventsPerSession =
        limit.getD maxEventsPerSessionDefault := run_maxEventsPerSession ..
  constructor
  · intro hbounded
    by_cases hzero : limit.getD maxEventsPerSessionDefault = 0
    · right
      intro sessionId
      have hle := hbounded.length_le sessionId
      rw [hlimit, hzero, (hkeeps sessionId).unbounded hzero] at hle
      exact length_eq_zero_iff.mp (Nat.le_zero.mp hle)
    · exact .inl hzero
  · intro hcondition
    refine ⟨fun sessionId => ?_, fun sessionId => (hkeeps sessionId).suffix,
      run_lookup_ne_nil limit returned⟩
    rw [hlimit]
    rcases hcondition with hpos | hempty
    · exact (hkeeps sessionId).bounded hpos
    · have hnil := (hkeeps sessionId).suffix
      rw [hempty sessionId, List.suffix_nil] at hnil
      rw [hnil]
      exact Nat.zero_le _

namespace EventBoundWitness

def threeEvents : List (StoreOp Str) :=
  [.storeEvent "s" "t" 1 "a",
    .storeEvent "s" "u" 2 "b",
    .storeEvent "s" "t" 3 "c"]

/-- With a limit of zero the queue of a session grows with every event. -/
theorem zero_limit_exceeded :
    ((performAll (fun _ => true) (some 0) threeEvents).1.queue "s".toList).length = 3 ∧
    ¬ Bounded (performAll (fun _ => true) (some 0) threeEvents).1
      (performAll (fun _ => true) (some 0) threeEvents).2 := by
  refine ⟨by decide, ?_⟩
  intro hbounded
  exact absurd (hbounded.length_le "s") (by decide)

example : ((performAll (fun _ => true) (some 2) threeEvents).1.queue
    "s".toList).map (·.message) = ["b", "c"] := by
  decide

end EventBoundWitness

end McpSdk.InMemoryEventStore
