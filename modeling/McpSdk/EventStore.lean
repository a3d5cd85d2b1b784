/-
The in-memory event store of a resumable server: one bounded queue for each
session, and ids of session, stream and clock reading. Messages are a parameter,
so that a tag on each shows where a replayed one comes from.
-/
import Mathlib.Data.List.AList
import Mathlib.Data.List.Sort
import McpSdk.CallList
import McpSdk.SseEvent

namespace McpSdk

open List

universe u v

variable {μ : Type u} {ν : Type v}

structure EventEntry (μ : Type u) where
  streamId : Str
  timeStamp : Nat
  message : μ
deriving Repr, DecidableEq

structure EventStoreEntry (μ : Type u) where
  sessionId : Str
  streamId : Str
  messages : List μ
deriving Repr, DecidableEq

structure InMemoryEventStore (μ : Type u) where
  maxEventsPerSession : Nat
  storageMap : AList fun _ : Str => List (EventEntry μ)

def EventEntry.map (f : μ → ν) (entry : EventEntry μ) : EventEntry ν :=
  ⟨entry.streamId, entry.timeStamp, f entry.message⟩

namespace InMemoryEventStore

def maxEventsPerSessionDefault : Nat := 64

def idSeparator : Str := "-.-"

def new (maxEventsPerSession : Option Nat) : InMemoryEventStore μ :=
  ⟨maxEventsPerSession.getD maxEventsPerSessionDefault, ∅⟩

def generateEventId (sessionId streamId : Str) (timeStamp : Nat) : Str :=
  sessionId ++ idSeparator ++ streamId ++ idSeparator ++ RustStr.showNat timeStamp

/-- Take an event id apart: three parts, none empty, the last one a `u128`. -/
def parseEventId (eventId : Str) : Except Str (Str × Str × Nat) :=
  if eventId.isEmpty ∨ '\x00' ∈ eventId then
    .error "Event ID is empty!"
  else match RustStr.split idSeparator eventId with
  | [sessionId, streamId, timeStamp] =>
    if sessionId.isEmpty ∨ streamId.isEmpty ∨ timeStamp.isEmpty then
      .error "Invalid Event ID format."
    else match RustStr.parseUnsigned (Nat.pow 2 128) timeStamp with
    | .ok timeStamp => .ok (sessionId, streamId, timeStamp)
    | .error err => .error ("Error parsing timestamp: " ++ err.text)
  | _ => .error "Invalid Event ID format."

/-- Append to a queue; a queue at the limit first loses its oldest event. -/
def pushBounded (limit : Nat) (events : List (EventEntry μ))
    (entry : EventEntry μ) : List (EventEntry μ) :=
  (if events.length = limit then events.tail else events) ++ [entry]

def storeEvent (self : InMemoryEventStore μ) (sessionId streamId : Str) (timeStamp : Nat)
    (message : μ) : Except Str Str × InMemoryEventStore μ :=
  let events := (self.storageMap.lookup sessionId).getD []
  (.ok (generateEventId sessionId streamId timeStamp),
    { self with
      storageMap := self.storageMap.insert sessionId
        (pushBounded self.maxEventsPerSession events ⟨streamId, timeStamp, message⟩) })

/-- Drop the events of one stream; a session without events is dropped too. -/
def removeStreamInSession (self : InMemoryEventStore μ)
    (sessionId streamId : Str) : InMemoryEventStore μ :=
  match self.storageMap.lookup sessionId with
  | none => self
  | some events =>
    let kept := events.filter (·.streamId ≠ streamId)
    if kept.isEmpty then
      { self with storageMap := self.storageMap.erase sessionId }
    else { self with storageMap := self.storageMap.insert sessionId kept }

def removeBySessionId (self : InMemoryEventStore μ) (sessionId : Str) : InMemoryEventStore μ :=
  { self with storageMap := self.storageMap.erase sessionId }

def clear (self : InMemoryEventStore μ) : InMemoryEventStore μ :=
  { self with storageMap := ∅ }

/-- `sort_by_key` on the clock reading, a stable sort. -/
def sortByTimeStamp (events : List (EventEntry μ)) : List (EventEntry μ) :=
  events.insertionSort fun a b => a.timeStamp ≤ b.timeStamp

/-- The messages behind the first event with this stream and reading, by clock. -/
def subsequent (events : List (EventEntry μ)) (streamId : Str) (timeStamp : Nat) : List μ :=
  match events.findIdx? fun e =>
      e.streamId = streamId ∧ e.timeStamp = timeStamp with
  | some index =>
    if index + 1 < events.length then
      (sortByTimeStamp ((events.drop (index + 1)).filter (·.streamId = streamId))).map (·.message)
    else []
  | none => []

def eventsAfter (self : InMemoryEventStore μ) (lastEventId : Str) :
    Except Str (Option (EventStoreEntry μ)) :=
  match parseEventId lastEventId with
  | .error err => .error err
  | .ok (sessionId, streamId, timeStamp) =>
    match self.storageMap.lookup sessionId with
    | none => .ok none
    | some events =>
      .ok (some ⟨sessionId, streamId, subsequent events streamId timeStamp⟩)

/-- The queue of a session; a session the store does not know has none. -/
def queue (self : InMemoryEventStore μ) (sessionId : Str) : List (EventEntry μ) :=
  (self.storageMap.lookup sessionId).getD []

def messagesAfter (self : InMemoryEventStore μ) (lastEventId : Str) : Except Str (List μ) :=
  (self.eventsAfter lastEventId).map fun entry => entry.elim [] (·.messages)

variable (self : InMemoryEventStore μ)

theorem messagesAfter_eq (lastEventId : Str) :
    self.messagesAfter lastEventId = (parseEventId lastEventId).map
      fun parts => subsequent (self.queue parts.1) parts.2.1 parts.2.2 := by
  unfold messagesAfter eventsAfter queue
  cases parseEventId lastEventId with
  | error err => rfl
  | ok parts =>
    cases hevents : self.storageMap.lookup parts.1 with
    | none => simp [hevents, Except.map, subsequent]
    | some events => simp [hevents, Except.map]

inductive StoreOp (μ : Type u) where
  | storeEvent (sessionId streamId : Str) (timeStamp : Nat) (message : μ)
  | removeStreamInSession (sessionId streamId : Str)
  | removeBySessionId (sessionId : Str)
  | clear
deriving Repr, DecidableEq

def StoreOp.map (f : μ → ν) : StoreOp μ → StoreOp ν
  | .storeEvent sessionId streamId timeStamp message =>
    .storeEvent sessionId streamId timeStamp (f message)
  | .removeStreamInSession sessionId streamId =>
    .removeStreamInSession sessionId streamId
  | .removeBySessionId sessionId => .removeBySessionId sessionId
  | .clear => .clear

def apply (self : InMemoryEventStore μ) : StoreOp μ → InMemoryEventStore μ
  | .storeEvent sessionId streamId timeStamp message =>
    (self.storeEvent sessionId streamId timeStamp message).2
  | .removeStreamInSession sessionId streamId =>
    self.removeStreamInSession sessionId streamId
  | .removeBySessionId sessionId => self.removeBySessionId sessionId
  | .clear => self.clear

def run (self : InMemoryEventStore μ) (ops : List (StoreOp μ)) : InMemoryEventStore μ :=
  ops.foldl apply self

theorem queue_storeEvent (sessionId streamId : Str) (timeStamp : Nat) (message : μ) (other : Str) :
    (self.storeEvent sessionId streamId timeStamp message).2.queue other =
      if other = sessionId then
        pushBounded self.maxEventsPerSession (self.queue other)
          ⟨streamId, timeStamp, message⟩
      else self.queue other := by
  split
  · subst other
    simp [queue, storeEvent]
  · next hother => simp [queue, storeEvent, AList.lookup_insert_ne hother]

theorem queue_removeStreamInSession (sessionId streamId other : Str) :
    (self.removeStreamInSession sessionId streamId).queue other =
      if other = sessionId then
        (self.queue other).filter (·.streamId ≠ streamId)
      else self.queue other := by
  unfold removeStreamInSession
  cases hevents : self.storageMap.lookup sessionId with
  | none =>
    simp only
    split
    · subst other
      simp [queue, hevents]
    · rfl
  | some events =>
    simp only
    by_cases hempty : (events.filter (·.streamId ≠ streamId)).isEmpty = true
    · rw [if_pos hempty]
      split
      · subst other
        simp only [queue, AList.lookup_erase, hevents, Option.getD_none, Option.getD_some]
        exact (isEmpty_iff.mp hempty).symm
      · next hother => simp [queue, AList.lookup_erase_ne hother]
    · rw [if_neg hempty]
      split
      · subst other
        simp [queue, hevents]
      · next hother => simp [queue, AList.lookup_insert_ne hother]

theorem queue_removeBySessionId (sessionId other : Str) :
    (self.removeBySessionId sessionId).queue other =
      if other = sessionId then [] else self.queue other := by
  split
  · subst other
    simp [queue, removeBySessionId]
  · next hother => simp [queue, removeBySessionId, AList.lookup_erase_ne hother]

theorem queue_apply_cases (op : StoreOp μ) (sessionId : Str) :
    ∃ kept, kept.Sublist (self.queue sessionId) ∧ ((self.apply op).queue sessionId = kept ∨
        ∃ streamId timeStamp message, op = .storeEvent sessionId streamId timeStamp message ∧
          (self.apply op).queue sessionId = kept ++ [⟨streamId, timeStamp, message⟩]) := by
  cases op with
  | storeEvent target streamId timeStamp message =>
    rw [apply, queue_storeEvent]
    split
    · subst target
      refine ⟨_, ?_, .inr ⟨streamId, timeStamp, message, rfl, rfl⟩⟩
      split
      · exact tail_sublist _
      · exact List.Sublist.refl _
    · exact ⟨_, List.Sublist.refl _, .inl rfl⟩
  | removeStreamInSession target streamId =>
    rw [apply, queue_removeStreamInSession]
    split
    · exact ⟨_, filter_sublist, .inl rfl⟩
    · exact ⟨_, List.Sublist.refl _, .inl rfl⟩
  | removeBySessionId target =>
    rw [apply, queue_removeBySessionId]
    split
    · exact ⟨[], nil_sublist _, .inl rfl⟩
    · exact ⟨_, List.Sublist.refl _, .inl rfl⟩
  | clear => exact ⟨[], nil_sublist _, .inl rfl⟩

theorem run_concat (ops : List (StoreOp μ))
    (op : StoreOp μ) : self.run (ops ++ [op]) = (self.run ops).apply op := by
  simp [run]

/-- Two stores that differ only in what their messages say. -/
def SameUpTo (f : μ → ν) (self : InMemoryEventStore μ) (other : InMemoryEventStore ν) : Prop :=
  other.maxEventsPerSession = self.maxEventsPerSession ∧
    ∀ sessionId, other.queue sessionId = (self.queue sessionId).map (EventEntry.map f)

variable (limit : Option Nat) (f : μ → ν) (ops : List (StoreOp μ))
  (op : StoreOp μ)

theorem apply_maxEventsPerSession (op : StoreOp μ) :
    (self.apply op).maxEventsPerSession = self.maxEventsPerSession := by
  cases op with
  | storeEvent sessionId streamId timeStamp message => rfl
  | removeStreamInSession sessionId streamId =>
    change (self.removeStreamInSession sessionId streamId).maxEventsPerSession = _
    unfold removeStreamInSession
    cases self.storageMap.lookup sessionId with
    | none => rfl
    | some events =>
      simp only
      split
      · rfl
      · rfl
  | removeBySessionId | clear => rfl

theorem SameUpTo.apply {f : μ → ν} {self : InMemoryEventStore μ} {other : InMemoryEventStore ν}
    (hsame : SameUpTo f self other) (op : StoreOp μ) :
    SameUpTo f (self.apply op) (other.apply (op.map f)) := by
  obtain ⟨hlimit, hqueue⟩ := hsame
  refine ⟨by rw [apply_maxEventsPerSession, apply_maxEventsPerSession, hlimit], fun sessionId => ?_⟩
  cases op with
  | storeEvent target streamId timeStamp message =>
    simp only [StoreOp.map, InMemoryEventStore.apply, queue_storeEvent, hlimit, hqueue]
    split
    · simp only [pushBounded, length_map]
      split
      · simp [EventEntry.map]
      · simp [EventEntry.map]
    · rfl
  | removeStreamInSession target streamId =>
    simp only [StoreOp.map, InMemoryEventStore.apply, queue_removeStreamInSession, hqueue]
    split
    · rw [filter_map]
      rfl
    · rfl
  | removeBySessionId target =>
    simp only [StoreOp.map, InMemoryEventStore.apply, queue_removeBySessionId, hqueue]
    split
    · rfl
    · rfl
  | clear => rfl

theorem sortByTimeStamp_map (events : List (EventEntry μ)) :
    sortByTimeStamp (events.map (EventEntry.map f)) =
      (sortByTimeStamp events).map (EventEntry.map f) := by
  symm
  apply map_insertionSort
  intro a _ b _
  rfl

theorem subsequent_map (events : List (EventEntry μ)) (streamId : Str) (timeStamp : Nat) :
    subsequent (events.map (EventEntry.map f)) streamId timeStamp =
      (subsequent events streamId timeStamp).map f := by
  unfold subsequent
  rw [findIdx?_map]
  change (match events.findIdx? fun e =>
    e.streamId = streamId ∧ e.timeStamp = timeStamp with
    | some index => _
    | none => _) = _
  cases events.findIdx? fun e =>
      e.streamId = streamId ∧ e.timeStamp = timeStamp with
  | none => rfl
  | some index =>
    simp only [length_map]
    split
    · rw [← map_drop, filter_map, sortByTimeStamp_map, map_map, map_map]
      rfl
    · rfl

/-- The calls with every message tagged by the number of its call. -/
def tag (ops : List (StoreOp μ)) : List (StoreOp (Nat × μ)) :=
  ops.mapIdx fun k op => op.map (Prod.mk k)

theorem tag_concat : tag (ops ++ [op]) = tag ops ++ [op.map (Prod.mk ops.length)] := by
  simp [tag, mapIdx_concat]

/-- The store, with messages tagged by the number of the call that stored them. -/
def taggedRun (limit : Option Nat) (ops : List (StoreOp μ)) : InMemoryEventStore (Nat × μ) :=
  (new limit).run (tag ops)

theorem taggedRun_concat :
    taggedRun limit (ops ++ [op]) = (taggedRun limit ops).apply (op.map (Prod.mk ops.length)) := by
  rw [taggedRun, tag_concat, run_concat]
  rfl

theorem StoreOp.map_snd_map_mk (k : Nat) : (op.map (Prod.mk k)).map Prod.snd = op := by
  cases op <;> rfl

theorem taggedRun_sameUpTo : SameUpTo Prod.snd (taggedRun limit ops) ((new limit).run ops) := by
  induction ops using List.reverseRecOn with
  | nil => exact ⟨rfl, fun _ => rfl⟩
  | append_singleton ops op ih =>
    rw [taggedRun_concat, run_concat]
    have hstep := ih.apply (op.map (Prod.mk ops.length))
    rwa [StoreOp.map_snd_map_mk] at hstep

/-- Queues list stored events, in the order of the calls. -/
def Ordered (ops : List (StoreOp μ)) (self : InMemoryEventStore (Nat × μ)) : Prop :=
  ∀ sessionId,
    (self.queue sessionId).Pairwise (fun a b => a.message.1 < b.message.1) ∧
    ∀ entry ∈ self.queue sessionId, ops[entry.message.1]? = some
      (.storeEvent sessionId entry.streamId entry.timeStamp entry.message.2)

theorem Ordered.apply {ops : List (StoreOp μ)} {self : InMemoryEventStore (Nat × μ)}
    (hself : Ordered ops self) (op : StoreOp μ) :
    Ordered (ops ++ [op]) (self.apply (op.map (Prod.mk ops.length))) := by
  intro sessionId
  obtain ⟨horder, horigin⟩ := hself sessionId
  obtain ⟨kept, hkept, hcases⟩ := self.queue_apply_cases (op.map (Prod.mk ops.length)) sessionId
  have hkeptOrder := horder.sublist hkept
  have hold : ∀ entry ∈ kept, entry.message.1 < ops.length ∧
      (ops ++ [op])[entry.message.1]? = some (.storeEvent sessionId
        entry.streamId entry.timeStamp entry.message.2) := by
    intro entry hentry
    have hcall := horigin entry (hkept.subset hentry)
    have hlt := (List.getElem?_eq_some_iff.mp hcall).1
    exact ⟨hlt, CallList.getElem?_concat_of_some hcall op⟩
  rcases hcases with hqueue | ⟨streamId, timeStamp, message, hop, hqueue⟩
  · rw [hqueue]
    exact ⟨hkeptOrder, fun entry hentry => (hold entry hentry).2⟩
  · rw [hqueue]
    cases op with
    | storeEvent target stream reading content =>
      simp only [StoreOp.map, StoreOp.storeEvent.injEq] at hop
      obtain ⟨rfl, rfl, rfl, rfl⟩ := hop
      constructor
      · rw [pairwise_append]
        refine ⟨hkeptOrder, pairwise_singleton _ _, ?_⟩
        intro entry hentry last hlast
        rw [mem_singleton] at hlast
        subst hlast
        exact (hold entry hentry).1
      · intro entry hentry
        rw [mem_append, mem_singleton] at hentry
        rcases hentry with hentry | rfl
        · exact (hold entry hentry).2
        · simp
    | removeStreamInSession | removeBySessionId | clear => cases hop

theorem taggedRun_ordered : Ordered ops (taggedRun limit ops) := by
  induction ops using List.reverseRecOn with
  | nil =>
    intro sessionId
    have hempty : (taggedRun limit ([] : List (StoreOp μ))).queue sessionId = [] := rfl
    rw [hempty]
    exact ⟨List.Pairwise.nil, by simp⟩
  | append_singleton ops op ih =>
    rw [taggedRun_concat]
    exact ih.apply op

theorem filter_after_eq_drop {events : List (EventEntry (Nat × μ))}
    (horder : events.Pairwise fun a b => a.message.1 < b.message.1)
    {index : Nat} (hindex : index < events.length) (streamId : Str) :
    events.filter (fun e => e.streamId = streamId ∧ events[index].message.1 < e.message.1) =
      (events.drop (index + 1)).filter (·.streamId = streamId) := by
  have hsplit : events = events.take index ++
      events[index] :: events.drop (index + 1) := by
    rw [← drop_eq_getElem_cons hindex, take_append_drop]
  generalize events[index] = here at hsplit ⊢
  generalize events.drop (index + 1) = behind at hsplit ⊢
  generalize events.take index = before at hsplit
  subst hsplit
  rw [pairwise_append, pairwise_cons] at horder
  obtain ⟨-, ⟨hbehind, -⟩, hbefore⟩ := horder
  have hfront : before.filter (fun e => e.streamId = streamId ∧
      here.message.1 < e.message.1) = [] := by
    apply filter_eq_nil_iff.mpr
    intro e he
    have hlt := hbefore e he here mem_cons_self
    simp only [decide_eq_true_eq, not_and]
    omega
  have hback : behind.filter (fun e => e.streamId = streamId ∧
      here.message.1 < e.message.1) =
        behind.filter (·.streamId = streamId) := by
    apply filter_congr
    intro e he
    simp [hbehind e he]
  rw [filter_append, hfront, filter_cons_of_neg (by simp), hback]
  rfl

theorem subsequent_of_first {events : List (EventEntry (Nat × μ))}
    (horder : events.Pairwise fun a b => a.message.1 < b.message.1) {streamId : Str}
    {timeStamp k : Nat}
    (hcall : ∀ e ∈ events, e.message.1 = k → e.streamId = streamId ∧ e.timeStamp = timeStamp)
    (hfirst : ∀ e ∈ events, e.streamId = streamId → e.timeStamp = timeStamp →
      (∃ own ∈ events, own.message.1 = k) ∧ k ≤ e.message.1) :
    subsequent events streamId timeStamp =
      if ∃ e ∈ events, e.message.1 = k then
        (sortByTimeStamp (events.filter fun e =>
          e.streamId = streamId ∧ k < e.message.1)).map (·.message)
      else [] := by
  unfold subsequent
  cases hfind : events.findIdx? fun e =>
      e.streamId = streamId ∧ e.timeStamp = timeStamp with
  | none =>
    rw [findIdx?_eq_none_iff] at hfind
    rw [if_neg]
    rintro ⟨e, he, hk⟩
    have hmiss := hfind e he
    simp only [decide_eq_false_iff_not] at hmiss
    exact hmiss (hcall e he hk)
  | some index =>
    obtain ⟨hindex, hmatch, hbefore⟩ := findIdx?_eq_some_iff_getElem.mp hfind
    simp only [decide_eq_true_eq] at hmatch
    have hmem := getElem_mem hindex
    obtain ⟨⟨own, hown, hcalled⟩, hle⟩ := hfirst _ hmem hmatch.1 hmatch.2
    have hk : events[index].message.1 = k := by
      obtain ⟨place, hplace, rfl⟩ := getElem_of_mem hown
      rcases Nat.lt_trichotomy place index with hlt | rfl | hgt
      · exact absurd (decide_eq_true (hcall _ hown hcalled)) (hbefore place hlt)
      · exact hcalled
      · have hlater := pairwise_iff_getElem.mp horder index place hindex hplace hgt
        omega
    have hafter := filter_after_eq_drop horder hindex streamId
    rw [hk] at hafter
    rw [if_pos ⟨_, hmem, hk⟩, hafter]
    simp only
    split
    · rfl
    · next hlast =>
      rw [drop_eq_nil_of_le (by omega)]
      rfl

/-- The stored events of a stream behind call `k`, in store order. -/
def storedAfter (limit : Option Nat) (ops : List (StoreOp μ))
    (sessionId streamId : Str) (k : Nat) : List (EventEntry (Nat × μ)) :=
  ((taggedRun limit ops).queue sessionId).filter fun e =>
    e.streamId = streamId ∧ k < e.message.1

def StillStored (limit : Option Nat) (ops : List (StoreOp μ)) (sessionId : Str) (k : Nat) : Prop :=
  ∃ e ∈ (taggedRun limit ops).queue sessionId, e.message.1 = k

instance (limit : Option Nat) (ops : List (StoreOp μ)) (sessionId : Str)
    (k : Nat) : Decidable (StillStored limit ops sessionId k) :=
  inferInstanceAs (Decidable (∃ e ∈ _, _))

/-- The first stored event of the stream with the reading of call `k` is its own. -/
def ReadingFirst (limit : Option Nat) (ops : List (StoreOp μ))
    (sessionId streamId : Str) (timeStamp k : Nat) : Prop :=
  ∀ e ∈ (taggedRun limit ops).queue sessionId, e.streamId = streamId →
    e.timeStamp = timeStamp → StillStored limit ops sessionId k ∧ k ≤ e.message.1

instance (limit : Option Nat) (ops : List (StoreOp μ)) (sessionId streamId : Str)
    (timeStamp k : Nat) : Decidable (ReadingFirst limit ops sessionId streamId timeStamp k) :=
  inferInstanceAs (Decidable (∀ e ∈ _, _))

/-- Every id replays the later events of its stream, in store order. -/
def ReplaysInStoreOrder (limit : Option Nat) (ops : List (StoreOp μ)) : Prop :=
  ∀ k sessionId streamId timeStamp message,
    ops[k]? = some (.storeEvent sessionId streamId timeStamp message) →
    ((new limit).run ops).messagesAfter
        (generateEventId sessionId streamId timeStamp) =
      .ok ((storedAfter limit ops sessionId streamId k).map (·.message.2))

theorem messagesAfter_of_first {limit : Option Nat} {ops : List (StoreOp μ)} {k : Nat}
    {sessionId streamId : Str} {timeStamp : Nat} {message : μ}
    (hcall : ops[k]? = some (.storeEvent sessionId streamId timeStamp message))
    (hid : parseEventId (generateEventId sessionId streamId timeStamp) = .ok (sessionId, streamId,
      timeStamp))
    (hfirst : ReadingFirst limit ops sessionId streamId timeStamp k) :
    ((new limit).run ops).messagesAfter (generateEventId sessionId streamId timeStamp) =
      .ok (if StillStored limit ops sessionId k then
        (sortByTimeStamp (storedAfter limit ops sessionId streamId k)).map (·.message.2)
      else []) := by
  obtain ⟨horder, horigin⟩ := taggedRun_ordered limit ops sessionId
  have hsame := (taggedRun_sameUpTo limit ops).2 sessionId
  have horiginal : ∀ e ∈ (taggedRun limit ops).queue sessionId,
      e.message.1 = k → e.streamId = streamId ∧ e.timeStamp = timeStamp := by
    intro e he hk
    have hstored := horigin e he
    rw [hk, hcall] at hstored
    simp only [Option.some.injEq, StoreOp.storeEvent.injEq] at hstored
    exact ⟨hstored.2.1.symm, hstored.2.2.1.symm⟩
  have hsubsequent := subsequent_of_first horder horiginal hfirst
  rw [messagesAfter_eq, hid]
  change Except.ok (subsequent _ streamId timeStamp) = _
  rw [hsame, subsequent_map, hsubsequent]
  by_cases hstill : StillStored limit ops sessionId k
  · rw [if_pos hstill]
    unfold StillStored at hstill
    rw [if_pos hstill, map_map]
    rfl
  · rw [if_neg hstill]
    unfold StillStored at hstill
    rw [if_neg hstill]
    rfl

/-- An id whose reading no earlier event has replays the later events of its
stream, by clock reading and then by call; without its event, it replays
nothing. With a clock that does not run backwards this is the store order. -/
theorem messagesAfter_generateEventId (limit : Option Nat) (ops : List (StoreOp μ)) (k : Nat)
    (sessionId streamId : Str) (timeStamp : Nat) (message : μ)
    (hcall : ops[k]? = some (.storeEvent sessionId streamId timeStamp message))
    (hid : parseEventId (generateEventId sessionId streamId timeStamp) = .ok (sessionId, streamId,
      timeStamp))
    (hfirst : ReadingFirst limit ops sessionId streamId timeStamp k) :
    ((new limit).run ops).messagesAfter
        (generateEventId sessionId streamId timeStamp) =
      .ok (if StillStored limit ops sessionId k then
        (sortByTimeStamp (storedAfter limit ops sessionId streamId k)).map
          (·.message.2)
      else []) ∧
    ((storedAfter limit ops sessionId streamId k).Pairwise (fun a b => a.timeStamp ≤ b.timeStamp) →
      sortByTimeStamp (storedAfter limit ops sessionId streamId k) =
        storedAfter limit ops sessionId streamId k) :=
  ⟨messagesAfter_of_first hcall hid hfirst, fun hreadings => hreadings.insertionSort_eq⟩

namespace ReplayWitness

def backwards : List (StoreOp Str) :=
  [.storeEvent "s" "t" 5 "a",
    .storeEvent "s" "t" 9 "b",
    .storeEvent "s" "t" 7 "c"]

def collision : List (StoreOp Str) :=
  [.storeEvent "s" "t" 5 "a", .storeEvent "s" "t" 5 "b"]

def separator : List (StoreOp Str) :=
  [.storeEvent "s-." "t" 5 "a", .storeEvent "s-." "t" 6 "b"]

/-- A backward clock reorders; eviction, a repeated reading and an id that does
not parse back lose the position. -/
theorem not_replaysInStoreOrder :
    ¬ ReplaysInStoreOrder none backwards ∧ ¬ ReplaysInStoreOrder (some 2) backwards ∧
      ¬ ReplaysInStoreOrder none collision ∧ ¬ ReplaysInStoreOrder none separator := by
  refine ⟨fun h => ?_, fun h => ?_, fun h => ?_, fun h => ?_⟩
  · exact absurd (h 0 _ _ _ _ rfl) (by decide)
  · exact absurd (h 0 _ _ _ _ rfl) (by decide)
  · exact absurd (h 1 _ _ _ _ rfl) (by decide)
  · exact absurd (h 0 _ _ _ _ rfl) (by decide)

theorem messagesAfter_backwards :
    ((new none).run backwards).messagesAfter
        (generateEventId "s" "t" 5) =
      .ok ["c", "b"] := by
  have hreplay := messagesAfter_generateEventId none backwards 0 "s"
    "t" 5 "a" rfl (by decide) (by decide)
  rw [hreplay.1]
  decide

end ReplayWitness

end InMemoryEventStore

end McpSdk
