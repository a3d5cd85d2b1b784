/-
The set-up of a resumed standalone stream. One task starts and registers the
transport, another replays what the event store answers, and meanwhile the
server sends. Messages are numbered, so that they can be told apart.
-/
import McpSdk.Lts
import McpSdk.StandaloneStream

namespace McpSdk.ResumedStream

open List
open InMemoryEventStore (StoreOp taggedRun subsequent sortByTimeStamp parseEventId
  taggedRun_ordered)

universe u

variable {ν : Type u}

/-- The GET request, and the stream that it resumes. -/
structure Resume where
  sessionId : Str
  streamId : Str
  lastEventId : Str
deriving Repr, DecidableEq

/-- A live send: whether it has the new transport, whether its message was
stored and if so after `events_after`, and whether it was written. -/
structure Call (ν : Type u) where
  payload : ν
  onNew : Bool
  late : Option Bool
  written : Bool
deriving Repr, DecidableEq

/-- The store, the transport, and the two tasks of the set-up. -/
structure State (ν : Type u) where
  store : InMemoryEventStore (Nat × ν)
  /-- The transport has its message sender. -/
  started : Bool
  /-- The transport is in the map of the session. -/
  registered : Bool
  /-- What the replay task has still to write, once it has asked the store. -/
  replay : Option (List (Nat × ν))
  /-- What the store has answered. -/
  replayed : List (Nat × ν)
  /-- The number of the first live message; the calls have the next ones. -/
  first : Nat
  calls : List (Call ν)
  /-- The messages on the new stream. -/
  wire : List (Nat × ν)

/-- A step of the set-up, of the replay, or of a send. -/
inductive Action (ν : Type u) where
  | start
  | register
  | query
  | replay
  | send (payload : ν)
  | store (index now : Nat)
  | write (index : Nat)
deriving Repr, DecidableEq

/-- The request arrives after any calls of the event store. -/
def initial (limit : Option Nat) (ops : List (StoreOp ν)) : State ν :=
  ⟨taggedRun limit ops, false, false, none, [], ops.length, [], []⟩

def State.setCall (self : State ν) (index : Nat) (call : Call ν) : State ν :=
  { self with calls := self.calls.set index call }

/-- One of the tasks takes a step. -/
def step (resume : Resume) (state : State ν) : Action ν → Option (State ν)
  | .start =>
    if state.started then none else some { state with started := true }
  | .register =>
    if state.started ∧ !state.registered then
      some { state with registered := true }
    else none
  | .query =>
    match state.replay with
    | some _ => none
    | none =>
      let messages := replayedMessages (some state.store) (some resume.lastEventId)
      some { state with replay := some messages, replayed := messages }
  | .replay =>
    match state.replay with
    | some (message :: rest) =>
      -- without a message sender the write fails, and that is only traced
      some { state with
        replay := some rest
        wire := if state.started then state.wire ++ [message]
          else state.wire }
    | _ => none
  | .send payload =>
    some { state with
      calls := state.calls ++ [⟨payload, state.registered, none, false⟩] }
  | .store index now =>
    match state.calls[index]? with
    | some ⟨payload, onNew, none, written⟩ =>
      let store := (state.store.storeEvent resume.sessionId resume.streamId
        now (state.first + index, payload)).2
      some { state.setCall index ⟨payload, onNew, some state.replay.isSome, written⟩ with store }
    | _ => none
  | .write index =>
    match state.calls[index]? with
    | some ⟨payload, onNew, some late, false⟩ =>
      some { state.setCall index ⟨payload, onNew, some late, true⟩ with
        wire := if onNew then state.wire ++ [(state.first + index, payload)]
          else state.wire }
    | _ => none

def State.call (self : State ν) (label : Nat) : Option (Call ν) :=
  if self.first ≤ label then self.calls[label - self.first]? else none

def State.Late (self : State ν) (label : Nat) : Prop :=
  ∃ call, self.call label = some call ∧ call.late = some true

/-- No message comes twice, what the store answered comes before later messages,
and is all there when the replay task is done. -/
structure Resumes (state : State ν) : Prop where
  nodup : (state.wire.map Prod.fst).Nodup
  first : ∀ before message after, state.wire = before ++ message :: after →
    state.Late message.1 → ∀ replayed ∈ state.replayed, replayed ∈ before
  all : state.replay = some [] → ∀ replayed ∈ state.replayed, replayed ∈ state.wire

/-- The replay task has a started transport, and a live message is written
behind the replay and only if stored after `events_after`. -/
def Orderly (state : State ν) : Action ν → Prop
  | .replay => state.started = true
  | .write index => ∀ call ∈ state.calls[index]?, call.onNew = true →
      state.replay.any List.isEmpty = true ∧ call.late = some true
  | _ => True

instance (state : State ν) : DecidablePred (Orderly state)
  | .replay => inferInstanceAs (Decidable (_ = _))
  | .write _ => inferInstanceAs (Decidable (∀ _ ∈ _, _))
  | .start | .register | .query | .send _ | .store _ _ => isTrue trivial

theorem call_add (self : State ν) (index : Nat) :
    self.call (self.first + index) = self.calls[index]? := by
  simp [State.call]

variable {self : State ν}

theorem call_setCall {index : Nat} {old : Call ν}
    (hold : self.calls[index]? = some old) (call : Call ν) (label : Nat) :
    (self.setCall index call).call label =
      if label = self.first + index then some call else self.call label := by
  unfold State.call State.setCall
  by_cases hfirst : self.first ≤ label
  · have hplace : label - self.first = index ↔ label = self.first + index := by
      omega
    simp only [hfirst, if_true, CallList.getElem?_set_of_some hold, hplace]
  · have hne : ¬ label = self.first + index := by omega
    simp [hfirst, hne]

theorem call_send {label : Nat} (hlabel : label < self.first + self.calls.length) (call : Call ν) :
    ({ self with calls := self.calls ++ [call] } : State ν).call label =
      self.call label := by
  unfold State.call
  by_cases hfirst : self.first ≤ label
  · simp only [hfirst, if_true]
    rw [getElem?_append_left (by omega)]
  · simp [hfirst]

theorem nodup_subsequent {events : List (EventEntry (Nat × ν))}
    (hevents : (events.map (·.message.1)).Nodup) (streamId : Str) (timeStamp : Nat) :
    ((subsequent events streamId timeStamp).map Prod.fst).Nodup := by
  unfold subsequent
  split
  · next index hfound =>
    split
    · rw [map_map]
      have hperm : ((sortByTimeStamp ((events.drop (index + 1)).filter (·.streamId = streamId))).map
            (Prod.fst ∘ (·.message))).Perm
          (((events.drop (index + 1)).filter (·.streamId = streamId)).map (·.message.1)) :=
        (perm_insertionSort _ _).map _
      rw [hperm.nodup_iff]
      exact hevents.sublist ((filter_sublist.trans (drop_sublist _ _)).map _)
    · exact nodup_nil
  · exact nodup_nil

theorem replayedMessages_queue (store : InMemoryEventStore (Nat × ν)) (lastEventId : Str) :
    replayedMessages (some store) (some lastEventId) = [] ∨ ∃ sessionId streamId timeStamp,
        replayedMessages (some store) (some lastEventId) =
          subsequent (store.queue sessionId) streamId timeStamp := by
  rw [replayedMessages_eq]
  cases parseEventId lastEventId with
  | error err => exact .inl rfl
  | ok parts => exact .inr ⟨parts.1, parts.2.1, parts.2.2, rfl⟩

variable {message : Nat × ν}

theorem mem_replayedMessages {store : InMemoryEventStore (Nat × ν)} {lastEventId : Str}
    (hmessage : message ∈ replayedMessages (some store) (some lastEventId)) :
    ∃ sessionId, ∃ entry ∈ store.queue sessionId, entry.message = message := by
  rcases replayedMessages_queue store lastEventId with
    hnil | ⟨sessionId, streamId, timeStamp, hqueue⟩
  · rw [hnil] at hmessage
    cases hmessage
  · rw [hqueue] at hmessage
    exact ⟨sessionId, InMemoryEventStore.mem_of_mem_subsequent hmessage⟩

theorem nodup_replayedMessages {store : InMemoryEventStore (Nat × ν)}
    (hstore : ∀ sessionId, ((store.queue sessionId).map (·.message.1)).Nodup) (lastEventId : Str) :
    ((replayedMessages (some store) (some lastEventId)).map Prod.fst).Nodup := by
  rcases replayedMessages_queue store lastEventId with
    hnil | ⟨sessionId, streamId, timeStamp, hqueue⟩
  · rw [hnil]
    exact nodup_nil
  · rw [hqueue]
    exact nodup_subsequent (hstore sessionId) streamId timeStamp

theorem mem_queue_storeEvent {store : InMemoryEventStore (Nat × ν)}
    {sessionId streamId target : Str} {now : Nat} {entry : EventEntry (Nat × ν)}
    (hentry : entry ∈ (store.storeEvent sessionId streamId now message).2.queue target) :
    entry ∈ store.queue target ∨ entry.message = message := by
  obtain ⟨kept, hkept, hqueue | ⟨stream, reading, content, hop, hqueue⟩⟩ :=
    store.queue_apply_cases (.storeEvent sessionId streamId now message) target
  · exact .inl (hkept.subset (hqueue ▸ hentry))
  · have hmem : entry ∈ kept ++ [⟨stream, reading, content⟩] := hqueue ▸ hentry
    rw [mem_append, mem_singleton] at hmem
    rcases hmem with hmem | rfl
    · exact .inl (hkept.subset hmem)
    · cases hop
      exact .inr rfl

theorem nodup_queue_storeEvent {store : InMemoryEventStore (Nat × ν)}
    {target : Str} (hnodup : ((store.queue target).map (·.message.1)).Nodup)
    (hfresh : ∀ entry ∈ store.queue target, entry.message.1 ≠ message.1)
    (sessionId streamId : Str) (now : Nat) :
    (((store.storeEvent sessionId streamId now message).2.queue target).map
      (·.message.1)).Nodup := by
  obtain ⟨kept, hkept, hqueue | ⟨stream, reading, content, hop, hqueue⟩⟩ :=
    store.queue_apply_cases (.storeEvent sessionId streamId now message) target
  · exact hqueue ▸ hnodup.sublist (hkept.map _)
  · cases hop
    have hstored : (store.storeEvent target streamId now message).2.queue
        target = kept ++ [⟨streamId, now, message⟩] := hqueue
    rw [hstored, map_append, map_singleton]
    refine (hnodup.sublist (hkept.map _)).append (nodup_singleton _) ?_
    rw [disjoint_singleton]
    intro hmem
    obtain ⟨entry, hentry, hlabel⟩ := mem_map.mp hmem
    exact hfresh entry (hkept.subset hentry) hlabel

theorem call_lt {label : Nat} {call : Call ν} (hcall : self.call label = some call) :
    label < self.first + self.calls.length := by
  obtain ⟨-, hcall⟩ := Lts.of_guard hcall
  obtain ⟨hindex, -⟩ := List.getElem?_eq_some_iff.mp hcall
  omega

/-- What a step can do, with its guard. -/
inductive Step (resume : Resume) (state : State ν) :
    Action ν → State ν → Prop where
  | start : Step resume state .start { state with started := true }
  | register : Step resume state .register { state with registered := true }
  | query (hreplay : state.replay = none) :
      Step resume state .query { state with
        replay := some (replayedMessages (some state.store) (some resume.lastEventId))
        replayed := replayedMessages (some state.store) (some resume.lastEventId) }
  | replay {message : Nat × ν} {rest : List (Nat × ν)}
      (hreplay : state.replay = some (message :: rest)) :
      Step resume state .replay { state with
        replay := some rest
        wire := if state.started then state.wire ++ [message] else state.wire }
  | send (payload : ν) :
      Step resume state (.send payload) { state with
        calls := state.calls ++ [⟨payload, state.registered, none, false⟩] }
  | store {index now : Nat} {payload : ν} {onNew written : Bool}
      (hcall : state.calls[index]? = some ⟨payload, onNew, none, written⟩) :
      Step resume state (.store index now) { state.setCall index
          ⟨payload, onNew, some state.replay.isSome, written⟩ with
        store := (state.store.storeEvent resume.sessionId resume.streamId now
          (state.first + index, payload)).2 }
  | write {index : Nat} {payload : ν} {onNew late : Bool}
      (hcall : state.calls[index]? = some ⟨payload, onNew, some late, false⟩) :
      Step resume state (.write index) { state.setCall index
          ⟨payload, onNew, some late, true⟩ with
        wire := if onNew then state.wire ++ [(state.first + index, payload)] else state.wire }

theorem step_cases {resume : Resume} {state next : State ν} {action : Action ν}
    (hstep : step resume state action = some next) : Step resume state action next := by
  cases action with
  | start =>
    simp only [step] at hstep
    split at hstep
    · cases hstep
    · cases hstep
      exact .start
  | register =>
    obtain ⟨-, ⟨⟩⟩ := Lts.of_guard hstep
    exact .register
  | query =>
    simp only [step] at hstep
    split at hstep
    · cases hstep
    · next hreplay =>
      cases hstep
      exact .query hreplay
  | replay =>
    simp only [step] at hstep
    split at hstep
    · next message rest hreplay =>
      cases hstep
      exact .replay hreplay
    · cases hstep
  | send payload =>
    cases hstep
    exact .send payload
  | store index now =>
    simp only [step] at hstep
    split at hstep
    · next payload onNew written hcall =>
      cases hstep
      exact .store hcall
    · cases hstep
  | write index =>
    simp only [step] at hstep
    split at hstep
    · next payload onNew late hcall =>
      cases hstep
      exact .write hcall
    · cases hstep

/-- Whatever the interleaving: the store has no message twice and none that is
yet to be stored, and its answer was stored before. -/
structure Labelled (state : State ν) : Prop where
  stored : ∀ sessionId, ∀ entry ∈ state.store.queue sessionId,
    entry.message.1 < state.first + state.calls.length ∧
      ∀ call, state.call entry.message.1 = some call → call.late ≠ none
  nodup : ∀ sessionId, ((state.store.queue sessionId).map (·.message.1)).Nodup
  unasked : state.replay = none → state.replayed = [] ∧ ∀ label, ¬ state.Late label
  replayed : ∀ message ∈ state.replayed,
    message.1 < state.first + state.calls.length ∧
      ∀ call, state.call message.1 = some call → call.late = some false
  replayedNodup : (state.replayed.map Prod.fst).Nodup

variable (limit : Option Nat) (ops : List (StoreOp ν))

theorem initial_labelled : Labelled (initial limit ops) := by
  have hordered := taggedRun_ordered limit ops
  have hcall : ∀ label, (initial limit ops).call label = none := by
    intro label
    simp [State.call, initial]
  refine ⟨?_, ?_, ?_, forall_mem_nil _, nodup_nil⟩
  · intro sessionId entry hentry
    have horigin := (hordered sessionId).2 entry hentry
    obtain ⟨hlt, -⟩ := List.getElem?_eq_some_iff.mp horigin
    refine ⟨hlt, ?_⟩
    intro call hsome
    rw [hcall] at hsome
    cases hsome
  · intro sessionId
    rw [List.Nodup, pairwise_map]
    exact (hordered sessionId).1.imp Nat.ne_of_lt
  · intro _
    refine ⟨rfl, ?_⟩
    rintro label ⟨call, hsome, -⟩
    rw [hcall] at hsome
    cases hsome

theorem Labelled.of_late {state next : State ν} (hstate : Labelled state)
    (hstore : next.store = state.store) (hreplay : next.replay = state.replay)
    (hreplayed : next.replayed = state.replayed)
    (hbound : state.first + state.calls.length ≤ next.first + next.calls.length)
    (hcall : ∀ {label call}, label < state.first + state.calls.length → next.call label =
      some call → ∃ old, state.call label = some old ∧ call.late = old.late)
    (hlate : ∀ {label}, next.Late label → state.Late label) : Labelled next := by
  refine ⟨?_, ?_, ?_, ?_, ?_⟩
  · intro sessionId entry hentry
    rw [hstore] at hentry
    obtain ⟨hlt, hsome⟩ := hstate.stored sessionId entry hentry
    refine ⟨Nat.lt_of_lt_of_le hlt hbound, ?_⟩
    intro call hnext
    obtain ⟨old, hold, hsame⟩ := hcall hlt hnext
    rw [hsame]
    exact hsome old hold
  · rw [hstore]
    exact hstate.nodup
  · intro hnone
    rw [hreplay] at hnone
    obtain ⟨hnil, hnot⟩ := hstate.unasked hnone
    exact ⟨hreplayed.trans hnil, fun label hlabel =>
      hnot label (hlate hlabel)⟩
  · intro message hmessage
    rw [hreplayed] at hmessage
    obtain ⟨hlt, hsome⟩ := hstate.replayed message hmessage
    refine ⟨Nat.lt_of_lt_of_le hlt hbound, ?_⟩
    intro call hnext
    obtain ⟨old, hold, hsame⟩ := hcall hlt hnext
    rw [hsame]
    exact hsome old hold
  · rw [hreplayed]
    exact hstate.replayedNodup

variable {state : State ν}

theorem Labelled.send (hstate : Labelled state) {call : Call ν} (hnone : call.late = none) :
    Labelled { state with calls := state.calls ++ [call] } := by
  refine hstate.of_late rfl rfl rfl ?_ ?_ ?_
  · simp only [length_append]
    omega
  · intro label other hlt hother
    rw [call_send hlt] at hother
    exact ⟨other, hother, rfl⟩
  · rintro label ⟨other, hother, hlate⟩
    by_cases hlt : label < state.first + state.calls.length
    · rw [call_send hlt] at hother
      exact ⟨other, hother, hlate⟩
    · have hlabel := call_lt hother
      simp only [length_append, length_singleton] at hlabel
      have heq : label = state.first + state.calls.length := by omega
      subst heq
      have hnew := @call_add _ { state with calls := state.calls ++ [call] }
        state.calls.length
      rw [getElem?_concat_length] at hnew
      cases hother.symm.trans hnew
      rw [hnone] at hlate
      cases hlate

theorem Labelled.write (hstate : Labelled state) {index : Nat} {old call : Call ν}
    (hold : state.calls[index]? = some old) (hsame : call.late = old.late) (wire : List (Nat × ν)) :
    Labelled { state.setCall index call with wire } := by
  have hcalls : ∀ {label other},
      (state.setCall index call).call label = some other →
        ∃ before, state.call label = some before ∧
          other.late = before.late := by
    intro label other hother
    rw [call_setCall hold] at hother
    split at hother
    · next heq =>
      subst heq
      cases hother
      exact ⟨old, (call_add state index).trans hold, hsame⟩
    · exact ⟨other, hother, rfl⟩
  refine hstate.of_late rfl rfl rfl ?_ ?_ ?_
  · simp [State.setCall]
  · intro label other _ hother
    exact hcalls hother
  · rintro label ⟨other, hother, hlate⟩
    obtain ⟨before, hbefore, heq⟩ := hcalls hother
    exact ⟨before, hbefore, heq.symm.trans hlate⟩

theorem Labelled.query (hstate : Labelled state) (hreplay : state.replay = none)
    (lastEventId : Str) :
    Labelled { state with
      replay := some (replayedMessages (some state.store) (some lastEventId))
      replayed :=
        replayedMessages (some state.store) (some lastEventId) } := by
  obtain ⟨-, hearly⟩ := hstate.unasked hreplay
  refine ⟨hstate.stored, hstate.nodup, ?_, ?_, nodup_replayedMessages hstate.nodup lastEventId⟩
  · intro hnone
    cases hnone
  · intro message hmessage
    obtain ⟨sessionId, entry, hentry, rfl⟩ := mem_replayedMessages hmessage
    obtain ⟨hlt, hsome⟩ := hstate.stored sessionId entry hentry
    refine ⟨hlt, ?_⟩
    intro call hcall
    cases hlate : call.late with
    | none => exact absurd hlate (hsome call hcall)
    | some late =>
      cases late with
      | true => exact absurd ⟨call, hcall, hlate⟩ (hearly _)
      | false => rfl

theorem Labelled.store (hstate : Labelled state) {index : Nat} {payload : ν}
    {onNew written : Bool} (hcall : state.calls[index]? = some ⟨payload, onNew, none, written⟩)
    (sessionId streamId : Str) (now : Nat) :
    Labelled { state.setCall index
        ⟨payload, onNew, some state.replay.isSome, written⟩ with
      store := (state.store.storeEvent sessionId streamId now
        (state.first + index, payload)).2 } := by
  have hindex := (List.getElem?_eq_some_iff.mp hcall).1
  have hown : state.call (state.first + index) =
      some ⟨payload, onNew, none, written⟩ := (call_add state index).trans hcall
  have hset := call_setCall hcall ⟨payload, onNew, some state.replay.isSome, written⟩
  refine ⟨?_, ?_, ?_, ?_, hstate.replayedNodup⟩
  · intro target entry hentry
    simp only [State.setCall, length_set]
    refine ⟨?_, ?_⟩
    · rcases mem_queue_storeEvent hentry with hold | hnew
      · exact (hstate.stored target entry hold).1
      · rw [hnew]
        exact Nat.add_lt_add_left hindex _
    · intro call hnext
      change (state.setCall index _).call _ = _ at hnext
      rw [hset] at hnext
      split at hnext
      · cases hnext
        exact Option.some_ne_none _
      · next hne =>
        rcases mem_queue_storeEvent hentry with hold | hnew
        · exact (hstate.stored target entry hold).2 call hnext
        · rw [hnew] at hne
          exact absurd rfl hne
  · intro target
    refine nodup_queue_storeEvent (hstate.nodup target) ?_ sessionId streamId now
    intro entry hentry hlabel
    obtain ⟨-, hsome⟩ := hstate.stored target entry hentry
    rw [hlabel] at hsome
    exact hsome _ hown rfl
  · intro hreplay
    obtain ⟨hnil, hearly⟩ := hstate.unasked hreplay
    refine ⟨hnil, ?_⟩
    rintro label ⟨call, hnext, hlate⟩
    change (state.setCall index _).call _ = _ at hnext
    rw [hset] at hnext
    split at hnext
    · cases hnext
      have hnone : state.replay = none := hreplay
      rw [hnone] at hlate
      cases hlate
    · exact hearly label ⟨call, hnext, hlate⟩
  · intro message hmessage
    obtain ⟨hlt, hsome⟩ := hstate.replayed message hmessage
    simp only [State.setCall, length_set]
    refine ⟨hlt, ?_⟩
    intro call hnext
    change (state.setCall index _).call _ = _ at hnext
    rw [hset] at hnext
    split at hnext
    · next heq =>
      rw [heq] at hsome
      cases hsome _ hown
    · exact hsome call hnext

/-- A step stores no message twice. -/
theorem Labelled.step {resume : Resume} {state next : State ν} {action : Action ν}
    (hstate : Labelled state) (hstep : ResumedStream.step resume state action = some next) :
    Labelled next := by
  cases step_cases hstep with
  | start | register =>
    exact ⟨hstate.stored, hstate.nodup, hstate.unasked, hstate.replayed, hstate.replayedNodup⟩
  | query hreplay => exact hstate.query hreplay resume.lastEventId
  | replay =>
    refine ⟨hstate.stored, hstate.nodup, ?_, hstate.replayed, hstate.replayedNodup⟩
    intro hnone
    cases hnone
  | send payload => exact hstate.send rfl
  | @store index now _ _ _ hcall =>
    exact hstate.store hcall resume.sessionId resume.streamId now
  | @write index payload onNew late hcall =>
    have hsame : (⟨payload, onNew, some late, true⟩ : Call ν).late =
        (⟨payload, onNew, some late, false⟩ : Call ν).late := rfl
    exact hstate.write hcall hsame _

/-- The new stream has what was replayed, and then messages stored later. -/
structure Wired (state : State ν) : Prop where
  split : ∃ done live, state.wire = done ++ live ∧
    state.replayed = done ++ state.replay.getD [] ∧
    (live ≠ [] → state.replay = some []) ∧
    (live.map Prod.fst).Nodup ∧
    ∀ message ∈ live, ∃ call, state.call message.1 = some call ∧
      call.late = some true ∧ call.written = true

theorem initial_wired : Wired (initial limit ops) :=
  ⟨[], [], rfl, rfl, fun hlive => absurd rfl hlive, nodup_nil, forall_mem_nil _⟩

theorem Wired.of_call {next : State ν} (hstate : Wired state) (hwire : next.wire = state.wire)
    (hreplay : next.replay = state.replay) (hreplayed : next.replayed = state.replayed)
    (hcall : ∀ {label call}, state.call label = some call → call.late = some true → call.written =
      true → next.call label = some call) :
    Wired next := by
  obtain ⟨done, live, hsplit, hdone, hafter, hnodup, hcalls⟩ := hstate.split
  refine ⟨done, live, hwire.trans hsplit, ?_, ?_, hnodup, ?_⟩
  · rw [hreplayed, hreplay]
    exact hdone
  · rw [hreplay]
    exact hafter
  · intro message hmessage
    obtain ⟨call, hown, hlate, hwritten⟩ := hcalls message hmessage
    exact ⟨call, hcall hown hlate hwritten, hlate, hwritten⟩

theorem Wired.replay (hstate : Wired state) {written rest : List (Nat × ν)}
    (hreplay : state.replay = some (written ++ rest)) :
    Wired { state with
      replay := some rest, wire := state.wire ++ written } := by
  obtain ⟨done, live, hsplit, hdone, hafter, hnodup, hcalls⟩ := hstate.split
  rw [hreplay] at hdone hafter
  by_cases hlive : live = []
  · subst hlive
    refine ⟨done ++ written, [], ?_, ?_, ?_, nodup_nil, forall_mem_nil _⟩
    · simp only [hsplit, append_nil]
    · rw [hdone]
      simp only [Option.getD_some, append_assoc]
    · intro hne
      exact absurd rfl hne
  · -- the replay task was done before, and has nothing to write
    have hnil : written ++ rest = [] := Option.some.inj (hafter hlive)
    obtain ⟨rfl, rfl⟩ := append_eq_nil_iff.mp hnil
    refine ⟨done, live, ?_, hdone, fun _ => rfl, hnodup, hcalls⟩
    simp only [hsplit, append_nil]

theorem Wired.query (hstate : Wired state) (hreplay : state.replay = none)
    (hreplayed : state.replayed = []) (messages : List (Nat × ν)) :
    Wired { state with
      replay := some messages, replayed := messages } := by
  obtain ⟨done, live, hsplit, hdone, hafter, -, -⟩ := hstate.split
  have hlive : live = [] := by
    by_contra hne
    rw [hreplay] at hafter
    cases hafter hne
  rw [hreplayed, hreplay] at hdone
  obtain ⟨rfl, -⟩ := append_eq_nil_iff.mp hdone.symm
  subst hlive
  exact ⟨[], [], hsplit, rfl, fun hne => absurd rfl hne, nodup_nil, forall_mem_nil _⟩

theorem Wired.write (hstate : Wired state) {index : Nat} {payload : ν} {onNew late : Bool}
    (hcall : state.calls[index]? = some ⟨payload, onNew, some late, false⟩)
    (horderly : onNew = true → state.replay = some [] ∧ late = true) :
    Wired { state.setCall index ⟨payload, onNew, some late, true⟩ with
      wire := if onNew then state.wire ++ [(state.first + index, payload)]
        else state.wire } := by
  have hown := (call_add state index).trans hcall
  have hset := call_setCall hcall ⟨payload, onNew, some late, true⟩
  -- a call that has written is another one
  have hkept : ∀ {label call}, state.call label = some call →
      call.late = some true → call.written = true →
        (state.setCall index ⟨payload, onNew, some late, true⟩).call label =
          some call := by
    intro label call hlabel _ hwritten
    rw [hset, if_neg, hlabel]
    rintro rfl
    rw [hown] at hlabel
    cases hlabel
    cases hwritten
  cases onNew with
  | false => exact hstate.of_call rfl rfl rfl hkept
  | true =>
    obtain ⟨hreplay, rfl⟩ := horderly rfl
    obtain ⟨done, live, hsplit, hdone, -, hnodup, hcalls⟩ := hstate.split
    refine ⟨done, live ++ [(state.first + index, payload)], ?_, hdone, fun _ => hreplay, ?_, ?_⟩
    · simp only [hsplit, if_true, append_assoc]
    · simp only [map_append, map_singleton]
      refine hnodup.append (nodup_singleton _) ?_
      rw [disjoint_singleton]
      intro hmem
      obtain ⟨message, hmessage, hlabel⟩ := mem_map.mp hmem
      obtain ⟨call, hsome, -, hwritten⟩ := hcalls message hmessage
      rw [hlabel, hown] at hsome
      cases hsome
      cases hwritten
    · intro message hmessage
      rw [mem_append, mem_singleton] at hmessage
      rcases hmessage with hmessage | rfl
      · obtain ⟨call, hsome, hlate, hwritten⟩ := hcalls message hmessage
        exact ⟨call, hkept hsome hlate hwritten, hlate, hwritten⟩
      · exact ⟨_, (hset _).trans (if_pos rfl), rfl, rfl⟩

/-- An orderly step keeps the replayed messages first on the wire. -/
theorem Wired.step {resume : Resume} {state next : State ν} {action : Action ν}
    (hstate : Wired state) (hlabelled : Labelled state) (horderly : Orderly state action)
    (hstep : ResumedStream.step resume state action = some next) : Wired next := by
  cases step_cases hstep with
  | start | register => exact hstate.of_call rfl rfl rfl fun hcall _ _ => hcall
  | query hreplay =>
    exact hstate.query hreplay (hlabelled.unasked hreplay).1 _
  | @replay message rest hreplay =>
    have hstarted : state.started = true := horderly
    rw [if_pos hstarted]
    exact @Wired.replay _ state hstate [message] rest hreplay
  | send payload =>
    refine hstate.of_call rfl rfl rfl ?_
    intro label call hcall _ _
    exact (call_send (call_lt hcall) _).trans hcall
  | @store index now payload onNew written hcall =>
    refine hstate.of_call rfl rfl rfl ?_
    intro label call hlabel hlate _
    refine (call_setCall hcall _ label).trans ?_
    rw [if_neg, hlabel]
    rintro rfl
    rw [(call_add state index).trans hcall] at hlabel
    cases hlabel
    cases hlate
  | @write index payload onNew late hcall =>
    refine hstate.write hcall ?_
    intro hnew
    obtain ⟨hdone, hlate⟩ := horderly _ hcall hnew
    refine ⟨?_, Option.some.inj hlate⟩
    cases hreplay : state.replay with
    | none =>
      rw [hreplay] at hdone
      cases hdone
    | some rest =>
      rw [hreplay, Option.any_some, List.isEmpty_iff] at hdone
      rw [hdone]

theorem Wired.resumes (hstate : Wired state) (hlabelled : Labelled state) : Resumes state := by
  obtain ⟨done, live, hsplit, hdone, hafter, hnodup, hcalls⟩ := hstate.split
  have hsub : ∀ message ∈ done, message ∈ state.replayed := by
    intro message hmessage
    rw [hdone]
    exact mem_append_left _ hmessage
  -- what was answered was stored before, what is live was stored later
  have hearly : ∀ message ∈ done, ¬ state.Late message.1 := by
    rintro message hmessage ⟨call, hcall, hlate⟩
    have hfalse := (hlabelled.replayed message (hsub message hmessage)).2 call hcall
    cases hlate.symm.trans hfalse
  have hlate : ∀ message ∈ live, state.Late message.1 := by
    intro message hmessage
    obtain ⟨call, hcall, hlate, -⟩ := hcalls message hmessage
    exact ⟨call, hcall, hlate⟩
  refine ⟨?_, ?_, ?_⟩
  · rw [hsplit, map_append]
    have hfirst := hlabelled.replayedNodup
    rw [hdone, map_append] at hfirst
    refine (nodup_append'.mp hfirst).1.append hnodup ?_
    intro label hleft hright
    obtain ⟨message, hmessage, rfl⟩ := mem_map.mp hleft
    obtain ⟨other, hother, hsame⟩ := mem_map.mp hright
    exact hearly message hmessage (hsame ▸ hlate other hother)
  · intro before message after hwire hmessage replayed hreplayed
    rw [hsplit] at hwire
    rcases append_eq_append_iff.mp hwire with
      ⟨extra, hbefore, hlive⟩ | ⟨extra, hdoneEq, hrest⟩
    · have hnonempty : live ≠ [] := by
        rw [hlive]
        simp
      rw [hdone, hafter hnonempty] at hreplayed
      simp only [Option.getD_some, append_nil] at hreplayed
      rw [hbefore]
      exact mem_append_left _ hreplayed
    · cases extra with
      | nil =>
        rw [append_nil] at hdoneEq
        have hnonempty : live ≠ [] := by
          rw [← nil_append live, ← hrest]
          simp
        rw [hdone, hafter hnonempty] at hreplayed
        simp only [Option.getD_some, append_nil] at hreplayed
        rwa [← hdoneEq]
      | cons head extra =>
        obtain ⟨rfl, -⟩ := List.cons.inj hrest
        refine absurd hmessage (hearly message ?_)
        rw [hdoneEq]
        simp
  · intro hreplay replayed hreplayed
    rw [hdone, hreplay] at hreplayed
    simp only [Option.getD_some, append_nil] at hreplayed
    rw [hsplit]
    exact mem_append_left _ hreplayed

/-- The replay task can write all that it has left. -/
theorem run_replay (resume : Resume) {rest : List (Nat × ν)}
    (hstarted : state.started = true) (hreplay : state.replay = some rest) :
    Lts.run (step resume) state (List.replicate rest.length .replay) =
      some { state with
        replay := some [], wire := state.wire ++ rest } := by
  induction rest generalizing state with
  | nil =>
    cases state
    cases hreplay
    simp [Lts.run]
  | cons message rest ih =>
    have hnext : step resume state .replay = some { state with
        replay := some rest, wire := state.wire ++ [message] } := by
      simp only [step, hreplay, hstarted, if_true]
    rw [length_cons, replicate_succ, Lts.run, hnext]
    simp only [Option.bind_some]
    rw [ih (by exact hstarted) rfl]
    simp only [append_assoc, singleton_append]

/-- Both invariants hold after an orderly run. -/
theorem run_labelled_wired (resume : Resume) {actions : List (Action ν)} {final : State ν}
    (horderly : Lts.Along (step resume) Orderly (initial limit ops) actions)
    (hrun : Lts.run (step resume) (initial limit ops) actions = some final) :
    Labelled final ∧ Wired final := by
  refine @Lts.run_invariant _ _ (step resume) Orderly
    (fun state => Labelled state ∧ Wired state) ?_ _ final actions
    ⟨initial_labelled limit ops, initial_wired limit ops⟩ horderly hrun
  intro state next action hstate hcondition hstep
  obtain ⟨hlabelled, hwired⟩ := hstate
  exact ⟨hlabelled.step hstep, hwired.step hlabelled hcondition hstep⟩

/-- In every orderly run the new stream carries what the store has answered once
and first, and the replay task can bring the rest. -/
theorem run_resumes (limit : Option Nat) (ops : List (StoreOp ν))
    (resume : Resume) {actions : List (Action ν)} {final : State ν}
    (horderly : Lts.Along (step resume) Orderly (initial limit ops) actions)
    (hrun : Lts.run (step resume) (initial limit ops) actions = some final) :
    Resumes final ∧ (final.started = true → ∀ rest, final.replay = some rest →
        ∃ done, Lts.run (step resume) final (List.replicate rest.length .replay) = some done ∧
          Resumes done ∧ done.replayed = final.replayed ∧
          ∀ replayed ∈ done.replayed, replayed ∈ done.wire) := by
  obtain ⟨hlabelled, hwired⟩ := run_labelled_wired limit ops resume horderly hrun
  refine ⟨hwired.resumes hlabelled, ?_⟩
  intro hstarted rest hreplay
  have hdone : Resumes { final with
      replay := some [], wire := final.wire ++ rest } := by
    refine Wired.resumes (hwired.replay (by simpa using hreplay)) ?_
    refine ⟨hlabelled.stored, hlabelled.nodup, ?_, hlabelled.replayed, hlabelled.replayedNodup⟩
    intro hnone
    cases hnone
  exact ⟨_, run_replay resume hstarted hreplay, hdone, rfl, hdone.all rfl⟩

namespace ResumedStreamWitness

def stored (timeStamp : Nat) : StoreOp Str :=
  .storeEvent "s1" "default" timeStamp "m"

def resume : Resume :=
  ⟨"s1", "default", "s1-.-default-.-1"⟩

/-- The transport starts first, and the live message waits for the replay. -/
theorem run_resumes_orderly :
    ∃ final, Lts.run (step resume) (initial none [stored 1, stored 2])
        [.query, .start, .replay, .register, .send "n", .store 0 3, .write 0] = some final ∧
      final.wire = [(1, "m".toList), (2, "n".toList)] ∧ Resumes final := by
  have hrun : Lts.run (step resume) (initial none [stored 1, stored 2])
      [.query, .start, .replay, .register, .send "n", .store 0 3, .write 0] = some _ := rfl
  exact ⟨_, hrun, rfl, (run_resumes none [stored 1, stored 2] resume (by decide) hrun).1⟩

/-- A message that is replayed too early is lost; one stored before
`events_after` comes twice; and a live one comes before the replayed one. -/
theorem not_resumes_unordered :
    (∃ final, Lts.run (step resume) (initial none [stored 1, stored 2])
        [.query, .replay, .start] = some final ∧ ¬ Resumes final) ∧
    (∃ final, Lts.run (step resume) (initial none [stored 1])
        [.start, .register, .send "n", .store 0 2, .query, .replay,
          .write 0] = some final ∧ ¬ Resumes final) ∧
    ∃ final, Lts.run (step resume) (initial none [stored 1, stored 2])
        [.start, .register, .query, .send "n", .store 0 3, .write 0,
          .replay] = some final ∧ ¬ Resumes final := by
  refine ⟨⟨_, rfl, ?_⟩, ⟨_, rfl, ?_⟩, ⟨_, rfl, ?_⟩⟩
  · intro hresumes
    have hmem := hresumes.all rfl (1, "m") (by decide)
    cases hmem
  · intro hresumes
    have hnodup := hresumes.nodup
    revert hnodup
    decide
  · intro hresumes
    have hmem := hresumes.first [] (2, "n") [(1, "m")] rfl ⟨_, rfl, rfl⟩ (1, "m") (by decide)
    cases hmem

end ResumedStreamWitness

end McpSdk.ResumedStream
