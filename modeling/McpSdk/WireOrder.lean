/-
Concurrent writes on one resumable stream. A call of `write_str` files its
message under one lock and writes its line under another; between the two any
other call may run. Events are numbered by the calls of the event store.
-/
import McpSdk.Lts
import McpSdk.ServerFraming

namespace McpSdk.WireOrder

open List Option
open InMemoryEventStore (StoreOp eventStore storedAfter taggedRun generateEventId run_concat
  taggedRun_ordered parseEventId StillStored ReadingFirst sortByTimeStamp)

/-- A call of `write_str`; behind the event store it has the number and id of
its event, or neither if nothing was stored. -/
structure Call where
  payload : Str
  skipStore : Bool
  stored : Option (Option (Nat × Str))
  written : Bool
deriving Repr, DecidableEq

structure Line where
  stored : Option (Nat × Str)
  payload : Str
deriving Repr, DecidableEq

/-- The event store, the wire, and the calls in between. -/
structure State where
  store : InMemoryEventStore Str
  /-- The calls of the event store so far. -/
  ops : List (StoreOp Str)
  /-- How many of them came before the stream. -/
  first : Nat
  calls : List Call
  wire : List Line
  /-- The reader of the stream is gone. -/
  closed : Bool

/-- One half of a call of `write_str`, or another call. -/
inductive Action where
  | other (op : StoreOp Str)
  | send (payload : Str) (skipStore : Bool)
  | store (index now : Nat)
  | write (index : Nat)
  | close
deriving Repr, DecidableEq

/-- The store after some calls, and an empty wire. -/
def initial (limit : Option Nat) (ops : List (StoreOp Str)) : State :=
  ⟨(InMemoryEventStore.new limit).run ops, ops, ops.length, [], [], false⟩

/-- The dispatcher of the stream, as `start` makes it. -/
def dispatcher (sessionId streamId : Str) : MessageDispatcher (InMemoryEventStore Str) :=
  MessageDispatcher.new.makeResumable sessionId streamId
    eventStore

/-- Any call of the event store but one that stores for this stream. -/
def elsewhere (sessionId streamId : Str) :
    StoreOp Str → Bool
  | .storeEvent session stream _ _ =>
    session ≠ sessionId || stream ≠ streamId
  | _ => true

def State.setCall (self : State) (index : Nat) (call : Call) : State :=
  { self with calls := self.calls.set index call }

/-- One call takes one of its two locks. -/
def step (sessionId streamId : Str) (state : State) : Action → Option State
  | .other op =>
    if elsewhere sessionId streamId op then
      some { state with
        store := state.store.apply op, ops := state.ops ++ [op] }
    else none
  | .send payload skipStore =>
    some { state with
      calls := state.calls ++ [⟨payload, skipStore, none, false⟩] }
  | .store index now =>
    match state.calls[index]? with
    | some ⟨payload, skipStore, none, written⟩ =>
      let result := (dispatcher sessionId streamId).storeMessage
        state.store now payload skipStore
      match result.1 with
      | some eventId =>
        some { state.setCall index ⟨payload, skipStore,
            some (some (state.ops.length, eventId)), written⟩ with
          store := result.2
          ops := state.ops ++ [.storeEvent sessionId streamId now payload] }
      | none =>
        some { state.setCall index
            ⟨payload, skipStore, some none, written⟩ with
          store := result.2 }
    | _ => none
  | .write index =>
    match state.calls[index]? with
    | some ⟨payload, skipStore, some stored, false⟩ =>
      -- on a closed stream the write fails with a broken pipe
      some { state.setCall index
          ⟨payload, skipStore, some stored, true⟩ with
        wire := if state.closed then state.wire
          else state.wire ++ [⟨stored, payload⟩] }
    | _ => none
  | .close => some { state with closed := true }

variable {state : State}

def Call.number (self : Call) : Option Nat :=
  self.stored.join.map Prod.fst

def State.stored (self : State) : List Nat :=
  self.calls.filterMap Call.number

def numbers (lines : List Line) : List Nat :=
  lines.filterMap fun line => line.stored.map Prod.fst

/-- The wire is in store order, and for every prefix what was stored behind its
last message is what is not in it, of all that was stored and of what is kept. -/
structure InStoreOrder (limit : Option Nat) (sessionId streamId : Str)
    (state : State) : Prop where
  order : (numbers state.wire).Pairwise (· < ·)
  behind : ∀ before number after,
    numbers state.wire = before ++ number :: after →
      ∀ other ∈ state.stored, number < other ↔ other ∉ before ++ [number]
  kept : ∀ before number after,
    numbers state.wire = before ++ number :: after →
      storedAfter limit state.ops sessionId streamId
          number =
        ((taggedRun limit state.ops).queue
          sessionId).filter fun e => e.streamId = streamId ∧
            state.first ≤ e.message.1 ∧ e.message.1 ∉ before ++ [number]

/-- When a message is written, those stored before it are on the wire. -/
def Oldest (state : State) : Action → Prop
  | .write index => ∀ call ∈ state.calls[index]?, state.closed = false →
      ∀ number ∈ call.number, ∀ other ∈ state.stored, other < number → other ∈ numbers state.wire
  | _ => True

instance (state : State) : DecidablePred (Oldest state)
  | .write _ => inferInstanceAs (Decidable (∀ _ ∈ _, _))
  | .other _ | .send _ _ | .store _ _ | .close => isTrue trivial

variable {number : Nat}

variable {self : State}

theorem mem_stored :
    number ∈ self.stored ↔ ∃ (index : Nat) (call : Call),
      self.calls[index]? = some call ∧ call.number = some number := by
  unfold State.stored
  rw [mem_filterMap]
  constructor
  · rintro ⟨call, hcall, hnumber⟩
    obtain ⟨index, hindex⟩ := mem_iff_getElem?.mp hcall
    exact ⟨index, call, hindex, hnumber⟩
  · rintro ⟨index, call, hindex, hnumber⟩
    exact ⟨call, mem_of_getElem? hindex, hnumber⟩

variable {index : Nat}

theorem getElem?_setCall {old : Call} (hold : self.calls[index]? = some old)
    (call : Call) (other : Nat) :
    (self.setCall index call).calls[other]? =
      if other = index then some call else self.calls[other]? :=
  CallList.getElem?_set_of_some hold call other

theorem numbers_concat (lines : List Line) (line : Line) :
    numbers (lines ++ [line]) = numbers lines ++ (line.stored.map Prod.fst).toList := by
  unfold numbers
  rw [filterMap_append]
  cases hstored : line.stored with
  | none | some => simp [hstored]

theorem storeMessage_cases (sessionId streamId : Str) (store : InMemoryEventStore Str) (now : Nat)
    (payload : Str) (skipStore : Bool) :
    (dispatcher sessionId streamId).storeMessage store now payload skipStore =
        (some (generateEventId sessionId streamId now),
          store.apply (.storeEvent sessionId streamId now payload)) ∨
      (dispatcher sessionId streamId).storeMessage store now payload skipStore = (none, store) := by
  unfold MessageDispatcher.storeMessage
  split
  · exact .inl rfl
  · exact .inr rfl

/-- What a step can do, with its guard. -/
inductive Step (sessionId streamId : Str) (state : State) :
    Action → State → Prop where
  | other {op : StoreOp Str}
      (helsewhere : elsewhere sessionId streamId op = true) :
      Step sessionId streamId state (.other op) { state with
        store := state.store.apply op, ops := state.ops ++ [op] }
  | send (payload : Str) (skipStore : Bool) :
      Step sessionId streamId state (.send payload skipStore) { state with
        calls := state.calls ++ [⟨payload, skipStore, none, false⟩] }
  | store {index now : Nat} {payload : Str} {skipStore written : Bool}
      (hcall : state.calls[index]? = some ⟨payload, skipStore, none, written⟩) :
      Step sessionId streamId state (.store index now) { state.setCall index
          ⟨payload, skipStore, some (some (state.ops.length,
            generateEventId sessionId streamId now)),
            written⟩ with
        store := state.store.apply (.storeEvent sessionId streamId now payload)
        ops := state.ops ++ [.storeEvent sessionId streamId now payload] }
  | skip {index now : Nat} {payload : Str} {skipStore written : Bool}
      (hcall : state.calls[index]? = some ⟨payload, skipStore, none, written⟩) :
      Step sessionId streamId state (.store index now)
        (state.setCall index ⟨payload, skipStore, some none, written⟩)
  | write {index : Nat} {payload : Str} {skipStore : Bool}
      {stored : Option (Nat × Str)}
      (hcall : state.calls[index]? = some ⟨payload, skipStore, some stored, false⟩)
      (hopen : state.closed = false) :
      Step sessionId streamId state (.write index) { state.setCall index
          ⟨payload, skipStore, some stored, true⟩ with
        wire := state.wire ++ [⟨stored, payload⟩] }
  | fail {index : Nat} {payload : Str} {skipStore : Bool}
      {stored : Option (Nat × Str)}
      (hcall : state.calls[index]? = some ⟨payload, skipStore, some stored, false⟩)
      (hclosed : state.closed = true) :
      Step sessionId streamId state (.write index)
        (state.setCall index ⟨payload, skipStore, some stored, true⟩)
  | close : Step sessionId streamId state .close { state with closed := true }

variable {action : Action}

variable {next : State}

theorem step_cases {sessionId streamId : Str}
    (hstep : step sessionId streamId state action = some next) :
    Step sessionId streamId state action next := by
  cases action with
  | other op =>
    obtain ⟨helsewhere, ⟨⟩⟩ := Lts.of_guard hstep
    exact .other helsewhere
  | send payload skipStore =>
    cases hstep
    exact .send payload skipStore
  | store index now =>
    simp only [step] at hstep
    split at hstep
    · next payload skipStore written hcall =>
      rcases storeMessage_cases sessionId streamId state.store now payload
        skipStore with hstored | hskipped
      · rw [hstored] at hstep
        cases hstep
        exact .store hcall
      · rw [hskipped] at hstep
        cases hstep
        exact .skip hcall
    · cases hstep
  | write index =>
    simp only [step] at hstep
    split at hstep
    · next payload skipStore stored hcall =>
      cases hstep
      cases hclosed : state.closed with
      | true =>
        simp only [if_true]
        exact .fail hcall hclosed
      | false =>
        simp only [Bool.false_eq_true, if_false]
        exact .write hcall hclosed
    · cases hstep
  | close =>
    cases hstep
    exact .close

theorem stored_setCall {old call : Call} (hold : self.calls[index]? = some old)
    (hsame : call.number = old.number) : (self.setCall index call).stored = self.stored :=
  CallList.filterMap_set_of_eq hold hsame

theorem mem_stored_setCall {old call : Call} (hold : self.calls[index]? = some old)
    (hnone : old.number = none) (hnumber : call.number = some number) {other : Nat} :
    other ∈ (self.setCall index call).stored ↔ other = number ∨ other ∈ self.stored := by
  simp only [mem_stored, getElem?_setCall hold]
  constructor
  · rintro ⟨position, found, hfound, hother⟩
    split at hfound
    · cases hfound
      exact .inl (Option.some.inj (hother.symm.trans hnumber))
    · exact .inr ⟨position, found, hfound, hother⟩
  · rintro (rfl | ⟨position, found, hfound, hother⟩)
    · exact ⟨index, call, if_pos rfl, hnumber⟩
    · refine ⟨position, found, ?_, hother⟩
      rw [if_neg, hfound]
      rintro rfl
      cases hold.symm.trans hfound
      rw [hnone] at hother
      cases hother

theorem stored_send (self : State) (payload : Str) (skipStore : Bool) :
    ({ self with calls := self.calls ++
      [⟨payload, skipStore, none, false⟩] } : State).stored = self.stored := by
  simp [State.stored, Call.number]

/-- The event of this number was stored for the stream, under this id. -/
def Issued (sessionId streamId : Str) (ops : List (StoreOp Str)) (payload : Str)
    (event : Nat × Str) : Prop :=
  ∃ now, ops[event.1]? = some (.storeEvent sessionId streamId now payload) ∧
    event.2 = generateEventId sessionId streamId now

variable {ops : List (StoreOp Str)}

theorem Issued.concat {sessionId streamId : Str} {payload : Str} {event : Nat × Str}
    (hissued : Issued sessionId streamId ops payload event) (op : StoreOp Str) :
    Issued sessionId streamId (ops ++ [op]) payload event := by
  obtain ⟨now, hop, hid⟩ := hissued
  exact ⟨now, CallList.getElem?_concat_of_some hop op, hid⟩

/-- Whatever the interleaving: numbers are of events that one call stored, every
event has its call, and a number on the wire is of a call that has written. -/
structure Numbered (limit : Option Nat) (sessionId streamId : Str)
    (state : State) : Prop where
  store : state.store = (InMemoryEventStore.new limit).run state.ops
  first_le : state.first ≤ state.ops.length
  calls : ∀ call ∈ state.calls, ∀ event ∈ call.stored.join,
    state.first ≤ event.1 ∧ Issued sessionId streamId state.ops call.payload event
  distinct : ∀ {i j : Nat} {call other : Call} {number : Nat},
    state.calls[i]? = some call → state.calls[j]? = some other →
      call.number = some number → other.number = some number → i = j
  known : ∀ number now payload, state.first ≤ number →
    state.ops[number]? = some (.storeEvent sessionId streamId now payload) → number ∈ state.stored
  lines : ∀ line ∈ state.wire, ∀ event ∈ line.stored,
    Issued sessionId streamId state.ops line.payload event
  wire : ∀ number ∈ numbers state.wire, ∃ (index : Nat) (call : Call),
    state.calls[index]? = some call ∧ call.number = some number ∧ call.written = true
  nodup : (numbers state.wire).Nodup

variable {limit : Option Nat} {sessionId streamId : Str}

theorem initial_numbered (limit : Option Nat) (sessionId streamId : Str)
    (ops : List (StoreOp Str)) :
    Numbered limit sessionId streamId (initial limit ops) := by
  refine ⟨rfl, Nat.le_refl _, forall_mem_nil _, ?_, ?_,
    forall_mem_nil _, forall_mem_nil _, nodup_nil⟩
  · intro i j call other number hcall
    cases hcall
  · intro number now payload hfirst hop
    have hlt := (List.getElem?_eq_some_iff.mp hop).1
    exact absurd hfirst (Nat.not_le.mpr hlt)

section

variable (hstate : Numbered limit sessionId streamId state)

include hstate

theorem Numbered.lt_of_mem_stored
    (hnumber : number ∈ state.stored) : state.first ≤ number ∧ number < state.ops.length := by
  obtain ⟨index, call, hcall, hsome⟩ := mem_stored.mp hnumber
  obtain ⟨event, hevent, rfl⟩ := map_eq_some_iff.mp hsome
  obtain ⟨hfirst, now, hop, -⟩ := hstate.calls call (mem_of_getElem? hcall) event hevent
  exact ⟨hfirst, (List.getElem?_eq_some_iff.mp hop).1⟩

theorem Numbered.mem_stored_of_wire
    (hnumber : number ∈ numbers state.wire) : number ∈ state.stored := by
  obtain ⟨index, call, hcall, hsome, -⟩ := hstate.wire number hnumber
  exact mem_stored.mpr ⟨index, call, hcall, hsome⟩

theorem Numbered.other
    {op : StoreOp Str} (helsewhere : elsewhere sessionId streamId op = true) :
    Numbered limit sessionId streamId { state with
      store := state.store.apply op, ops := state.ops ++ [op] } := by
  refine ⟨?_, ?_, ?_, hstate.distinct, ?_, ?_, hstate.wire, hstate.nodup⟩
  · simp only [run_concat, hstate.store]
  · have hfirst := hstate.first_le
    simp only [length_append]
    omega
  · intro call hcall event hevent
    obtain ⟨hfirst, hissued⟩ := hstate.calls call hcall event hevent
    exact ⟨hfirst, hissued.concat op⟩
  · intro number now payload hfirst hop
    rcases CallList.getElem?_concat_cases hop with ⟨-, rfl⟩ | hold
    · simp [elsewhere] at helsewhere
    · exact hstate.known number now payload hfirst hold
  · intro line hline event hevent
    exact (hstate.lines line hline event hevent).concat op

theorem Numbered.send (payload : Str) (skipStore : Bool) :
    Numbered limit sessionId streamId { state with
      calls := state.calls ++ [⟨payload, skipStore, none, false⟩] } := by
  have hold : ∀ {index : Nat} {call : Call} {number : Nat},
      (state.calls ++ [⟨payload, skipStore, none, false⟩])[index]? =
        some call → call.number = some number →
          state.calls[index]? = some call := by
    intro index call number hcall hnumber
    rcases CallList.getElem?_concat_cases hcall with ⟨-, rfl⟩ | hold
    · cases hnumber
    · exact hold
  refine ⟨hstate.store, hstate.first_le, ?_, ?_, ?_, hstate.lines, ?_, hstate.nodup⟩
  · intro call hcall event hevent
    rw [mem_append, mem_singleton] at hcall
    rcases hcall with hcall | rfl
    · exact hstate.calls call hcall event hevent
    · cases hevent
  · intro i j call other number hcall hother hnumber hsame
    exact hstate.distinct (hold hcall hnumber) (hold hother hsame) hnumber hsame
  · intro number now text hfirst hop
    rw [stored_send]
    exact hstate.known number now text hfirst hop
  · intro number hnumber
    obtain ⟨index, call, hcall, hrest⟩ := hstate.wire number hnumber
    exact ⟨index, call, CallList.getElem?_concat_of_some hcall _, hrest⟩

theorem Numbered.setCall {old call : Call} (hold : state.calls[index]? = some old)
    (hpayload : call.payload = old.payload) (hstored : call.stored.join = old.stored.join)
    (hwritten : old.written = true → call.written = true) :
    Numbered limit sessionId streamId (state.setCall index call) := by
  have hnumber : call.number = old.number := by
    unfold Call.number
    rw [hstored]
  have hfound : ∀ {position : Nat} {found : Call},
      (state.setCall index call).calls[position]? = some found →
        ∃ before, state.calls[position]? = some before ∧
          found.payload = before.payload ∧
          found.stored.join = before.stored.join := by
    intro position found hfound
    rw [getElem?_setCall hold] at hfound
    split at hfound
    · next heq =>
      subst heq
      cases hfound
      exact ⟨old, hold, hpayload, hstored⟩
    · exact ⟨found, hfound, rfl, rfl⟩
  refine ⟨hstate.store, hstate.first_le, ?_, ?_, ?_, hstate.lines, ?_, hstate.nodup⟩
  · intro found hmem event hevent
    obtain ⟨position, hposition⟩ := mem_iff_getElem?.mp hmem
    obtain ⟨before, hbefore, htext, hjoin⟩ := hfound hposition
    rw [htext]
    exact hstate.calls before (mem_of_getElem? hbefore) event (hjoin ▸ hevent)
  · intro i j found other number hcall hother hfirst hsecond
    obtain ⟨left, hleft, -, hjoin⟩ := hfound hcall
    obtain ⟨right, hright, -, hsame⟩ := hfound hother
    unfold Call.number at hfirst hsecond
    rw [hjoin] at hfirst
    rw [hsame] at hsecond
    exact hstate.distinct hleft hright hfirst hsecond
  · intro number now payload hfirst hop
    rw [stored_setCall hold hnumber]
    exact hstate.known number now payload hfirst hop
  · intro number hmem
    obtain ⟨position, found, hcall, hsome, hdone⟩ := hstate.wire number hmem
    by_cases heq : position = index
    · subst heq
      cases hold.symm.trans hcall
      exact ⟨position, call, (getElem?_setCall hold ..).trans (if_pos rfl),
        hnumber.trans hsome, hwritten hdone⟩
    · exact ⟨position, found, ((getElem?_setCall hold ..).trans (if_neg heq)).trans hcall, hsome,
        hdone⟩

theorem Numbered.storeEvent {index now : Nat}
    {old call : Call} (hold : state.calls[index]? = some old) (hnone : old.number = none)
    (hstored : call.stored = some (some (state.ops.length,
      generateEventId sessionId streamId now))) :
    Numbered limit sessionId streamId { state.setCall index call with
      store := state.store.apply (.storeEvent sessionId streamId now call.payload)
      ops := state.ops ++
        [.storeEvent sessionId streamId now call.payload] } := by
  have hset := getElem?_setCall hold call
  have hnumber : call.number = some state.ops.length := by
    rw [Call.number, hstored]
    rfl
  -- the new number is higher than all that there are
  have hfresh : ∀ {position : Nat} {found : Call},
      state.calls[position]? = some found →
        found.number ≠ some state.ops.length := by
    intro position found hfound hsame
    have hlt := (hstate.lt_of_mem_stored (mem_stored.mpr ⟨position, found, hfound, hsame⟩)).2
    omega
  refine ⟨?_, ?_, ?_, ?_, ?_, ?_, ?_, hstate.nodup⟩
  · simp only [run_concat, hstate.store]
  · have hfirst := hstate.first_le
    simp only [State.setCall, length_append]
    omega
  · intro found hmem event hevent
    obtain ⟨position, hposition⟩ := mem_iff_getElem?.mp hmem
    rw [hset] at hposition
    split at hposition
    · cases hposition
      rw [hstored] at hevent
      cases hevent
      exact ⟨hstate.first_le, now, getElem?_concat_length, rfl⟩
    · obtain ⟨hfirst, hissued⟩ := hstate.calls found (mem_of_getElem? hposition) event hevent
      exact ⟨hfirst, hissued.concat _⟩
  · intro i j found other number hleft hright hfound hother
    rw [hset] at hleft hright
    split at hleft
    · next hi =>
      cases hleft
      cases hnumber.symm.trans hfound
      split at hright
      · next hj => exact hi.trans hj.symm
      · exact absurd hother (hfresh hright)
    · split at hright
      · cases hright
        cases hnumber.symm.trans hother
        exact absurd hfound (hfresh hleft)
      · exact hstate.distinct hleft hright hfound hother
  · intro number time text hfirst hop
    refine (mem_stored_setCall hold hnone hnumber).mpr ?_
    rcases CallList.getElem?_concat_cases hop with ⟨hlast, -⟩ | hearlier
    · exact .inl hlast
    · exact .inr (hstate.known number time text hfirst hearlier)
  · intro line hline event hevent
    exact (hstate.lines line hline event hevent).concat _
  · intro number hmem
    obtain ⟨position, found, hfound, hsome, hwritten⟩ := hstate.wire number hmem
    refine ⟨position, found, ?_, hsome, hwritten⟩
    rw [hset, if_neg, hfound]
    rintro rfl
    cases hold.symm.trans hfound
    cases hnone.symm.trans hsome

theorem Numbered.not_mem_wire {call : Call}
    (hcall : state.calls[index]? = some call) (hnumber : call.number = some number)
    (hwritten : call.written = false) : number ∉ numbers state.wire := by
  intro hmem
  obtain ⟨position, found, hfound, hsome, hdone⟩ := hstate.wire number hmem
  have heq := hstate.distinct hfound hcall hsome hnumber
  subst heq
  cases hcall.symm.trans hfound
  rw [hwritten] at hdone
  cases hdone

theorem Numbered.write {index : Nat}
    {payload : Str} {skipStore : Bool} {stored : Option (Nat × Str)}
    (hcall : state.calls[index]? = some ⟨payload, skipStore, some stored, false⟩) :
    Numbered limit sessionId streamId { state.setCall index
        ⟨payload, skipStore, some stored, true⟩ with
      wire := state.wire ++ [⟨stored, payload⟩] } := by
  have hset : Numbered limit sessionId streamId (state.setCall index
      ⟨payload, skipStore, some stored, true⟩) :=
    hstate.setCall hcall rfl rfl fun _ => rfl
  have hown : (state.setCall index ⟨payload, skipStore, some stored, true⟩).calls[index]? =
        some ⟨payload, skipStore, some stored, true⟩ :=
    (getElem?_setCall hcall ..).trans (if_pos rfl)
  refine ⟨hset.store, hset.first_le, hset.calls, hset.distinct, hset.known, ?_, ?_, ?_⟩
  · intro line hline event hevent
    rw [mem_append, mem_singleton] at hline
    rcases hline with hline | rfl
    · exact hset.lines line hline event hevent
    · exact (hset.calls _ (mem_of_getElem? hown) event hevent).2
  · intro number hnumber
    rw [numbers_concat, mem_append, mem_toList] at hnumber
    rcases hnumber with hnumber | hnumber
    · exact hset.wire number hnumber
    · exact ⟨index, _, hown, hnumber, rfl⟩
  · rw [numbers_concat]
    cases stored with
    | none =>
      simp only [map_none, toList_none, append_nil]
      exact hstate.nodup
    | some event =>
      refine hstate.nodup.append (nodup_singleton _) ?_
      exact disjoint_singleton.mpr (hstate.not_mem_wire hcall rfl rfl)

end

/-- A step keeps the numbers of the events. -/
theorem Numbered.step {state next : State} (hstate : Numbered limit sessionId streamId state)
    (hstep : WireOrder.step sessionId streamId state action = some next) :
    Numbered limit sessionId streamId next := by
  cases step_cases hstep with
  | other helsewhere => exact hstate.other helsewhere
  | send payload skipStore => exact hstate.send payload skipStore
  | @store index now payload skipStore written hcall =>
    exact @Numbered.storeEvent _ _ _ _ hstate index now _
      ⟨payload, skipStore, some (some (state.ops.length, generateEventId sessionId streamId now)),
        written⟩ hcall rfl rfl
  | skip hcall => exact hstate.setCall hcall rfl rfl fun hwritten => hwritten
  | write hcall hopen => exact hstate.write hcall
  | fail hcall hclosed => exact hstate.setCall hcall rfl rfl fun _ => rfl
  | close =>
    exact ⟨hstate.store, hstate.first_le, hstate.calls, hstate.distinct,
      hstate.known, hstate.lines, hstate.wire, hstate.nodup⟩

/-- What a step adds to the wire and to the store. -/
theorem step_numbers (hstep : step sessionId streamId state action = some next) :
    (∃ more, numbers next.wire = numbers state.wire ++ more) ∧
      (∀ number ∈ state.stored, number ∈ next.stored) ∧ ∀ number ∈ next.stored,
        number ∈ state.stored ∨ number = state.ops.length := by
  have hsame : ∀ {other : State}, other.stored = state.stored →
      (∀ number ∈ state.stored, number ∈ other.stored) ∧
        ∀ number ∈ other.stored,
          number ∈ state.stored ∨ number = state.ops.length := by
    intro other hstored
    rw [hstored]
    exact ⟨fun _ hnumber => hnumber, fun _ hnumber => .inl hnumber⟩
  have hnil : ∃ more, numbers state.wire = numbers state.wire ++ more := ⟨[], (append_nil _).symm⟩
  cases step_cases hstep with
  | other helsewhere => exact ⟨hnil, hsame rfl⟩
  | send payload skipStore =>
    exact ⟨hnil, hsame (stored_send state payload skipStore)⟩
  | @store index now payload skipStore written hcall =>
    refine ⟨hnil, ?_, ?_⟩
    · intro number hnumber
      exact (mem_stored_setCall hcall rfl rfl).mpr (.inr hnumber)
    · intro number hnumber
      exact ((mem_stored_setCall hcall rfl rfl).mp hnumber).symm
  | skip hcall => exact ⟨hnil, hsame (stored_setCall hcall rfl)⟩
  | write hcall hopen =>
    refine ⟨⟨_, numbers_concat _ _⟩, ?_⟩
    exact hsame (stored_setCall hcall rfl)
  | fail hcall hclosed => exact ⟨hnil, hsame (stored_setCall hcall rfl)⟩
  | close => exact ⟨hnil, hsame rfl⟩

theorem mem_of_mem_front {items before after : List Nat} {last : Nat}
    (hsplit : items = before ++ last :: after)
    (hnumber : number ∈ before ++ [last]) : number ∈ items := by
  rw [hsplit, ← singleton_append, ← append_assoc]
  exact mem_append_left _ hnumber

/-- The middle part of the order, from which the others follow. -/
def Behind (state : State) : Prop :=
  ∀ before number after, numbers state.wire = before ++ number :: after →
    ∀ other ∈ state.stored, number < other ↔ other ∉ before ++ [number]

theorem initial_behind (limit : Option Nat) (ops : List (StoreOp Str)) :
    Behind (initial limit ops) := by
  intro before number after hsplit
  cases before with
  | nil | cons => cases hsplit

theorem Behind.mono (hnumbered : Numbered limit sessionId streamId state) (hstate : Behind state)
    (hwire : numbers next.wire = numbers state.wire)
    (hstored : ∀ number ∈ next.stored, number ∈ state.stored ∨ number = state.ops.length) :
    Behind next := by
  intro before number after hsplit other hother
  rw [hwire] at hsplit
  rcases hstored other hother with hother | rfl
  · exact hstate before number after hsplit other hother
  · have hlt : ∀ {early : Nat}, early ∈ before ++ [number] →
        early < state.ops.length := by
      intro early hearly
      exact (hnumbered.lt_of_mem_stored (hnumbered.mem_stored_of_wire
        (mem_of_mem_front hsplit hearly))).2
    refine iff_of_true (hlt (by simp)) ?_
    intro hmem
    exact Nat.lt_irrefl _ (hlt hmem)

theorem Behind.write {state next : State} (hstate : Behind state) {number : Nat}
    (hnumber : number ∈ state.stored) (hfresh : number ∉ numbers state.wire)
    (holdest : ∀ other ∈ state.stored, other < number → other ∈ numbers state.wire)
    (hwire : numbers next.wire = numbers state.wire ++ [number])
    (hstored : next.stored = state.stored) : Behind next := by
  intro before last after hsplit other hother
  rw [hwire] at hsplit
  rw [hstored] at hother
  rcases eq_nil_or_concat after with rfl | ⟨rest, final, rfl⟩
  · obtain ⟨rfl, hlast⟩ := append_inj' hsplit rfl
    cases hlast
    constructor
    · -- an event with a higher number would have been written out of order
      intro hlt hmem
      rw [mem_append, mem_singleton] at hmem
      rcases hmem with hmem | rfl
      · obtain ⟨left, right, hleft⟩ := append_of_mem hmem
        have hnot : ¬ other < number := Nat.not_lt.mpr (Nat.le_of_lt hlt)
        rw [hstate left other right hleft number hnumber, not_not] at hnot
        exact hfresh (mem_of_mem_front hleft hnot)
      · exact Nat.lt_irrefl _ hlt
    · intro hmem
      rw [mem_append, mem_singleton, not_or] at hmem
      rcases Nat.lt_trichotomy number other with hlt | heq | hgt
      · exact hlt
      · exact absurd heq.symm hmem.2
      · exact absurd (holdest other hother hgt) hmem.1
  · rw [concat_eq_append, ← cons_append, ← append_assoc] at hsplit
    obtain ⟨hold, -⟩ := append_inj' hsplit rfl
    exact hstate before last rest hold other hother

/-- When the oldest call writes, the wire stays in order. -/
theorem Behind.step {state next : State} (hnumbered : Numbered limit sessionId streamId state)
    (hstate : Behind state) (holdest : Oldest state action)
    (hstep : WireOrder.step sessionId streamId state action = some next) : Behind next := by
  obtain ⟨-, -, hstored⟩ := step_numbers hstep
  cases step_cases hstep with
  | other | send | store | skip => exact hstate.mono hnumbered rfl hstored
  | @write index payload skipStore stored hcall hopen =>
    cases stored with
    | none =>
      refine hstate.mono hnumbered ?_ hstored
      rw [numbers_concat]
      exact append_nil _
    | some event =>
      exact hstate.write (mem_stored.mpr ⟨index, _, hcall, rfl⟩)
        (hnumbered.not_mem_wire hcall rfl rfl)
        (holdest _ hcall hopen event.1 rfl) (numbers_concat _ _) (stored_setCall hcall rfl)
  | fail | close => exact hstate.mono hnumbered rfl hstored

theorem Behind.order (hnumbered : Numbered limit sessionId streamId state)
    (hstate : Behind state) : (numbers state.wire).Pairwise (· < ·) := by
  rw [pairwise_iff_forall_sublist]
  intro early late hsub
  obtain ⟨before, after, hsplit, hearly⟩ :
      ∃ before after, numbers state.wire = before ++ late :: after ∧
        early ∈ before := by
    rw [cons_sublist_iff] at hsub
    obtain ⟨left, right, hwire, hleft, hright⟩ := hsub
    obtain ⟨middle, after, hmiddle⟩ := append_of_mem (singleton_sublist.mp hright)
    refine ⟨left ++ middle, after, ?_, mem_append_left _ hleft⟩
    rw [hwire, hmiddle, append_assoc]
  have hfront : early ∈ before ++ [late] := mem_append_left _ hearly
  have hnot : ¬ late < early := by
    rw [hstate before late after hsplit early (hnumbered.mem_stored_of_wire
      (mem_of_mem_front hsplit hfront)), not_not]
    exact hfront
  have hne : early ≠ late := by
    rintro rfl
    have hnodup := hnumbered.nodup
    rw [hsplit, nodup_append'] at hnodup
    exact hnodup.2.2 hearly mem_cons_self
  omega

theorem Behind.inStoreOrder (hnumbered : Numbered limit sessionId streamId state)
    (hstate : Behind state) : InStoreOrder limit sessionId streamId state := by
  refine ⟨hstate.order hnumbered, hstate, ?_⟩
  intro before number after hsplit
  have hfirst : state.first ≤ number :=
    (hnumbered.lt_of_mem_stored (hnumbered.mem_stored_of_wire
      (mem_of_mem_front hsplit (by simp)))).1
  apply filter_congr
  intro e he
  have horigin := (taggedRun_ordered limit state.ops sessionId).2 e he
  rw [decide_eq_decide]
  refine and_congr_right fun hstream => ?_
  rw [hstream] at horigin
  constructor
  · intro hlt
    have hle : state.first ≤ e.message.1 := Nat.le_trans hfirst (Nat.le_of_lt hlt)
    have hother := hnumbered.known _ _ _ hle horigin
    exact ⟨hle, (hstate before number after hsplit _ hother).mp hlt⟩
  · rintro ⟨hle, hmem⟩
    have hother := hnumbered.known _ _ _ hle horigin
    exact (hstate before number after hsplit _ hother).mpr hmem

/-- A message is on the wire before one that was stored earlier. -/
def Overtaken (state : State) : Prop :=
  ∃ before number after, numbers state.wire = before ++ number :: after ∧
    ∃ other ∈ state.stored, other < number ∧ other ∉ before

/-- A message that was overtaken stays so. -/
theorem Overtaken.step {state next : State} (hstate : Overtaken state)
    (hstep : WireOrder.step sessionId streamId state action = some next) : Overtaken next := by
  obtain ⟨⟨more, hmore⟩, hkept, -⟩ := step_numbers hstep
  obtain ⟨before, number, after, hsplit, other, hother, hlt, hnot⟩ := hstate
  refine ⟨before, number, after ++ more, ?_, other, hkept other hother, hlt, hnot⟩
  rw [hmore, hsplit, append_assoc, cons_append]

theorem overtaken_of_not_oldest (hnot : ¬ Oldest state action)
    (hstep : step sessionId streamId state action = some next) : Overtaken next := by
  obtain ⟨-, hkept, -⟩ := step_numbers hstep
  cases step_cases hstep with
  | @write index payload skipStore stored hcall hopen =>
    simp only [Oldest, hcall, mem_some_iff, forall_eq', hopen, true_implies, not_forall] at hnot
    obtain ⟨number, hnumber, other, hother, hlt, hmissing⟩ := hnot
    refine ⟨numbers state.wire, number, [], ?_, other, hkept other hother, hlt, hmissing⟩
    rw [numbers_concat]
    have hsome : stored.map Prod.fst = some number := hnumber
    simp only [hsome, toList_some]
  | @fail index payload skipStore stored hcall hclosed =>
    refine absurd ?_ hnot
    intro call _ hopen
    rw [hclosed] at hopen
    cases hopen
  | other | send | store | skip | close => exact absurd trivial hnot

theorem Overtaken.not_inStoreOrder (hstate : Overtaken state) :
    ¬ InStoreOrder limit sessionId streamId state := by
  intro horder
  obtain ⟨before, number, after, hsplit, other, hother, hlt, hnot⟩ := hstate
  have hbehind := horder.behind before number after hsplit other hother
  have hmem : other ∉ before ++ [number] := by
    rw [mem_append, mem_singleton, not_or]
    exact ⟨hnot, Nat.ne_of_lt hlt⟩
  exact Nat.lt_asymm hlt (hbehind.mpr hmem)

/-- A run keeps the order exactly when the oldest call writes. -/
theorem run_behind_or_overtaken {actions : List Action} {final : State}
    (hrun : Lts.run (step sessionId streamId) (initial limit ops) actions = some final) :
    (Lts.Along (step sessionId streamId) Oldest (initial limit ops) actions ∧
        Numbered limit sessionId streamId final ∧ Behind final) ∨
      (¬ Lts.Along (step sessionId streamId) Oldest (initial limit ops)
        actions ∧ Overtaken final) := by
  refine @Lts.run_along_or_broken _ _ (step sessionId streamId) Oldest
    (fun state => Numbered limit sessionId streamId state ∧ Behind state)
    Overtaken ?_ ?_ Overtaken.step _ final actions
    ⟨initial_numbered limit sessionId streamId ops, initial_behind limit ops⟩ hrun
  · intro state next action hstate holdest hstep
    obtain ⟨hnumbered, hbehind⟩ := hstate
    exact ⟨hnumbered.step hstep, hbehind.step hnumbered holdest hstep⟩
  · intro state next action _ hnot hstep
    exact overtaken_of_not_oldest hnot hstep

/-- Wire order is store order just when no line overtakes an earlier one. -/
theorem run_inStoreOrder_iff (limit : Option Nat) (sessionId streamId : Str)
    (ops : List (StoreOp Str)) {actions : List Action} {final : State}
    (hrun : Lts.run (step sessionId streamId) (initial limit ops) actions = some final) :
    InStoreOrder limit sessionId streamId final ↔
      Lts.Along (step sessionId streamId) Oldest (initial limit ops) actions := by
  rcases run_behind_or_overtaken hrun with
    ⟨halong, hnumbered, hbehind⟩ | ⟨hnot, hovertaken⟩
  · exact iff_of_true (hbehind.inStoreOrder hnumbered) halong
  · exact iff_of_false hovertaken.not_inStoreOrder hnot

/-- A client that has read a prefix and resumes with its last id gets what is
not in it, if the store still knows the event and the readings tell events apart
and in order. -/
theorem messagesAfter_line {actions : List Action} {final : State}
    (hrun : Lts.run (step sessionId streamId) (initial limit ops) actions = some final)
    (halong : Lts.Along (step sessionId streamId) Oldest (initial limit ops) actions)
    {before after : List Line} {line : Line} {now : Nat} (hwire : final.wire = before ++ line :: after)
    (hline : line.stored = some (number, generateEventId sessionId streamId now))
    (hparse : parseEventId
      (generateEventId sessionId streamId now) = .ok (sessionId, streamId, now))
    (hstill : StillStored limit final.ops sessionId number)
    (hfirst : ReadingFirst limit final.ops sessionId streamId now number)
    (hclock : (storedAfter limit final.ops sessionId streamId
      number).Pairwise (fun a b => a.timeStamp ≤ b.timeStamp)) :
    final.store.messagesAfter (generateEventId sessionId streamId now) =
      .ok ((((taggedRun limit final.ops).queue sessionId).filter fun e => e.streamId = streamId ∧
          final.first ≤ e.message.1 ∧
          e.message.1 ∉ numbers (before ++ [line])).map (·.message.2)) := by
  rcases run_behind_or_overtaken hrun with
    ⟨-, hnumbered, hbehind⟩ | ⟨hnot, -⟩
  · have hsplit : numbers final.wire =
        numbers before ++ number :: numbers after := by
      rw [hwire]
      simp [numbers, hline]
    have hprefix : numbers (before ++ [line]) = numbers before ++ [number] := by
      rw [numbers_concat, hline]
      rfl
    have hmem : line ∈ final.wire := by
      rw [hwire]
      exact mem_append_right _ mem_cons_self
    obtain ⟨stored, hop, hid⟩ := hnumbered.lines line hmem _ hline
    obtain rfl : now = stored := RustStr.showNat_inj (append_cancel_left hid)
    rw [hnumbered.store, InMemoryEventStore.messagesAfter_of_first hop hparse hfirst, if_pos hstill,
      sortByTimeStamp, hclock.insertionSort_eq,
      (hbehind.inStoreOrder hnumbered).kept _ _ _ hsplit, hprefix]
  · exact absurd halong hnot

namespace WireOrderWitness

def bothStored : List Action :=
  [.send "a" false, .send "b" false, .store 0 1, .store 1 2]

/-- The second call takes the writer first; who has read only its line does not
get the other message. -/
theorem not_inStoreOrder_overtaken :
    (∃ final, Lts.run (step "s1".toList "default".toList) (initial none [])
        (bothStored ++ [.write 1, .write 0]) = some final ∧
      final.wire.map (·.payload) = ["b".toList, "a".toList] ∧
      ¬ InStoreOrder none "s1".toList "default".toList final) ∧
    ∃ final, Lts.run (step "s1".toList "default".toList) (initial none [])
        (bothStored ++ [.write 1]) = some final ∧
      final.store.messagesAfter "s1-.-default-.-2".toList = .ok [] ∧
      ¬ InStoreOrder none "s1".toList "default".toList final := by
  refine ⟨⟨_, rfl, rfl, ?_⟩, ⟨_, rfl, by decide, ?_⟩⟩
  · intro horder
    have hpairwise := horder.order
    revert hpairwise
    decide
  · intro horder
    have hbehind := horder.behind [] 1 [] rfl 0 (by decide)
    revert hbehind
    decide

theorem inStoreOrder_kept :
    ∃ final, Lts.run (step "s1".toList "default".toList) (initial none [])
        (bothStored ++ [.write 0, .write 1]) = some final ∧
      final.wire.map (·.payload) = ["a".toList, "b".toList] ∧
      InStoreOrder none "s1".toList "default".toList final := by
  have hrun : Lts.run (step "s1".toList "default".toList) (initial none [])
      (bothStored ++ [.write 0, .write 1]) = some _ := rfl
  exact ⟨_, hrun, rfl, (run_inStoreOrder_iff none "s1".toList
    "default".toList [] hrun).mpr (by decide)⟩

/-- The client has read the first line when the connection breaks. -/
theorem messagesAfter_first :
    ∃ final, Lts.run (step "s1".toList "default".toList) (initial none [])
        (bothStored ++ [.write 0]) = some final ∧
      final.store.messagesAfter
        (generateEventId "s1".toList "default".toList 1) = .ok ["b".toList] := by
  have hrun : Lts.run (step "s1".toList "default".toList) (initial none [])
      (bothStored ++ [.write 0]) = some _ := rfl
  refine ⟨_, hrun, ?_⟩
  exact @messagesAfter_line 0 [] none "s1".toList "default".toList _ _ hrun (by decide)
    [] [] _ 1 rfl rfl (by decide) (by decide) (by decide) (by decide)

end WireOrderWitness

end McpSdk.WireOrder
