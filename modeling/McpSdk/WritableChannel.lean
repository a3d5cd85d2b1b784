/-
Writing bytes into a bounded channel of chunks. A write that finds the channel
full starts a task that sends the bytes, and is polled again, so that they go
out twice.
-/
import McpSdk.Lts
import McpSdk.SseEvent

namespace McpSdk.WritableChannel

open List

/-- The channel, the sends that were started, the rest of the current buffer,
the later ones, and the chunks received. -/
structure State where
  channel : List Bytes
  spawned : List Bytes
  current : Bytes
  buffers : List Bytes
  received : List Bytes
deriving Repr, DecidableEq

/-- The writer, the tasks it has started, and the receiver. -/
inductive Action where
  /-- The next call of `write_all`. -/
  | writeAll
  | pollWrite
  /-- A send that waited for room has got it. -/
  | send (index : Nat)
  | recv
deriving Repr, DecidableEq

/-- Nothing has been written. -/
def initial (buffers : List Bytes) : State :=
  { channel := [], spawned := [], current := [], buffers, received := [] }

/-- `poll_write`: the buffer is written at once, or a task will send the same. -/
def pollWrite (capacity : Nat) (self : State) : State :=
  if self.channel.length < capacity then
    { self with channel := self.channel ++ [self.current], current := [] }
  else { self with spawned := self.spawned ++ [self.current] }

/-- `write_all` does not poll for a buffer that is empty. -/
def step (capacity : Nat) (self : State) : Action → Option State
  | .writeAll =>
    match self.current, self.buffers with
    | [], buffer :: buffers => some { self with current := buffer, buffers }
    | _, _ => none
  | .pollWrite =>
    if self.current = [] then none else some (pollWrite capacity self)
  | .send index =>
    match self.spawned[index]? with
    | some chunk =>
      if self.channel.length < capacity then
        some { self with
          channel := self.channel ++ [chunk]
          spawned := self.spawned.eraseIdx index }
      else none
    | none => none
  | .recv =>
    match self.channel with
    | chunk :: channel =>
      some { self with channel, received := self.received ++ [chunk] }
    | [] => none

/-- What a step can do, with its guard. -/
inductive Step (capacity : Nat) (self : State) : Action → State → Prop where
  | writeAll {buffer : Bytes} {buffers : List Bytes}
      (hcurrent : self.current = [])
      (hbuffers : self.buffers = buffer :: buffers) :
      Step capacity self .writeAll { self with current := buffer, buffers }
  | written (hcurrent : self.current ≠ [])
      (hroom : self.channel.length < capacity) :
      Step capacity self .pollWrite
        { self with channel := self.channel ++ [self.current], current := [] }
  | full (hcurrent : self.current ≠ [])
      (hfull : capacity ≤ self.channel.length) :
      Step capacity self .pollWrite
        { self with spawned := self.spawned ++ [self.current] }
  | send {index : Nat} {chunk : Bytes}
      (hchunk : self.spawned[index]? = some chunk)
      (hroom : self.channel.length < capacity) :
      Step capacity self (.send index)
        { self with
          channel := self.channel ++ [chunk]
          spawned := self.spawned.eraseIdx index }
  | recv {chunk : Bytes} {channel : List Bytes}
      (hchannel : self.channel = chunk :: channel) :
      Step capacity self .recv
        { self with channel, received := self.received ++ [chunk] }

theorem step_cases {capacity : Nat} {self next : State} {action : Action}
    (hstep : step capacity self action = some next) : Step capacity self action next := by
  cases action with
  | writeAll =>
    simp only [step] at hstep
    split at hstep
    · next hcurrent hbuffers =>
      cases hstep
      exact .writeAll hcurrent hbuffers
    · cases hstep
  | pollWrite =>
    simp only [step, pollWrite] at hstep
    split at hstep
    · cases hstep
    · next hcurrent =>
      cases hstep
      split
      · next hroom => exact .written hcurrent hroom
      · next hfull => exact .full hcurrent (Nat.le_of_not_lt hfull)
  | send index =>
    simp only [step] at hstep
    split at hstep
    · next chunk hchunk =>
      rw [Option.ite_none_right_eq_some] at hstep
      obtain ⟨hroom, hnext⟩ := hstep
      cases hnext
      exact .send hchunk hroom
    · cases hstep
  | recv =>
    simp only [step] at hstep
    split at hstep
    · next hchannel =>
      cases hstep
      exact .recv hchannel
    · cases hstep

/-- A poll finds room in the channel. -/
def FindsRoom (capacity : Nat) (self : State) : Action → Prop
  | .pollWrite => self.channel.length < capacity
  | _ => True

instance (capacity : Nat) (self : State) :
    ∀ action, Decidable (FindsRoom capacity self action)
  | .pollWrite => inferInstanceAs (Decidable (_ < _))
  | .writeAll | .send _ | .recv => isTrue trivial

/-- Every write is done, every send too, and all has been received. -/
def Complete (self : State) : Prop :=
  self.channel = [] ∧ self.spawned = [] ∧ self.current = [] ∧ self.buffers = []

/-- Every byte is in one place, and the places are in order. -/
structure Exact (bytes : Bytes) (state : State) : Prop where
  spawned : state.spawned = []
  bytes : state.received.flatten ++ state.channel.flatten ++ state.current ++
    state.buffers.flatten = bytes

/-- The number of bytes that have been received or still will be. -/
def total (self : State) : Nat :=
  self.received.flatten.length + self.channel.flatten.length +
    self.spawned.flatten.length + self.current.length +
      self.buffers.flatten.length

theorem length_flatten_eraseIdx {chunks : List Bytes} {index : Nat} {chunk : Bytes}
    (hchunk : chunks[index]? = some chunk) :
    (chunks.eraseIdx index).flatten.length + chunk.length = chunks.flatten.length := by
  induction chunks generalizing index with
  | nil => cases hchunk
  | cons head tail ih =>
    cases index with
    | zero =>
      cases hchunk
      simp [Nat.add_comm]
    | succ index =>
      have hlater := ih (by simpa using hchunk)
      simp only [eraseIdx_cons_succ, flatten_cons, length_append]
      omega

theorem Step.total {capacity : Nat} {self next : State} {action : Action}
    (hstep : Step capacity self action next) :
    WritableChannel.total self ≤ WritableChannel.total next ∧ (¬ FindsRoom capacity self action →
        WritableChannel.total self < WritableChannel.total next) := by
  cases hstep with
  | writeAll hcurrent hbuffers =>
    refine ⟨?_, fun hfull => absurd trivial hfull⟩
    simp only [WritableChannel.total, hcurrent, hbuffers, flatten_cons, length_append, length_nil]
    omega
  | written hcurrent hroom =>
    refine ⟨?_, fun hfull => absurd hroom hfull⟩
    simp only [WritableChannel.total, flatten_append, flatten_singleton, length_append, length_nil]
    omega
  | full hcurrent hfull =>
    have hlength := length_pos_iff.mpr hcurrent
    simp only [WritableChannel.total, flatten_append, flatten_singleton, length_append]
    omega
  | send hchunk hroom =>
    refine ⟨?_, fun hfull => absurd trivial hfull⟩
    have hlength := length_flatten_eraseIdx hchunk
    simp only [WritableChannel.total, flatten_append, flatten_singleton, length_append]
    omega
  | recv hchannel =>
    refine ⟨?_, fun hfull => absurd trivial hfull⟩
    simp only [WritableChannel.total, hchannel, flatten_append, flatten_cons, length_append]
    omega

/-- A step that finds room keeps the bytes exact. -/
theorem Exact.step {capacity : Nat} {bytes : Bytes} {self next : State} {action : Action}
    (hself : Exact bytes self) (hroom : FindsRoom capacity self action)
    (hstep : Step capacity self action next) : Exact bytes next := by
  cases hstep with
  | writeAll hcurrent hbuffers =>
    refine ⟨hself.spawned, ?_⟩
    rw [← hself.bytes, hcurrent, hbuffers]
    simp
  | written hcurrent hroom =>
    refine ⟨hself.spawned, ?_⟩
    rw [← hself.bytes]
    simp
  | full hcurrent hfull => exact absurd hroom (Nat.not_lt_of_le hfull)
  | send hchunk hroom =>
    rw [hself.spawned] at hchunk
    cases hchunk
  | recv hchannel =>
    refine ⟨hself.spawned, ?_⟩
    rw [← hself.bytes, hchannel]
    simp

/-- In every interleaving in which all is written and received: the bytes that
arrive are those written exactly when no poll has found the channel full. -/
theorem run_received_eq_iff {capacity : Nat} {buffers : List Bytes} {trace : List Action}
    {final : State} (hrun : Lts.run (step capacity) (initial buffers) trace = some final)
    (hcomplete : Complete final) :
    final.received.flatten = buffers.flatten ↔
      Lts.Along (step capacity) (FindsRoom capacity) (initial buffers) trace := by
  obtain ⟨hchannel, hspawned, hcurrent, hbuffers⟩ := hcomplete
  have hcases := @Lts.run_along_or_broken _ _ (step capacity)
    (FindsRoom capacity) (Exact buffers.flatten)
    (fun state => buffers.flatten.length < total state)
    (fun hstate hroom hstep => hstate.step hroom (step_cases hstep))
    (fun hstate hroom hstep => by
      have hless := (step_cases hstep).total.2 hroom
      have hlength := congrArg List.length hstate.bytes
      simp only [length_append] at hlength
      simp only [total, hstate.spawned, flatten_nil, length_nil] at hless ⊢
      omega)
    (fun hstate hstep =>
      Nat.lt_of_lt_of_le hstate (step_cases hstep).total.1)
    _ _ _ ⟨rfl, by simp [initial]⟩ hrun
  rcases hcases with ⟨halong, hexact⟩ | ⟨halong, htotal⟩
  · refine iff_of_true ?_ halong
    rw [← hexact.bytes, hchannel, hcurrent, hbuffers]
    simp
  · refine iff_of_false ?_ halong
    intro heq
    simp [total, hchannel, hspawned, hcurrent, hbuffers, heq] at htotal

namespace WritableChannelWitness

def buffers : List Bytes := [[1], [2]]

/-- The second write finds the channel full, its task sends the byte, and the
write is polled again. -/
def repolled : List Action :=
  [.writeAll, .pollWrite, .writeAll, .pollWrite, .recv, .send 0, .recv, .pollWrite, .recv]

theorem repolled_sent_twice :
    ∃ final, Lts.run (step 1) (initial buffers) repolled = some final ∧
      Complete final ∧ final.received = [[1], [2], [2]] :=
  ⟨_, rfl, ⟨rfl, rfl, rfl, rfl⟩, rfl⟩

def alternating : List Action :=
  [.writeAll, .pollWrite, .recv, .writeAll, .pollWrite, .recv]

theorem alternating_sent_once :
    ∃ final, Lts.run (step 1) (initial buffers) alternating = some final ∧
      Complete final ∧ final.received.flatten = buffers.flatten := by
  have hrun : Lts.run (step 1) (initial buffers) alternating = some _ := rfl
  refine ⟨_, hrun, ⟨rfl, rfl, rfl, rfl⟩, ?_⟩
  exact (run_received_eq_iff hrun ⟨rfl, rfl, rfl, rfl⟩).mpr (by decide)

end WritableChannelWitness

end McpSdk.WritableChannel
