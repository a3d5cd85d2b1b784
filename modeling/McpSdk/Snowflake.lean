/-
`SnowflakeIdGenerator`: milliseconds since an epoch, the machine and a sequence
number. The calls of `next_id` share two atomic words, and every atomic
operation and clock reading is a step of its own.
-/
import McpSdk.Lts
import Mathlib.Algebra.Order.Group.Nat

namespace McpSdk.Snowflake

open List

def compose (machineId timestamp sequence : Nat) : Nat :=
  ((timestamp &&& 0x1FFFFFFFFFF) <<< 22) ||| ((machineId &&& 0x3FF) <<< 12) ||| (sequence &&& 0xFFF)

def bits (id low count : Nat) : Nat :=
  (id >>> low) % Nat.pow 2 count

variable {machineId timestamp sequence : Nat}

theorem compose_eq (hmachine : machineId < 1024) (htimestamp : timestamp < Nat.pow 2 41)
    (hsequence : sequence < 4096) :
    compose machineId timestamp sequence = timestamp * 4194304 + (machineId * 4096 + sequence) := by
  have htime : timestamp &&& 0x1FFFFFFFFFF = timestamp := by
    rw [Nat.and_two_pow_sub_one_of_lt_two_pow (n := 41) htimestamp]
  have hid : machineId &&& 0x3FF = machineId := by
    rw [Nat.and_two_pow_sub_one_of_lt_two_pow (n := 10) hmachine]
  have hseq : sequence &&& 0xFFF = sequence := by
    rw [Nat.and_two_pow_sub_one_of_lt_two_pow (n := 12) hsequence]
  have hlow : machineId <<< 12 ||| sequence = machineId * 4096 + sequence := by
    rw [← Nat.shiftLeft_add_eq_or_of_lt hsequence, Nat.shiftLeft_eq]
  rw [compose, htime, hid, hseq, Nat.or_assoc, hlow,
    ← Nat.shiftLeft_add_eq_or_of_lt (by omega), Nat.shiftLeft_eq]

theorem bits_compose (hmachine : machineId < 1024)
    (htimestamp : timestamp < Nat.pow 2 41) (hsequence : sequence < 4096) :
    bits (compose machineId timestamp sequence) 22 41 = timestamp ∧
      bits (compose machineId timestamp sequence) 12 10 = machineId ∧
      bits (compose machineId timestamp sequence) 0 12 = sequence := by
  rw [compose_eq hmachine htimestamp hsequence]
  simp only [bits, Nat.shiftRight_eq_div_pow, Nat.pow_eq, Nat.reducePow] at htimestamp ⊢
  omega

/-- What the calls share, and the clock; `SHORTER_EPOCH` is set at first use. -/
structure Shared where
  now : Nat
  epoch : Option Nat
  lastTimestamp : Nat
  sequence : Nat
deriving Repr, DecidableEq

/-- The milliseconds between the epoch and a reading of the clock. -/
def Shared.elapsed (shared : Shared) (now : Nat) : Nat :=
  now - shared.epoch.getD now

/-- The next operation of a call, with the timestamp that it waits to pass. -/
inductive Phase where
  | read (last : Option Nat)
  | subtract (last : Option Nat) (now : Nat)
  | load (timestamp : Nat)
  | fetchAdd (timestamp : Nat)
  | storeSequence (timestamp : Nat)
  | storeTimestamp (timestamp : Nat)
  | returned (timestamp sequence : Nat)
deriving Repr, DecidableEq

def Phase.advance (shared : Shared) : Phase → Option (Phase × Shared)
  | .read last => some (.subtract last shared.now, shared)
  | .subtract last now =>
    let epoch := shared.epoch.getD shared.now
    let timestamp := now - epoch
    let shared := { shared with epoch := some epoch }
    match last with
    | none => some (.load timestamp, shared)
    | some last =>
      if timestamp ≤ last then some (.read (some last), shared)
      else some (.storeSequence timestamp, shared)
  | .load timestamp =>
    if timestamp = shared.lastTimestamp then
      some (.fetchAdd timestamp, shared)
    else some (.storeSequence timestamp, shared)
  | .fetchAdd timestamp =>
    let sequence := shared.sequence &&& 0xFFF
    let shared := { shared with sequence := (shared.sequence + 1) % Nat.pow 2 64 }
    -- taken for an overflow, also when the sequence has just been reset
    if sequence = 0 then some (.read (some timestamp), shared)
    else some (.returned timestamp sequence, shared)
  | .storeSequence timestamp =>
    some (.storeTimestamp timestamp, { shared with sequence := 0 })
  | .storeTimestamp timestamp =>
    some (.returned timestamp 0, { shared with lastTimestamp := timestamp })
  | .returned _ _ => none

def Phase.isReturned : Phase → Bool
  | .returned _ _ => true
  | _ => false

def Phase.id (machineId : Nat) : Phase → Option Nat
  | .returned timestamp sequence => some (compose machineId timestamp sequence)
  | _ => none

/-- The shared words with the clock, and the calls. -/
structure State where
  shared : Shared
  calls : List Phase
deriving Repr, DecidableEq

/-- The clock moves on, a call starts, or a call takes its next operation. -/
inductive Action where
  | tick (now : Nat)
  | call
  | act (index : Nat)
deriving Repr, DecidableEq

/-- The clock moves, or a call makes its next operation. -/
def step (state : State) : Action → Option State
  | .tick now =>
    if state.shared.now ≤ now then
      some { state with shared := { state.shared with now } }
    else none
  | .call => some { state with calls := state.calls ++ [.read none] }
  | .act index => do
      let phase ← state.calls[index]?
      let (next, shared) ← phase.advance state.shared
      some ⟨shared, state.calls.set index next⟩

/-- `SnowflakeIdGenerator::new`, in a process that may have an epoch. -/
def State.initial (now : Nat) (epoch : Option Nat) : State :=
  ⟨⟨now, epoch, 0, 0⟩, []⟩

/-- The ids that have been returned, in the order of the calls. -/
def State.ids (machineId : Nat) (state : State) : List Nat :=
  state.calls.filterMap (Phase.id machineId)

/-- No timestamp of an id needs more than 41 bits. -/
def State.inTime (state : State) : Bool :=
  state.calls.all fun
    | .returned timestamp _ => timestamp < Nat.pow 2 41
    | _ => true

def State.inFlight (state : State) : Nat :=
  state.calls.countP fun phase => !phase.isReturned

/-- A call starts only while fewer than `count` others are in flight. -/
def AtMost (count : Nat) (state : State) (action : Action) : Prop :=
  action = .call → state.inFlight < count

instance (count : Nat) (state : State) (action : Action) : Decidable (AtMost count state action) :=
  inferInstanceAs (Decidable (_ → _))

/-- The sequence is at its start, or will be reset by a call now. -/
def Shared.Settled (shared : Shared) (timestamp : Nat) : Prop :=
  shared.lastTimestamp ≤ timestamp ∧ (shared.sequence = 0 ∨ shared.lastTimestamp < timestamp)

theorem Shared.elapsed_mono (shared : Shared) {now later : Nat}
    (hlater : now ≤ later) : shared.elapsed now ≤ shared.elapsed later := by
  unfold Shared.elapsed
  cases shared.epoch with
  | none => simp
  | some epoch => exact Nat.sub_le_sub_right hlater epoch

variable {shared : Shared} {phase : Phase}

theorem Shared.Settled.mono {later : Nat} (hsettled : shared.Settled timestamp)
    (hlater : timestamp ≤ later) : shared.Settled later :=
  ⟨hsettled.1.trans hlater, hsettled.2.imp id fun hlt => hlt.trans_le hlater⟩

/-- What a call knows on its way when no other is in flight. -/
def OnWay (shared : Shared) : Phase → Prop
  | .read none => shared.Settled (shared.elapsed shared.now)
  | .read (some last) => last = shared.lastTimestamp
  | .subtract none now =>
    now ≤ shared.now ∧ shared.Settled (shared.elapsed now)
  | .subtract (some last) now => last = shared.lastTimestamp ∧ now ≤ shared.now
  | .load timestamp =>
    shared.Settled timestamp ∧ timestamp ≤ shared.elapsed shared.now
  | .fetchAdd timestamp =>
    timestamp = shared.lastTimestamp ∧ shared.sequence = 0
  | .storeSequence timestamp =>
    shared.lastTimestamp < timestamp ∧ timestamp ≤ shared.elapsed shared.now
  | .storeTimestamp timestamp =>
    shared.lastTimestamp < timestamp ∧ timestamp ≤ shared.elapsed shared.now ∧ shared.sequence = 0
  | .returned _ _ => False

/-- The calls have returned one by one, each at a later millisecond and with the
sequence number 0. -/
structure Serial (state : State) (done : List Nat) (tail : Option Phase) :
    Prop where
  calls : state.calls = done.map (Phase.returned · 0) ++ tail.toList
  increasing : done.Pairwise (· < ·)
  past : ∀ timestamp ∈ done, timestamp ≤ state.shared.lastTimestamp
  elapsed : state.shared.lastTimestamp ≤ state.shared.elapsed state.shared.now
  idle : tail = none → state.shared.Settled (state.shared.elapsed state.shared.now)
  onWay : ∀ phase, tail = some phase → OnWay state.shared phase

/-- The calls so far have run one after the other. -/
def Sequential (state : State) : Prop :=
  ∃ done tail, Serial state done tail

theorem OnWay.advance {after : Shared} {next : Phase} (hphase : OnWay shared phase)
    (helapsed : shared.lastTimestamp ≤ shared.elapsed shared.now)
    (hnext : phase.advance shared = some (next, after)) :
    after.lastTimestamp ≤ after.elapsed after.now ∧
      (OnWay after next ∧ after.lastTimestamp = shared.lastTimestamp ∨
        next = .returned after.lastTimestamp 0 ∧ after.sequence = 0 ∧
          shared.lastTimestamp < after.lastTimestamp) := by
  obtain ⟨now, epoch, last, sequence⟩ := shared
  cases phase with
  | read waiting =>
    cases hnext
    cases waiting with
    | none => exact ⟨helapsed, .inl ⟨⟨le_rfl, hphase⟩, rfl⟩⟩
    | some waiting => exact ⟨helapsed, .inl ⟨⟨hphase, le_rfl⟩, rfl⟩⟩
  | subtract waiting reading =>
    cases waiting <;> cases epoch <;>
      simp only [Phase.advance, OnWay, Shared.Settled, Shared.elapsed,
        Option.getD_none, Option.getD_some] at *
    all_goals grind [OnWay, Shared.Settled, Shared.elapsed]
  | load timestamp =>
    simp only [Phase.advance] at hnext
    grind [OnWay, Shared.Settled, Shared.elapsed]
  | fetchAdd timestamp =>
    obtain ⟨rfl, hsequence⟩ := hphase
    simp only at hsequence
    subst hsequence
    simp only [Phase.advance, Nat.zero_and, if_true, Option.some.injEq, Prod.mk.injEq] at hnext
    obtain ⟨rfl, rfl⟩ := hnext
    exact ⟨helapsed, .inl ⟨rfl, rfl⟩⟩
  | storeSequence timestamp =>
    cases hnext
    exact ⟨helapsed, .inl ⟨⟨hphase.1, hphase.2, rfl⟩, rfl⟩⟩
  | storeTimestamp timestamp =>
    cases hnext
    exact ⟨hphase.2.1, .inr ⟨rfl, hphase.2.2, hphase.1⟩⟩
  | returned timestamp sequence => cases hnext

theorem OnWay.isReturned (hphase : OnWay shared phase) : phase.isReturned = false := by
  cases phase with
  | returned timestamp sequence => exact hphase.elim
  | _ => rfl

theorem OnWay.tick {now : Nat} (hphase : OnWay shared phase)
    (hnow : shared.now ≤ now) : OnWay { shared with now } phase := by
  have helapsed := shared.elapsed_mono hnow
  cases phase with
  | read waiting =>
    cases waiting with
    | none => exact hphase.mono helapsed
    | some waiting => exact hphase
  | subtract waiting reading =>
    cases waiting with
    | none => exact ⟨hphase.1.trans hnow, hphase.2⟩
    | some waiting => exact ⟨hphase.1, hphase.2.trans hnow⟩
  | load timestamp => exact ⟨hphase.1, hphase.2.trans helapsed⟩
  | storeSequence timestamp => exact ⟨hphase.1, hphase.2.trans helapsed⟩
  | storeTimestamp timestamp =>
    exact ⟨hphase.1, hphase.2.1.trans helapsed, hphase.2.2⟩
  | _ => exact hphase

variable {state final : State} {done : List Nat} {tail : Option Phase}
  {actions : List Action}

theorem Serial.current (hserial : Serial state done tail) {index : Nat}
    (hphase : state.calls[index]? = some phase) (hflight : phase.isReturned = false) :
    index = done.length ∧ tail = some phase := by
  rw [hserial.calls] at hphase
  rcases Nat.lt_or_ge index done.length with hlt | hge
  · rw [getElem?_append_left (by simpa using hlt), getElem?_map] at hphase
    obtain ⟨timestamp, -, rfl⟩ := Option.map_eq_some_iff.mp hphase
    cases hflight
  · rw [getElem?_append_right (by simpa using hge), length_map] at hphase
    cases tail with
    | none => simp at hphase
    | some current =>
      rw [Option.toList_some, getElem?_singleton] at hphase
      split at hphase
      · exact ⟨by omega, hphase⟩
      · cases hphase

/-- Calls that do not overlap stay in sequence. -/
theorem Sequential.after_step {next : State} {action : Action} (hserial : Sequential state)
    (hone : AtMost 1 state action) (hstep : step state action = some next) : Sequential next := by
  obtain ⟨done, tail, hserial⟩ := hserial
  have ⟨hcalls, hincreasing, hpast, helapsed, hidle, honWay⟩ := hserial
  cases action with
  | tick now =>
    obtain ⟨hnow, ⟨⟩⟩ := Lts.of_guard hstep
    have hmono := state.shared.elapsed_mono hnow
    exact ⟨done, tail, hcalls, hincreasing, hpast, helapsed.trans hmono,
      fun htail => (hidle htail).mono hmono, fun phase hphase => (honWay phase hphase).tick hnow⟩
  | call =>
    cases hstep
    cases tail with
    | none =>
      refine ⟨done, some (.read none), ?_, hincreasing, hpast, helapsed, by simp, ?_⟩
      · simp [hcalls]
      · rintro phase ⟨⟩
        exact hidle rfl
    | some phase =>
      have hflight := hone rfl
      simp [State.inFlight, hcalls, (honWay phase rfl).isReturned] at hflight
  | act index =>
    simp only [step, Option.bind_eq_bind, Option.bind_eq_some_iff] at hstep
    obtain ⟨phase, hphase, ⟨after, shared⟩, hadvance, hnext⟩ := hstep
    cases hnext
    have hflight : phase.isReturned = false := by
      cases phase with
      | returned timestamp sequence => cases hadvance
      | _ => rfl
    obtain ⟨rfl, rfl⟩ := hserial.current hphase hflight
    have hset : state.calls.set done.length after =
        done.map (Phase.returned · 0) ++ [after] := by
      rw [hcalls, set_append_right _ _ (by simp)]
      simp
    obtain ⟨hafter, ⟨hway, hlast⟩ | ⟨rfl, hsequence, hlast⟩⟩ :=
      (honWay phase rfl).advance helapsed hadvance
    · refine ⟨done, some after, hset, hincreasing, ?_, hafter, by simp, ?_⟩
      · rw [hlast]
        exact hpast
      · rintro phase ⟨⟩
        exact hway
    · refine ⟨done ++ [shared.lastTimestamp], none, ?_, ?_, ?_, hafter,
        fun _ => ⟨hafter, .inl hsequence⟩, by simp⟩
      · simp [hset]
      · refine pairwise_append.mpr ⟨hincreasing, by simp, ?_⟩
        intro timestamp htimestamp later hlater
        rw [mem_singleton.mp hlater]
        exact (hpast timestamp htimestamp).trans_lt hlast
      · intro timestamp htimestamp
        rcases mem_append.mp htimestamp with hmem | hmem
        · exact (hpast timestamp hmem).trans hlast.le
        · exact (mem_singleton.mp hmem).le

/-- A run of calls that do not overlap leaves them in sequence. -/
theorem run_serial {count : Nat} (hcount : count ≤ 1)
    (hsettled : shared.Settled (shared.elapsed shared.now))
    (hone : Lts.Along step (AtMost count) ⟨shared, []⟩ actions)
    (hrun : Lts.run step ⟨shared, []⟩ actions = some final) : Sequential final := by
  have hstart : Sequential ⟨shared, []⟩ :=
    ⟨[], none, rfl, .nil, by simp, hsettled.1, fun _ => hsettled, by simp⟩
  refine Lts.run_invariant ?_ hstart hone hrun
  intro state next action hserial hatMost hstep
  exact Sequential.after_step hserial (fun hcall => (hatMost hcall).trans_le hcount) hstep

theorem Serial.ids (hserial : Serial state done tail) :
    state.ids machineId = done.map (compose machineId · 0) := by
  have htail : tail.toList.filterMap (Phase.id machineId) = [] := by
    cases tail with
    | none => rfl
    | some phase =>
      have hphase := hserial.onWay phase rfl
      cases phase with
      | returned timestamp sequence => exact hphase.elim
      | _ => rfl
  rw [State.ids, hserial.calls, filterMap_append, htail, append_nil, filterMap_map]
  exact congrFun filterMap_eq_map done

theorem Serial.inTime (hserial : Serial state done tail) (htime : state.inTime = true)
    (htimestamp : timestamp ∈ done) : timestamp < Nat.pow 2 41 := by
  rw [State.inTime, hserial.calls, all_append, all_map, Bool.and_eq_true] at htime
  exact of_decide_eq_true (all_eq_true.mp htime.1 timestamp htimestamp)

theorem Serial.pairwise_ids (hserial : Serial state done tail) (htime : state.inTime = true)
    (hmachine : machineId < 1024) : (state.ids machineId).Pairwise (· < ·) := by
  rw [hserial.ids, pairwise_map]
  refine hserial.increasing.imp_of_mem ?_
  intro earlier later hearlier hlater hlt
  rw [compose_eq hmachine (hserial.inTime htime hearlier) (by decide),
    compose_eq hmachine (hserial.inTime htime hlater) (by decide)]
  omega

theorem Serial.mem_done (hserial : Serial state done tail)
    (hmem : .returned timestamp sequence ∈ state.calls) : timestamp ∈ done ∧ sequence = 0 := by
  rw [hserial.calls, mem_append, mem_map] at hmem
  rcases hmem with ⟨found, hfound, heq⟩ | htail
  · cases heq
    exact ⟨hfound, rfl⟩
  · cases tail with
    | none => simp at htail
    | some phase =>
      cases mem_singleton.mp htail
      exact (hserial.onWay _ rfl).elim

theorem initial_settled (now : Nat) (epoch : Option Nat) :
    (State.initial now epoch).shared.Settled ((State.initial now epoch).shared.elapsed now) :=
  ⟨Nat.zero_le _, .inl rfl⟩

/-- Calls one after the other give increasing ids, whose parts can be read back. -/
theorem sequential_ids_increase {now : Nat} {epoch : Option Nat} (hmachine : machineId < 1024)
    (hone : Lts.Along step (AtMost 1) (State.initial now epoch) actions)
    (hrun : Lts.run step (State.initial now epoch) actions = some final)
    (htime : final.inTime = true) :
    (final.ids machineId).Pairwise (· < ·) ∧
      ∀ timestamp sequence, .returned timestamp sequence ∈ final.calls →
        bits (compose machineId timestamp sequence) 22 41 = timestamp ∧
          bits (compose machineId timestamp sequence) 12 10 = machineId ∧
          bits (compose machineId timestamp sequence) 0 12 = sequence := by
  obtain ⟨done, tail, hserial⟩ := run_serial le_rfl (initial_settled now epoch) hone hrun
  refine ⟨hserial.pairwise_ids htime hmachine, ?_⟩
  intro timestamp sequence hmem
  obtain ⟨htimestamp, rfl⟩ := hserial.mem_done hmem
  exact bits_compose hmachine (hserial.inTime htime htimestamp) (by decide)

/-- In time, no run with at most `count` calls in flight gives an id twice. -/
def UniqueUpTo (machineId count : Nat) : Prop :=
  ∀ now epoch actions final,
    Lts.Along step (AtMost count) (State.initial now epoch) actions →
      Lts.run step (State.initial now epoch) actions = some final →
        final.inTime = true → (final.ids machineId).Nodup

/-- Two calls read the same millisecond before either stores it. -/
def race : List Action :=
  [.call, .call, .act 0, .act 0, .act 0, .act 1, .act 1, .act 1, .act 0, .act 0, .act 1, .act 1]

def raced : State := ⟨⟨1, some 0, 1, 0⟩, [.returned 1 0, .returned 1 0]⟩

theorem race_atMost {count : Nat} (hcount : 2 ≤ count) :
    Lts.Along step (AtMost count) (State.initial 1 (some 0)) race := by
  simp [race, Lts.Along, AtMost, State.inFlight, step, State.initial, Phase.isReturned]
  omega

theorem not_nodup_raced (machineId : Nat) : ¬ (raced.ids machineId).Nodup := by
  simp [raced, State.ids, Phase.id]

/-- Ids are unique exactly when calls are not made at the same time. -/
theorem uniqueUpTo_iff (hmachine : machineId < 1024) (count : Nat) :
    UniqueUpTo machineId count ↔ count ≤ 1 := by
  constructor
  · intro hunique
    by_contra hcount
    exact not_nodup_raced machineId (hunique 1 (some 0) race raced
      (race_atMost (by omega)) (by decide) (by decide))
  · intro hcount now epoch actions final hone hrun htime
    obtain ⟨done, tail, hserial⟩ := run_serial hcount (initial_settled now epoch) hone hrun
    exact (hserial.pairwise_ids htime hmachine).imp Nat.ne_of_lt

/-- So many calls return in this millisecond, with different ids that carry it. -/
def Serves (shared : Shared) (machineId count : Nat) : Prop :=
  ∃ actions final,
    Lts.Along step (AtMost 1) ⟨shared, []⟩ actions ∧
      (∀ now, .tick now ∉ actions) ∧
      Lts.run step ⟨shared, []⟩ actions = some final ∧
      final.calls.length = count ∧
      (∀ phase ∈ final.calls, ∃ sequence, phase = .returned (shared.elapsed shared.now) sequence) ∧
      (final.ids machineId).Nodup

theorem Serves.le_one {count : Nat} (hlater : shared.lastTimestamp < shared.elapsed shared.now)
    (hserves : Serves shared machineId count) : count ≤ 1 := by
  obtain ⟨actions, final, hone, -, hrun, rfl, hcalls, hnodup⟩ := hserves
  obtain ⟨done, tail, hserial⟩ := run_serial le_rfl ⟨hlater.le, .inr hlater⟩ hone hrun
  -- every id is the one with the sequence number 0
  have hsame : final.calls = List.replicate final.calls.length
      (.returned (shared.elapsed shared.now) 0) := by
    refine eq_replicate_iff.mpr ⟨rfl, ?_⟩
    intro phase hphase
    obtain ⟨sequence, rfl⟩ := hcalls phase hphase
    obtain ⟨-, rfl⟩ := hserial.mem_done hphase
    rfl
  rw [State.ids, hsame, filterMap_replicate] at hnodup
  exact nodup_replicate.mp hnodup

theorem serves_one (hlater : shared.lastTimestamp < shared.elapsed shared.now) :
    Serves shared machineId 1 := by
  obtain ⟨now, epoch, last, sequence⟩ := shared
  cases epoch with
  | none => simp [Shared.elapsed] at hlater
  | some epoch =>
    have hne : now - epoch ≠ last := Nat.ne_of_gt hlater
    refine ⟨[.call, .act 0, .act 0, .act 0, .act 0, .act 0],
      ⟨⟨now, some epoch, now - epoch, 0⟩, [.returned (now - epoch) 0]⟩,
      ?_, by simp, ?_, rfl, ?_, ?_⟩
    · simp [Lts.Along, AtMost, State.inFlight]
    · simp [Lts.run, step, Phase.advance, hne]
    · simp [Shared.elapsed]
    · simp [State.ids, Phase.id]

/-- A millisecond that no id carries yet is good for one id. -/
theorem serves_iff (machineId count : Nat)
    (hlater : shared.lastTimestamp < shared.elapsed shared.now) :
    Serves shared machineId count ↔ count ≤ 1 := by
  constructor
  · exact Serves.le_one hlater
  · intro hcount
    rcases Nat.le_one_iff_eq_zero_or_eq_one.mp hcount with rfl | rfl
    · exact ⟨[], ⟨shared, []⟩, trivial, by simp, rfl, rfl, by simp, .nil⟩
    · exact serves_one hlater

namespace SnowflakeWitness

def waiting : List Action :=
  [.call, .act 0, .act 0, .act 0, .act 0, .act 0, .call, .act 1, .act 1, .act 1,
    .act 1, .tick 8, .act 1, .act 1, .act 1, .act 1]

def waited : State := ⟨⟨8, some 0, 8, 0⟩, [.returned 7 0, .returned 8 0]⟩

theorem waited_increase : (waited.ids 5).Pairwise (· < ·) ∧ bits (compose 5 8 0) 22 41 = 8 := by
  have hrun : Lts.run step (State.initial 7 (some 0)) waiting = some waited := by
    decide
  have hids := sequential_ids_increase (show 5 < 1024 by decide) (by decide) hrun (by decide)
  exact ⟨hids.1, (hids.2 8 0 (by decide)).1⟩

theorem unique_alone : UniqueUpTo 5 1 :=
  (uniqueUpTo_iff (by decide) 1).mpr le_rfl

/-- Two calls at the same time get the same id. -/
theorem raced_twice :
    Lts.run step (State.initial 1 (some 0)) race = some raced ∧
      raced.inTime = true ∧ raced.ids 5 = [4214784, 4214784] := by
  decide

theorem serves_first : Serves ⟨1, some 0, 0, 0⟩ 5 1 :=
  (serves_iff 5 1 (by decide)).mpr le_rfl

/-- A new generator, a millisecond after the epoch. -/
theorem not_serves_4096 :
    Lts.run step (State.initial 0 (some 0)) [.tick 1] = some ⟨⟨1, some 0, 0, 0⟩, []⟩ ∧
      ¬ Serves ⟨1, some 0, 0, 0⟩ 5 4096 :=
  ⟨by decide, fun hserves => absurd (hserves.le_one (by decide)) (by decide)⟩

end SnowflakeWitness

end McpSdk.Snowflake
