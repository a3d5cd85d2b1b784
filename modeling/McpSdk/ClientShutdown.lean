/-
`shut_down` of the client next to `sse_reconnect_loop` and `create_sse_stream`.
A loop past its check still stores a transport, a replaced transport is never
shut down, and a handle that is pushed late is not aborted.
-/
import McpSdk.CallList
import McpSdk.Lts

namespace McpSdk.ClientShutdown

open List

/-- Where a reconnect loop is; its transport is named by its number. -/
inductive Pc where
  /-- At the check of `is_shut_down` in front of a new transport. -/
  | checking
  | creating
  | starting
  /-- At `store_transport`, with a transport that is started. -/
  | storing (transport : Nat)
  /-- At the check in front of the next message. -/
  | reading (transport : Nat)
  /-- At `stream.next()`, or in the handler. -/
  | receiving (transport : Nat)
  /-- In `try_reconnect`. -/
  | retrying
  | sleeping
  | ended
deriving Repr, DecidableEq

/-- Past its check, and not yet behind the store. -/
def Pc.early : Pc → Bool
  | .creating => true
  | .starting => true
  | .storing _ => true
  | _ => false

inductive Handle where
  /-- With the call of `create_sse_stream` that has spawned the loop. -/
  | unpushed
  | listed
  | drained
  | aborted
deriving Repr, DecidableEq

structure Loop where
  pc : Pc
  reconnectAttempt : Nat
  handle : Handle
deriving Repr, DecidableEq

inductive Phase where
  | idle
  /-- The lock is taken, and the flag is set. -/
  | locked
  /-- The map is emptied, and its transport is being shut down. -/
  | taken (transport : Option Nat)
  | closed
  | aborting
  | returned
deriving Repr, DecidableEq

/-- What `shut_down` shares with the loop and with the streams. -/
structure State where
  isShutDown : Bool
  phase : Phase
  /-- Some call has emptied the map. -/
  emptied : Bool
  transportMap : Option Nat
  /-- Whether each of the transports that were started is shut down. -/
  transports : List Bool
  loops : List Loop
deriving Repr, DecidableEq

inductive LoopAction where
  | check
  | create (made : Bool)
  | start (started : Bool)
  | store
  | read
  /-- The stream ends, or it gives messages, which are handled or not. -/
  | receive (handled : Option Bool)
  | retry
  | wake
  /-- The task stops because it was aborted. -/
  | stop
deriving Repr, DecidableEq

/-- One stretch of code between two awaits. -/
inductive Action where
  | createSseStream
  | push (index : Nat)
  | shutDown
  | take
  | close
  | drain
  | abort (index : Nat)
  | finish
  | loop (index : Nat) (action : LoopAction)
deriving Repr, DecidableEq

/-- The client before its first stream. -/
def initial : State where
  isShutDown := false
  phase := .idle
  emptied := false
  transportMap := none
  transports := []
  loops := []

def State.unlocked (state : State) : Bool :=
  state.phase = .idle || state.phase = .returned

def State.setLoop (state : State) (index : Nat) (loop : Loop) (pc : Pc)
    (reconnectAttempt : Nat) : State :=
  { state with
    loops := state.loops.set index ⟨pc, reconnectAttempt, loop.handle⟩ }

def State.setHandle (state : State) (index : Nat) (loop : Loop) (handle : Handle) : State :=
  { state with
    loops := state.loops.set index
      ⟨loop.pc, loop.reconnectAttempt, handle⟩ }

/-- `try_reconnect` gives up once there have been more attempts than allowed. -/
def exhausted (maxRetries : Option Nat) (reconnectAttempt : Nat) : Bool :=
  match maxRetries with
  | some max => decide (max < reconnectAttempt)
  | none => false

def loopStep (maxRetries : Option Nat) (state : State) (index : Nat)
    (loop : Loop) : LoopAction → Option State
  | .check =>
    if loop.pc = .checking ∧ state.unlocked then
      some (state.setLoop index loop
        (if state.isShutDown then .ended else .creating)
        loop.reconnectAttempt)
    else none
  | .create made =>
    if loop.pc = .creating then
      some (state.setLoop index loop (if made then .starting else .retrying) loop.reconnectAttempt)
    else none
  | .start true =>
    if loop.pc = .starting then
      some { state with
        transports := state.transports ++ [false]
        loops := state.loops.set index ⟨.storing state.transports.length,
          loop.reconnectAttempt, loop.handle⟩ }
    else none
  | .start false =>
    if loop.pc = .starting then
      some (state.setLoop index loop .retrying loop.reconnectAttempt)
    else none
  | .store =>
    match loop.pc with
    | .storing transport =>
      some { state with
        transportMap := some transport
        loops := state.loops.set index ⟨.reading transport, loop.reconnectAttempt, loop.handle⟩ }
    | _ => none
  | .read =>
    match loop.pc with
    | .reading transport =>
      if state.unlocked then
        some (state.setLoop index loop
          (if state.isShutDown then .ended else .receiving transport)
          loop.reconnectAttempt)
      else none
    | _ => none
  | .receive handled =>
    match loop.pc with
    | .receiving transport =>
      match handled with
      | some handled =>
        some (state.setLoop index loop (if handled then .reading transport else .ended) 0)
      | none =>
        some (state.setLoop index loop .retrying loop.reconnectAttempt)
    | _ => none
  | .retry =>
    if loop.pc = .retrying ∧ state.unlocked then
      some (state.setLoop index loop
        (if state.isShutDown ∨ exhausted maxRetries (loop.reconnectAttempt + 1) then .ended
        else .sleeping) (loop.reconnectAttempt + 1))
    else none
  | .wake =>
    if loop.pc = .sleeping then
      some (state.setLoop index loop .checking loop.reconnectAttempt)
    else none
  | .stop =>
    if loop.handle = .aborted ∧ loop.pc ≠ .ended then
      some (state.setLoop index loop .ended loop.reconnectAttempt)
    else none

/-- `transport.shut_down()`; its result is ignored. -/
def markShutDown (transports : List Bool) : Option Nat → List Bool
  | some transport => transports.set transport true
  | none => transports

/-- `lock.drain(..)`: the handles that are in the list. -/
def Loop.drain (loop : Loop) : Loop :=
  if loop.handle = .listed then
    ⟨loop.pc, loop.reconnectAttempt, .drained⟩
  else loop

/-- One task runs up to its next await. -/
def step (maxRetries : Option Nat) (state : State) : Action → Option State
  | .createSseStream =>
    some { state with loops := state.loops ++ [⟨.checking, 0, .unpushed⟩] }
  | .push index =>
    match state.loops[index]? with
    | some loop =>
      if loop.handle = .unpushed then
        some (state.setHandle index loop .listed)
      else none
    | none => none
  | .shutDown =>
    if state.unlocked then
      some { state with isShutDown := true, phase := .locked }
    else none
  | .take =>
    if state.phase = .locked then
      some { state with
        phase := .taken state.transportMap
        emptied := true
        transportMap := none }
    else none
  | .close =>
    match state.phase with
    | .taken transport =>
      some { state with
        phase := .closed
        transports := markShutDown state.transports transport }
    | _ => none
  | .drain =>
    if state.phase = .closed then
      some { state with
        phase := .aborting
        loops := state.loops.map Loop.drain }
    else none
  | .abort index =>
    if state.phase = .aborting then
      match state.loops[index]? with
      | some loop =>
        if loop.handle = .drained then
          some (state.setHandle index loop .aborted)
        else none
      | none => none
    else none
  | .finish =>
    if state.phase = .aborting ∧
        ∀ loop ∈ state.loops, loop.handle ≠ .drained then
      some { state with phase := .returned }
    else none
  | .loop index action =>
    match state.loops[index]? with
    | some loop => loopStep maxRetries state index loop action
    | none => none

/-- `shut_down` has returned, and the tasks it aborted have stopped. -/
def Settled (state : State) : Prop :=
  state.phase = .returned ∧ ∀ loop ∈ state.loops, loop.handle = .aborted → loop.pc = .ended

/-- The map is empty, all started transports are shut down, and no loop runs. -/
def Complete (state : State) : Prop :=
  state.transportMap = none ∧
    (∀ shutDown ∈ state.transports, shutDown = true) ∧
    ∀ loop ∈ state.loops, loop.pc = .ended

instance decidableSettled (state : State) : Decidable (Settled state) :=
  inferInstanceAs (Decidable (_ ∧ ∀ loop ∈ state.loops, _))

instance decidableComplete (state : State) : Decidable (Complete state) :=
  inferInstanceAs (Decidable (_ ∧ (∀ shutDown ∈ state.transports, _) ∧ ∀ loop ∈ state.loops, _))

/-- No loop is made after the drain; the map is emptied while no loop is about
to store; all running loops are listed at the drain; and no open transport is
replaced. -/
def Orderly (state : State) : Action → Prop
  | .createSseStream => state.phase ≠ .aborting ∧ state.phase ≠ .returned
  | .take => ∀ loop ∈ state.loops, loop.pc.early = false
  | .drain => ∀ loop ∈ state.loops,
      loop.pc = .ended ∨ loop.handle ≠ .unpushed
  | .loop _ .store => ∀ transport ∈ state.transportMap,
      state.transports[transport]? = some true
  | _ => True

instance decidableOrderly (state : State) :
    ∀ action, Decidable (Orderly state action)
  | .createSseStream => inferInstanceAs (Decidable (_ ∧ _))
  | .take => inferInstanceAs (Decidable
      (∀ loop ∈ state.loops, loop.pc.early = false))
  | .drain => inferInstanceAs (Decidable
      (∀ loop ∈ state.loops, loop.pc = .ended ∨ loop.handle ≠ .unpushed))
  | .loop _ .store => inferInstanceAs (Decidable
      (∀ transport ∈ state.transportMap, state.transports[transport]? = some true))
  | .push _ | .shutDown | .close | .abort _ | .finish | .loop _ .check | .loop _ (.create _)
  | .loop _ (.start _) | .loop _ .read | .loop _ (.receive _) | .loop _ .retry | .loop _ .wake
  | .loop _ .stop => isTrue trivial

/-- Once emptied the map stays so, and a transport that is started is shut down,
in the map, on its way there, or about to be shut down. -/
structure Safe (state : State) : Prop where
  flag : state.phase ≠ .idle → state.isShutDown = true
  emptied : state.emptied = true → state.isShutDown = true ∧
    state.transportMap = none ∧ ∀ loop ∈ state.loops, loop.pc.early = false
  later : state.phase ≠ .idle → state.phase ≠ .locked → state.emptied = true
  aborted : ∀ loop ∈ state.loops, loop.handle = .aborted → state.emptied = true
  started : ∀ transport, state.transports[transport]? = some false →
    state.transportMap = some transport ∨
      (∃ loop ∈ state.loops, loop.pc = .storing transport) ∨
      state.phase = .taken (some transport)
  aborting : state.phase = .aborting → ∀ loop ∈ state.loops,
    loop.pc = .ended ∨ loop.handle = .drained ∨ loop.handle = .aborted
  returned : state.phase = .returned → ∀ loop ∈ state.loops,
    loop.pc = .ended ∨ loop.handle = .aborted

variable {state : State} {loop : Loop} {index : Nat}

theorem Safe.started_of_ne (hstate : Safe state)
    (hphase : ∀ transport, state.phase ≠ .taken transport) {transport : Nat}
    (hfalse : state.transports[transport]? = some false) :
    state.transportMap = some transport ∨ ∃ loop ∈ state.loops, loop.pc = .storing transport := by
  rcases hstate.started transport hfalse with hmap | hloop | htaken
  · exact .inl hmap
  · exact .inr hloop
  · exact absurd htaken (hphase _)

theorem initial_safe : Safe initial := by
  refine ⟨?_, ?_, ?_, ?_, ?_, ?_, ?_⟩
  · intro hphase
    exact absurd rfl hphase
  · intro hemptied
    cases hemptied
  · intro hphase
    exact absurd rfl hphase
  · intro loop hloop
    cases hloop
  · intro transport htransport
    cases htransport
  · intro hphase
    cases hphase
  · intro hphase
    cases hphase

variable {transports : List Bool}

theorem getElem?_markShutDown {closing : Option Nat} {transport : Nat}
    (hfalse : (markShutDown transports closing)[transport]? = some false) :
    transports[transport]? = some false ∧ closing ≠ some transport := by
  cases closing with
  | none => exact ⟨hfalse, by simp⟩
  | some closed =>
    change (transports.set closed true)[transport]? = some false at hfalse
    rw [getElem?_set] at hfalse
    by_cases heq : closed = transport
    · rw [if_pos heq] at hfalse
      split at hfalse
      · cases hfalse
      · cases hfalse
    · rw [if_neg heq] at hfalse
      exact ⟨hfalse, by simpa using heq⟩

theorem Loop.drain_pc (self : Loop) : self.drain.pc = self.pc := by
  unfold drain
  split
  · rfl
  · rfl

theorem Loop.drain_handle {self : Loop} (hpushed : self.handle ≠ .unpushed) :
    self.drain.handle = .drained ∨ self.drain.handle = .aborted := by
  rw [drain]
  cases hhandle : self.handle with
  | unpushed => exact absurd hhandle hpushed
  | listed => simp
  | drained | aborted => simp [hhandle]

section

variable (hstate : Safe state)

include hstate

theorem Safe.change {transportMap : Option Nat}
    (hemptied : state.emptied = true → transportMap = none ∧ loop.pc.early = false)
    (haborted : loop.handle = .aborted → state.emptied = true)
    (hstarted : ∀ transport, transports[transport]? = some false → transportMap = some transport ∨
      (∃ found ∈ state.loops.set index loop, found.pc = .storing transport) ∨ state.phase =
      .taken (some transport))
    (haborting : state.phase = .aborting → loop.pc = .ended ∨ loop.handle = .drained ∨ loop.handle =
      .aborted) (hreturned : state.phase = .returned → loop.pc = .ended ∨ loop.handle = .aborted) :
    Safe { state with
      transportMap := transportMap
      transports := transports
      loops := state.loops.set index loop } := by
  refine ⟨hstate.flag, ?_, hstate.later, ?_, hstarted, ?_, ?_⟩
  · intro hempty
    obtain ⟨hflag, -, hearly⟩ := hstate.emptied hempty
    obtain ⟨hmap, hloop⟩ := hemptied hempty
    exact ⟨hflag, hmap, CallList.forall_mem_set hearly hloop index⟩
  · exact CallList.forall_mem_set hstate.aborted haborted index
  · intro hphase
    exact CallList.forall_mem_set (hstate.aborting hphase) (haborting hphase) index
  · intro hphase
    exact CallList.forall_mem_set (hstate.returned hphase) (hreturned hphase) index

theorem Safe.started_set {old : Loop} (hold : state.loops[index]? = some old)
    (hkept : ∀ transport, old.pc = .storing transport → loop.pc = .storing transport)
    (transport : Nat) (hfalse : state.transports[transport]? = some false) :
    state.transportMap = some transport ∨
      (∃ found ∈ state.loops.set index loop, found.pc = .storing transport) ∨
      state.phase = .taken (some transport) := by
  rcases hstate.started transport hfalse with hmap | ⟨found, hmem, hpc⟩ | htaken
  · exact .inl hmap
  · refine .inr (.inl ?_)
    rcases CallList.eq_or_mem_set hold hmem loop with rfl | hother
    · exact ⟨loop, CallList.mem_set_self hold loop, hkept transport hpc⟩
    · exact ⟨found, hother, hpc⟩
  · exact .inr (.inr htaken)

theorem Safe.move {pc : Pc} {reconnectAttempt : Nat}
    (hloop : state.loops[index]? = some loop) (hlive : loop.pc ≠ .ended) {transportMap : Option Nat}
    (hemptied : state.emptied = true → transportMap = none ∧ pc.early = false)
    (hstarted : ∀ transport, transports[transport]? = some false → transportMap = some transport ∨
      (∃ found ∈ state.loops.set index ⟨pc, reconnectAttempt, loop.handle⟩, found.pc =
      .storing transport) ∨ state.phase = .taken (some transport)) :
    Safe { state with
      transportMap := transportMap
      transports := transports
      loops := state.loops.set index ⟨pc, reconnectAttempt, loop.handle⟩ } := by
  have hmem := mem_of_getElem? hloop
  refine hstate.change hemptied (hstate.aborted loop hmem) hstarted ?_ ?_
  · intro hphase
    rcases hstate.aborting hphase loop hmem with hended | hhandle
    · exact absurd hended hlive
    · exact .inr hhandle
  · intro hphase
    rcases hstate.returned hphase loop hmem with hended | hhandle
    · exact absurd hended hlive
    · exact .inr hhandle

theorem Safe.started_phase (hphase : ∀ transport, state.phase ≠ .taken transport) (phase : Phase)
    (transport : Nat) (hfalse : state.transports[transport]? = some false) :
    state.transportMap = some transport ∨ (∃ loop ∈ state.loops, loop.pc = .storing transport) ∨
      phase = .taken (some transport) :=
  (hstate.started_of_ne hphase hfalse).imp_right .inl

theorem Safe.not_emptied (hloop : loop ∈ state.loops)
    (hearly : loop.pc.early = true) : state.emptied ≠ true := by
  intro hempty
  cases hearly.symm.trans ((hstate.emptied hempty).2.2 loop hloop)

theorem Safe.create (haborting : state.phase ≠ .aborting) (hreturned : state.phase ≠ .returned) :
    Safe { state with
      loops := state.loops ++ [⟨.checking, 0, .unpushed⟩] } := by
  refine ⟨hstate.flag, ?_, hstate.later, ?_, ?_, ?_, ?_⟩
  · intro hempty
    obtain ⟨hflag, hmap, hearly⟩ := hstate.emptied hempty
    refine ⟨hflag, hmap, forall_mem_append.mpr ⟨hearly, ?_⟩⟩
    exact forall_mem_singleton.mpr rfl
  · refine forall_mem_append.mpr ⟨hstate.aborted, ?_⟩
    exact forall_mem_singleton.mpr nofun
  · intro transport hfalse
    rcases hstate.started transport hfalse with
      hmap | ⟨loop, hloop, hpc⟩ | htaken
    · exact .inl hmap
    · exact .inr (.inl ⟨loop, mem_append_left _ hloop, hpc⟩)
    · exact .inr (.inr htaken)
  · intro hphase
    exact absurd hphase haborting
  · intro hphase
    exact absurd hphase hreturned

theorem Safe.push (hloop : state.loops[index]? = some loop)
    (hhandle : loop.handle = .unpushed) : Safe (state.setHandle index loop .listed) := by
  have hmem := mem_of_getElem? hloop
  -- the handle of a loop that runs is drained or aborted by then
  have hended : loop.pc = .ended ∨ loop.handle = .drained ∨
      loop.handle = .aborted → loop.pc = .ended := by
    rw [hhandle]
    simp
  refine hstate.change ?_ (by simp) (hstate.started_set hloop fun _ hpc => hpc) ?_ ?_
  · intro hempty
    obtain ⟨-, hmap, hearly⟩ := hstate.emptied hempty
    exact ⟨hmap, hearly loop hmem⟩
  · intro hphase
    exact .inl (hended (hstate.aborting hphase loop hmem))
  · intro hphase
    refine .inl (hended ?_)
    exact (hstate.returned hphase loop hmem).imp_right .inr

theorem Safe.lock (hunlocked : state.phase = .idle ∨ state.phase = .returned) :
    Safe { state with isShutDown := true, phase := .locked } := by
  have hphase : ∀ taken, state.phase ≠ .taken taken := by
    rcases hunlocked with hidle | hreturned
    · simp [hidle]
    · simp [hreturned]
  refine ⟨fun _ => rfl, ?_, ?_, hstate.aborted, hstate.started_phase hphase .locked, nofun, nofun⟩
  · intro hempty
    exact ⟨rfl, (hstate.emptied hempty).2⟩
  · intro hidle hlocked
    exact absurd rfl hlocked

theorem Safe.take (hphase : state.phase = .locked)
    (hearly : ∀ loop ∈ state.loops, loop.pc.early = false) :
    Safe { state with
      phase := .taken state.transportMap
      emptied := true
      transportMap := none } := by
  have hflag := hstate.flag (by simp [hphase])
  refine ⟨fun _ => hflag, fun _ => ⟨hflag, rfl, hearly⟩, fun _ _ => rfl,
    fun _ _ _ => rfl, ?_, nofun, nofun⟩
  intro transport hfalse
  rcases hstate.started_of_ne (by simp [hphase]) hfalse with
    hmap | ⟨loop, hloop, hpc⟩
  · exact .inr (.inr (congrArg Phase.taken hmap))
  · have hlate := hearly loop hloop
    rw [hpc] at hlate
    cases hlate

theorem Safe.close {closing : Option Nat} (hphase : state.phase = .taken closing) :
    Safe { state with
      phase := .closed
      transports := markShutDown state.transports closing } := by
  have hempty := hstate.later (by simp [hphase]) (by simp [hphase])
  refine ⟨fun _ => hstate.flag (by simp [hphase]), hstate.emptied,
    fun _ _ => hempty, hstate.aborted, ?_, nofun, nofun⟩
  intro transport hfalse
  obtain ⟨hbefore, hne⟩ := getElem?_markShutDown hfalse
  rcases hstate.started transport hbefore with hmap | hloop | htaken
  · exact .inl hmap
  · exact .inr (.inl hloop)
  · cases hphase.symm.trans htaken
    exact absurd rfl hne

theorem Safe.drain (hphase : state.phase = .closed)
    (hpushed : ∀ loop ∈ state.loops, loop.pc = .ended ∨ loop.handle ≠ .unpushed) :
    Safe { state with
      phase := .aborting
      loops := state.loops.map Loop.drain } := by
  have hempty := hstate.later (by simp [hphase]) (by simp [hphase])
  obtain ⟨hflag, hmap, hearly⟩ := hstate.emptied hempty
  refine ⟨fun _ => hflag, fun _ => ⟨hflag, hmap, ?_⟩, fun _ _ => hempty,
    fun _ _ _ => hempty, ?_, fun _ => ?_, nofun⟩
  · intro loop hloop
    obtain ⟨before, hbefore, rfl⟩ := mem_map.mp hloop
    rw [before.drain_pc]
    exact hearly before hbefore
  · intro transport hfalse
    rcases hstate.started_of_ne (by simp [hphase]) hfalse with
      hkept | ⟨loop, hloop, hstoring⟩
    · exact .inl hkept
    · refine .inr (.inl ⟨loop.drain, mem_map_of_mem hloop, ?_⟩)
      exact loop.drain_pc.trans hstoring
  · intro loop hloop
    obtain ⟨before, hbefore, rfl⟩ := mem_map.mp hloop
    exact (hpushed before hbefore).imp before.drain_pc.trans Loop.drain_handle

theorem Safe.abort (hphase : state.phase = .aborting)
    (hloop : state.loops[index]? = some loop) : Safe (state.setHandle index loop .aborted) := by
  have hmem := mem_of_getElem? hloop
  have hempty := hstate.later (by simp [hphase]) (by simp [hphase])
  obtain ⟨-, hmap, hearly⟩ := hstate.emptied hempty
  exact hstate.change (fun _ => ⟨hmap, hearly loop hmem⟩)
    (fun _ => hempty) (hstate.started_set hloop fun _ hpc => hpc)
    (fun _ => .inr (.inr rfl)) (fun _ => .inr rfl)

theorem Safe.finish (hphase : state.phase = .aborting)
    (hdrained : ∀ loop ∈ state.loops, loop.handle ≠ .drained) :
    Safe { state with phase := .returned } := by
  have hempty := hstate.later (by simp [hphase]) (by simp [hphase])
  refine ⟨fun _ => hstate.flag (by simp [hphase]), hstate.emptied,
    fun _ _ => hempty, hstate.aborted,
    hstate.started_phase (by simp [hphase]) .returned, nofun, ?_⟩
  intro _ loop hloop
  rcases hstate.aborting hphase loop hloop with hended | hlisted | haborted
  · exact .inl hended
  · exact absurd hlisted (hdrained loop hloop)
  · exact .inr haborted

theorem Safe.start (hloop : state.loops[index]? = some loop) (hpc : loop.pc = .starting) :
    Safe { state with
      transports := state.transports ++ [false]
      loops := state.loops.set index ⟨.storing state.transports.length,
        loop.reconnectAttempt, loop.handle⟩ } := by
  refine hstate.move hloop (by simp [hpc]) ?_ ?_
  · intro hempty
    exact absurd hempty (hstate.not_emptied (mem_of_getElem? hloop) (by rw [hpc]; rfl))
  · intro transport hfalse
    rcases CallList.getElem?_concat_cases hfalse with ⟨rfl, -⟩ | hbefore
    · exact .inr (.inl ⟨_, CallList.mem_set_self hloop _, rfl⟩)
    · refine hstate.started_set hloop ?_ transport hbefore
      intro other hstoring
      cases hpc.symm.trans hstoring

theorem Safe.store {index transport : Nat}
    (hloop : state.loops[index]? = some loop) (hpc : loop.pc = .storing transport)
    (hreplaced : ∀ transport ∈ state.transportMap, state.transports[transport]? = some true) :
    Safe { state with
      transportMap := some transport
      loops := state.loops.set index ⟨.reading transport,
        loop.reconnectAttempt, loop.handle⟩ } := by
  refine hstate.move hloop (by simp [hpc]) ?_ ?_
  · intro hempty
    exact absurd hempty (hstate.not_emptied (mem_of_getElem? hloop) (by rw [hpc]; rfl))
  · intro other hfalse
    rcases hstate.started other hfalse with
      hmap | ⟨found, hfound, hstoring⟩ | htaken
    · -- the transport that is replaced has been shut down
      have htrue := hreplaced other hmap
      cases hfalse.symm.trans htrue
    · rcases CallList.eq_or_mem_set hloop hfound
          ⟨.reading transport, loop.reconnectAttempt, loop.handle⟩ with
        rfl | hother
      · cases hpc.symm.trans hstoring
        exact .inl rfl
      · exact .inr (.inl ⟨found, hother, hstoring⟩)
    · exact .inr (.inr htaken)

/-- A loop that moves has nothing to store, and passes its check only before the flag is set. -/
theorem Safe.moved {pc : Pc} {reconnectAttempt : Nat} (hloop : state.loops[index]? = some loop)
    (hlive : loop.pc ≠ .ended) (hkept : ∀ transport, loop.pc ≠ .storing transport)
    (hearly : pc.early = true → state.isShutDown = false ∨ loop.pc.early = true) :
    Safe (state.setLoop index loop pc reconnectAttempt) := by
  refine hstate.move hloop hlive ?_ (hstate.started_set hloop ?_)
  · intro hempty
    obtain ⟨hflag, hmap, hloops⟩ := hstate.emptied hempty
    refine ⟨hmap, ?_⟩
    cases hpc : pc.early with
    | false => rfl
    | true =>
      rcases hearly hpc with hunset | hbefore
      · cases hflag.symm.trans hunset
      · exact absurd hempty (hstate.not_emptied (mem_of_getElem? hloop) hbefore)
  · intro transport hstoring
    exact absurd hstoring (hkept transport)

theorem Safe.stop (hloop : state.loops[index]? = some loop) (haborted : loop.handle = .aborted)
    (hlive : loop.pc ≠ .ended) : Safe (state.setLoop index loop .ended loop.reconnectAttempt) := by
  have hmem := mem_of_getElem? hloop
  have hempty := hstate.aborted loop hmem haborted
  refine hstate.move hloop hlive (fun _ => ⟨(hstate.emptied hempty).2.1, rfl⟩)
    (hstate.started_set hloop ?_)
  intro transport hstoring
  exact absurd hempty (hstate.not_emptied hmem (by rw [hstoring]; rfl))

variable {maxRetries : Option Nat} {next : State}

theorem Safe.loopStep {action : LoopAction}
    (hloop : state.loops[index]? = some loop) (horderly : Orderly state (.loop index action))
    (hstep : ClientShutdown.loopStep maxRetries state index loop action = some next) :
    Safe next := by
  cases action with
  | check =>
    obtain ⟨hcheck, ⟨⟩⟩ := Lts.of_guard hstep
    refine hstate.moved hloop (by simp [hcheck.1]) (by simp [hcheck.1]) ?_
    cases state.isShutDown with
    | true => simp [Pc.early]
    | false => simp
  | create made =>
    obtain ⟨hpc, ⟨⟩⟩ := Lts.of_guard hstep
    exact hstate.moved hloop (by simp [hpc]) (by simp [hpc]) (by simp [hpc, Pc.early])
  | start started =>
    cases started with
    | true =>
      obtain ⟨hpc, ⟨⟩⟩ := Lts.of_guard hstep
      exact hstate.start hloop hpc
    | false =>
      obtain ⟨hpc, ⟨⟩⟩ := Lts.of_guard hstep
      exact hstate.moved hloop (by simp [hpc]) (by simp [hpc]) (by simp [Pc.early])
  | store =>
    simp only [ClientShutdown.loopStep] at hstep
    split at hstep
    · rename_i transport hpc
      cases hstep
      exact hstate.store hloop hpc horderly
    · cases hstep
  | read =>
    simp only [ClientShutdown.loopStep] at hstep
    split at hstep
    · rename_i transport hpc
      obtain ⟨-, ⟨⟩⟩ := Lts.of_guard hstep
      refine hstate.moved hloop (by simp [hpc]) (by simp [hpc]) ?_
      cases state.isShutDown with
      | true => simp [Pc.early]
      | false => simp
    · cases hstep
  | receive handled =>
    simp only [ClientShutdown.loopStep] at hstep
    split at hstep
    · rename_i transport hpc
      split at hstep
      · rename_i handled
        cases hstep
        refine hstate.moved hloop (by simp [hpc]) (by simp [hpc]) ?_
        cases handled with
        | true | false => simp [Pc.early]
      · cases hstep
        exact hstate.moved hloop (by simp [hpc]) (by simp [hpc]) (by simp [Pc.early])
    · cases hstep
  | retry =>
    obtain ⟨hretry, ⟨⟩⟩ := Lts.of_guard hstep
    refine hstate.moved hloop (by simp [hretry.1]) (by simp [hretry.1]) ?_
    split
    · simp [Pc.early]
    · simp [Pc.early]
  | wake =>
    obtain ⟨hpc, ⟨⟩⟩ := Lts.of_guard hstep
    exact hstate.moved hloop (by simp [hpc]) (by simp [hpc]) (by simp [Pc.early])
  | stop =>
    obtain ⟨hstop, ⟨⟩⟩ := Lts.of_guard hstep
    exact hstate.stop hloop hstop.1 hstop.2

/-- Every orderly step keeps the state safe. -/
theorem Safe.step {action : Action} (horderly : Orderly state action)
    (hstep : ClientShutdown.step maxRetries state action = some next) : Safe next := by
  cases action with
  | createSseStream =>
    cases hstep
    exact hstate.create horderly.1 horderly.2
  | push index =>
    simp only [ClientShutdown.step] at hstep
    split at hstep
    · rename_i loop hloop
      obtain ⟨hhandle, ⟨⟩⟩ := Lts.of_guard hstep
      exact hstate.push hloop hhandle
    · cases hstep
  | shutDown =>
    obtain ⟨hunlocked, ⟨⟩⟩ := Lts.of_guard hstep
    exact hstate.lock (by simpa [State.unlocked] using hunlocked)
  | take =>
    obtain ⟨hphase, ⟨⟩⟩ := Lts.of_guard hstep
    exact hstate.take hphase horderly
  | close =>
    simp only [ClientShutdown.step] at hstep
    split at hstep
    · rename_i transport hphase
      cases hstep
      exact hstate.close hphase
    · cases hstep
  | drain =>
    obtain ⟨hphase, ⟨⟩⟩ := Lts.of_guard hstep
    exact hstate.drain hphase horderly
  | abort index =>
    obtain ⟨hphase, hstep⟩ := Lts.of_guard hstep
    split at hstep
    · rename_i loop hloop
      obtain ⟨-, ⟨⟩⟩ := Lts.of_guard hstep
      exact hstate.abort hphase hloop
    · cases hstep
  | finish =>
    obtain ⟨hfinish, ⟨⟩⟩ := Lts.of_guard hstep
    exact hstate.finish hfinish.1 hfinish.2
  | loop index action =>
    simp only [ClientShutdown.step] at hstep
    split at hstep
    · rename_i loop hloop
      exact hstate.loopStep hloop horderly hstep
    · cases hstep

theorem Safe.complete (hsettled : Settled state) : Complete state := by
  obtain ⟨hphase, hstopped⟩ := hsettled
  have hempty := hstate.later (by simp [hphase]) (by simp [hphase])
  obtain ⟨-, hmap, hearly⟩ := hstate.emptied hempty
  refine ⟨hmap, ?_, ?_⟩
  · intro shutDown hmem
    cases shutDown with
    | true => rfl
    | false =>
      obtain ⟨transport, hfalse⟩ := mem_iff_getElem?.mp hmem
      rcases hstate.started_of_ne (by simp [hphase]) hfalse with
        hstored | ⟨loop, hloop, hpc⟩
      · cases hmap.symm.trans hstored
      · have hlate := hearly loop hloop
        rw [hpc] at hlate
        cases hlate
  · intro loop hloop
    rcases hstate.returned hphase loop hloop with hended | haborted
    · exact hended
    · exact hstopped loop hloop haborted

end

/-- In every orderly run with any number of loops, the shutdown is complete once
`shut_down` has returned and the tasks it aborted have stopped. -/
theorem shutDown_complete {actions : List Action} {final : State}
    (hrun : Lts.run (step maxRetries) initial actions = some final)
    (halong : Lts.Along (step maxRetries) Orderly initial actions)
    (hsettled : Settled final) : Complete final := by
  have hsafe := Lts.run_invariant
    (fun hstate horderly hstep => Safe.step hstate horderly hstep) initial_safe halong hrun
  exact hsafe.complete hsettled

namespace ClientShutdownWitness

def connecting : List Action :=
  [.loop 0 .check, .loop 0 (.create true), .loop 0 (.start true), .loop 0 .store, .loop 0 .read]

def closing : List Action :=
  [.shutDown, .take, .close, .drain, .abort 0, .finish, .loop 0 .stop]

def connected : List Action :=
  .createSseStream :: .push 0 :: connecting ++ closing

def reconnected : List Action :=
  .createSseStream :: .push 0 :: connecting ++
    .loop 0 (.receive none) :: .loop 0 .retry :: .loop 0 .wake ::
    connecting ++ closing

/-- The map is emptied while the loop starts a transport. -/
def overtaken : List Action :=
  [.createSseStream, .push 0, .loop 0 .check, .loop 0 (.create true),
    .shutDown, .take, .loop 0 (.start true), .loop 0 .store, .close,
    .drain, .abort 0, .finish, .loop 0 .stop]

/-- The loop is aborted before it has stored its transport. -/
def dropped : List Action :=
  .createSseStream :: .push 0 :: .loop 0 .check :: .loop 0 (.create true) ::
    .loop 0 (.start true) :: closing

def unlisted : List Action :=
  .createSseStream :: connecting ++ [.shutDown, .take, .close, .drain, .finish, .push 0]

def returned (transportMap : Option Nat) (transports : List Bool) (loop : Loop) : State :=
  ⟨true, .returned, true, transportMap, transports, [loop]⟩

/-- A run ends settled, in the state given, and the shutdown is not complete. -/
def LeavesOver (actions : List Action) (final : State) : Prop :=
  Lts.run (step none) initial actions = some final ∧ Settled final ∧ ¬ Complete final

/-- Left over are a replaced transport, the one of an overtaken loop, that of an
aborted one, and a loop that is not in the list. -/
theorem shutDown_incomplete :
    LeavesOver reconnected (returned none [false, true] ⟨.ended, 1, .aborted⟩) ∧
      LeavesOver overtaken (returned (some 0) [false] ⟨.ended, 0, .aborted⟩) ∧
      LeavesOver dropped (returned none [false] ⟨.ended, 0, .aborted⟩) ∧ LeavesOver unlisted
        (returned none [true] ⟨.receiving 0, 0, .listed⟩) := by
  simp only [LeavesOver]
  decide +kernel

theorem shutDown_complete_connected :
    Lts.run (step none) initial connected = some (returned none [true] ⟨.ended, 0, .aborted⟩) ∧
      Complete (returned none [true] ⟨.ended, 0, .aborted⟩) := by
  have hrun : Lts.run (step none) initial connected =
      some (returned none [true] ⟨.ended, 0, .aborted⟩) := by
    decide +kernel
  exact ⟨hrun, shutDown_complete hrun (by decide +kernel) ⟨rfl, by decide⟩⟩

end ClientShutdownWitness

end McpSdk.ClientShutdown
