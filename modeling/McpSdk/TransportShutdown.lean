/-
Shutting down a stdio or an SSE transport. Once the reader task has ended, the
cancellation fails, and `shut_down` returns before it has cleared the source and
set the flag.
-/
import McpSdk.Lts
import McpSdk.TransportMap

namespace McpSdk.TransportShutdown

open List Option TransportMap

/-- A stdio transport launches a server, or is one; an SSE transport takes its streams. -/
inductive Kind where
  | stdio (command : Bool)
  | sse
deriving Repr, DecidableEq

/-- Who holds the lock of `shutdown_source`: a `start`, or a `shut_down`. -/
inductive Holder where
  | start
  | call (index : Nat)
deriving Repr, DecidableEq

/-- A call of `shut_down`, with whether the source was listened to. -/
inductive Call where
  | waiting
  | marking (listened : Bool)
  | returned
deriving Repr, DecidableEq

/-- The transport at the moment in which a call returns. -/
structure Return where
  result : Except Str Unit
  listened : Bool
  isShutDown : Bool
  shutdownSource : Option Nat
deriving DecidableEq

/-- The fields of the transport, its tasks, and its calls. -/
structure State where
  shutdownSource : Option Nat
  isShutDown : Bool
  /-- Of an SSE transport only. -/
  readWriteStreams : Bool
  /-- The channels that have a receiver, by their numbers. -/
  receivers : List Nat
  channels : Nat
  lock : Option Holder
  calls : List Call
  returns : List Return
deriving DecidableEq

/-- The calls of the transport, and its reader task. -/
inductive Action where
  /-- `start` takes the lock, which it holds until it returns, and makes a new
  channel. -/
  | start
  /-- `start` returns; spawning the process of the server, with its pipes, may
  have failed. -/
  | started (spawned : Except Str Unit)
  /-- The reader task ends, or the token of a failed start is dropped. -/
  | receiverDropped (channel : Nat)
  | shutDown
  | cancel (index : Nat)
  | mark (index : Nat)
deriving DecidableEq

def State.new : State :=
  ⟨none, false, true, [], 0, none, [], []⟩

/-- `source.cancel()` succeeds, or there is no source. -/
def State.listened (state : State) : Bool :=
  match state.shutdownSource with
  | some channel => channel ∈ state.receivers
  | none => true

def startResult (kind : Kind) (state : State) (spawned : Except Str Unit) : Except Str Unit :=
  match kind with
  | .stdio command => if command then spawned else .ok ()
  | .sse =>
    if state.readWriteStreams then .ok ()
    else .error
      "SSE streams already taken or transport not initialized"

def State.giveBack (state : State) (index : Nat) (result : Except Str Unit)
    (listened : Bool) : State :=
  { state with
    lock := none
    calls := state.calls.set index .returned
    returns := state.returns ++ [⟨result, listened, state.isShutDown, state.shutdownSource⟩] }

/-- The lock is taken and the source cancelled; a call that fails changes nothing. -/
def cancelStep (state : State) (index : Nat) : State :=
  if state.listened then
    { state with
      shutdownSource := none
      lock := some (.call index)
      calls := state.calls.set index (.marking state.listened) }
  else
    state.giveBack index (.error "Cancellation channel closed")
      state.listened

/-- One call or the reader task takes a step. -/
def step (kind : Kind) (state : State) : Action → Option State
  | .start =>
    if state.lock = none then
      some { state with
        shutdownSource := some state.channels
        receivers := state.channels :: state.receivers
        channels := state.channels + 1
        lock := some .start }
    else none
  | .started spawned =>
    if state.lock = some .start then
      match startResult kind state spawned with
      | .ok () => some { state with readWriteStreams := false, lock := none }
      | .error _ => some { state with lock := none }
    else none
  | .receiverDropped channel =>
    if channel ∈ state.receivers then
      some { state with receivers := state.receivers.erase channel }
    else none
  | .shutDown => some { state with calls := state.calls ++ [.waiting] }
  | .cancel index =>
    if state.calls[index]? = some .waiting ∧ state.lock = none then
      some (cancelStep state index)
    else none
  | .mark index =>
    match state.calls[index]? with
    | some (.marking listened) =>
      some ({ state with isShutDown := true }.giveBack index (.ok ()) listened)
    | _ => none

/-- A call that has cancelled found a listener, and holds the lock until it returns. -/
structure Safe (state : State) : Prop where
  marking : ∀ {index : Nat} {listened : Bool},
    state.calls[index]? = some (.marking listened) →
      listened = true ∧ state.lock = some (.call index) ∧ state.shutdownSource = none
  returns : ∀ entry ∈ state.returns,
    (entry.isShutDown = true ∧ entry.shutdownSource = none) ↔ entry.listened = true

theorem Safe.new : Safe State.new where
  marking := by
    intro index listened hcall
    simp [State.new] at hcall
  returns := by
    intro entry hentry
    cases hentry

variable {state : State}

theorem Safe.not_marking (hsafe : Safe state) (hlock : state.lock = none) (index : Nat)
    (listened : Bool) : state.calls[index]? ≠ some (.marking listened) := by
  intro hcall
  obtain ⟨-, hheld, -⟩ := hsafe.marking hcall
  rw [hlock] at hheld
  cases hheld

theorem Safe.of_calls {next : State} (hsafe : Safe state) (hcalls : next.calls = state.calls)
    (hreturns : next.returns = state.returns)
    (hsource : state.lock = none ∨ ∀ {index : Nat}, state.lock = some (.call index) → next.lock =
      state.lock ∧ next.shutdownSource = state.shutdownSource) :
    Safe next where
  marking := by
    intro index listened hcall
    rw [hcalls] at hcall
    rcases hsource with hlock | hkept
    · exact absurd hcall (hsafe.not_marking hlock index listened)
    · obtain ⟨hlistened, hlock, hnone⟩ := hsafe.marking hcall
      obtain ⟨hheld, hsame⟩ := hkept hlock
      exact ⟨hlistened, hheld.trans hlock, hsame.trans hnone⟩
  returns := by
    rw [hreturns]
    exact hsafe.returns

theorem Safe.giveBack {index : Nat} (hsafe : Safe state)
    (hothers : ∀ {other : Nat} {listened : Bool}, state.calls[other]? = some (.marking listened) →
      other = index)
    (result : Except Str Unit) (listened : Bool)
    (hentry : (state.isShutDown = true ∧ state.shutdownSource = none) ↔ listened = true) :
    Safe (state.giveBack index result listened) where
  marking := by
    intro other heard hcall
    change (state.calls.set index .returned)[other]? = _ at hcall
    rw [getElem?_set] at hcall
    split at hcall
    · split at hcall
      · cases hcall
      · cases hcall
    · next hne => exact absurd (hothers hcall).symm hne
  returns := by
    intro entry hmem
    rcases mem_append.mp hmem with hold | hnew
    · exact hsafe.returns entry hold
    · rw [mem_singleton] at hnew
      subst hnew
      exact hentry

theorem Safe.cancelStep {index : Nat} (hsafe : Safe state)
    (hlock : state.lock = none) : Safe (cancelStep state index) := by
  unfold TransportShutdown.cancelStep
  split
  · next hlistened =>
    refine ⟨?_, hsafe.returns⟩
    intro other heard hcall
    change (state.calls.set index (.marking state.listened))[other]? = _ at hcall
    rw [getElem?_set] at hcall
    split at hcall
    · next heq =>
      obtain ⟨-, ⟨⟩⟩ := Lts.of_guard hcall
      exact ⟨hlistened, by rw [heq], rfl⟩
    · exact absurd hcall (hsafe.not_marking hlock other heard)
  · next hlistened =>
    apply hsafe.giveBack
    · intro other heard hcall
      exact absurd hcall (hsafe.not_marking hlock other heard)
    · constructor
      · rintro ⟨-, hnone⟩
        simp [State.listened, hnone] at hlistened
      · intro hheard
        exact absurd hheard hlistened

/-- A step keeps the lock with the call that has cancelled. -/
theorem Safe.step {kind : Kind} {state next : State} {action : Action} (hsafe : Safe state)
    (hstep : TransportShutdown.step kind state action = some next) : Safe next := by
  cases action with
  | start =>
    obtain ⟨hlock, ⟨⟩⟩ := Lts.of_guard hstep
    exact hsafe.of_calls rfl rfl (Or.inl hlock)
  | started spawned =>
    obtain ⟨hlock, hstep⟩ := Lts.of_guard hstep
    have hkept : ∀ {index : Nat}, state.lock ≠ some (.call index) := by
      intro index hcall
      rw [hlock] at hcall
      cases hcall
    split at hstep
    · cases hstep
      exact hsafe.of_calls rfl rfl (Or.inr fun hcall => absurd hcall hkept)
    · cases hstep
      exact hsafe.of_calls rfl rfl (Or.inr fun hcall => absurd hcall hkept)
  | receiverDropped channel =>
    obtain ⟨-, ⟨⟩⟩ := Lts.of_guard hstep
    exact hsafe.of_calls rfl rfl (Or.inr fun _ => ⟨rfl, rfl⟩)
  | shutDown =>
    cases hstep
    refine ⟨?_, hsafe.returns⟩
    intro index listened hcall
    change (state.calls ++ [.waiting])[index]? = _ at hcall
    rw [getElem?_append] at hcall
    split at hcall
    · exact hsafe.marking hcall
    · rw [getElem?_singleton] at hcall
      split at hcall
      · cases hcall
      · cases hcall
  | cancel index =>
    obtain ⟨hguard, ⟨⟩⟩ := Lts.of_guard hstep
    exact hsafe.cancelStep hguard.2
  | mark index =>
    simp only [TransportShutdown.step] at hstep
    split at hstep
    · next listened hcall =>
      cases hstep
      obtain ⟨hlistened, hlock, hnone⟩ := hsafe.marking hcall
      have hmarked : Safe { state with isShutDown := true } := ⟨hsafe.marking, hsafe.returns⟩
      apply hmarked.giveBack
      · intro other heard hother
        obtain ⟨-, hheld, -⟩ := hsafe.marking hother
        rw [hlock] at hheld
        cases hheld
        rfl
      · simp [hlistened, hnone]
    · cases hstep

/-- When a `shut_down` returns, the flag is set and no source is kept exactly if
there was none, or its receiver was alive, when the call cancelled it. -/
theorem shutDown_takes_effect_iff (kind : Kind) (actions : List Action) (state : State)
    (hrun : Lts.run (step kind) State.new actions = some state) (entry : Return)
    (hentry : entry ∈ state.returns) :
    (entry.isShutDown = true ∧ entry.shutdownSource = none) ↔ entry.listened = true := by
  have hsafe : Safe state := (Lts.run_along
    (fun hstate hstep => ⟨trivial, Safe.step hstate hstep⟩) Safe.new hrun).2
  exact hsafe.returns entry hentry

/-- An SSE transport without the tasks that use it. -/
def State.toSse (state : State) : SseTransport :=
  ⟨state.readWriteStreams, state.shutdownSource.isSome, state.isShutDown⟩

/-- A call that is not interrupted is `shut_down` as one step. -/
theorem run_shutDown {index : Nat} (hcall : state.calls[index]? = some .waiting)
    (hlock : state.lock = none) :
    ∃ actions final, Lts.run (step .sse) state actions = some final ∧
      final.toSse = (state.toSse.shutDown state.listened).2 ∧
      final.returns.getLast?.map (·.result) = some (state.toSse.shutDown state.listened).1 := by
  have hcancel : step .sse state (.cancel index) =
      some (cancelStep state index) := by
    simp [step, hcall, hlock]
  obtain ⟨hindex, -⟩ := List.getElem?_eq_some_iff.mp hcall
  by_cases hlistened : state.listened = true
  · have hafter : cancelStep state index = { state with
        shutdownSource := none
        lock := some (.call index)
        calls := state.calls.set index (.marking state.listened) } :=
      if_pos hlistened
    refine ⟨[.cancel index, .mark index],
      { cancelStep state index with isShutDown := true }.giveBack index (.ok ())
        state.listened, ?_, ?_, ?_⟩
    · rw [Lts.run, hcancel]
      simp [Lts.run, step, hafter, hindex]
    · simp [State.toSse, State.giveBack, hafter, SseTransport.shutDown, hlistened]
    · simp [State.giveBack, SseTransport.shutDown, hlistened]
  · have hafter : cancelStep state index =
        state.giveBack index (.error "Cancellation channel closed")
          state.listened := if_neg hlistened
    have hsource : state.shutdownSource.isSome = true := by
      rw [State.listened] at hlistened
      split at hlistened
      · next hsome => rw [hsome, isSome_some]
      · exact absurd rfl hlistened
    refine ⟨[.cancel index], cancelStep state index, ?_, ?_, ?_⟩
    · rw [Lts.run, hcancel]
      rfl
    · simp [State.toSse, State.giveBack, hafter, SseTransport.shutDown, hlistened, hsource]
    · simp [State.giveBack, hafter, SseTransport.shutDown, State.toSse, hlistened, hsource]

namespace TransportShutdownWitness

def listening : List Action :=
  [.start, .started (.ok ()), .shutDown, .cancel 0, .mark 0]

def ended : List Action :=
  [.start, .started (.ok ()), .receiverDropped 0, .shutDown, .cancel 0]

theorem shutDown_listening :
    ∃ state entry, Lts.run (step .sse) State.new listening = some state ∧
      entry ∈ state.returns ∧ entry.result = .ok () ∧
      entry.isShutDown = true ∧ entry.shutdownSource = none := by
  have hrun : (Lts.run (step .sse) State.new listening).map (·.returns) =
      some [⟨.ok (), true, true, none⟩] := by
    decide +kernel
  obtain ⟨state, hstate, hreturns⟩ := map_eq_some_iff.mp hrun
  have hentry : (⟨.ok (), true, true, none⟩ : Return) ∈ state.returns := by
    rw [hreturns]
    exact mem_singleton_self _
  refine ⟨state, _, hstate, hentry, rfl, ?_⟩
  exact (shutDown_takes_effect_iff .sse listening state hstate _ hentry).mpr rfl

/-- The cancellation fails, the flag is not set, and the source is kept. -/
theorem shutDown_ended :
    (Lts.run (step .sse) State.new ended).map (·.returns) =
        some [⟨.error "Cancellation channel closed", false, false, some 0⟩] ∧
      (Lts.run (step (.stdio true)) State.new ended).map (·.returns) =
        some [⟨.error "Cancellation channel closed", false, false,
          some 0⟩] := by
  decide +kernel

end TransportShutdownWitness

end McpSdk.TransportShutdown
