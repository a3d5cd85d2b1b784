/-
The initialization of a session: the versions that the two sides compare, what
each of them keeps, and `wait_for_initialization`.
-/
import McpSdk.CallList
import McpSdk.Watch

namespace McpSdk.Handshake

open List

structure InitializeRequestParams (V P : Type) where
  protocolVersion : V
  rest : P
deriving DecidableEq

structure InitializeResult (V I : Type) where
  protocolVersion : V
  rest : I
deriving DecidableEq

inductive InitError (V : Type) where
  | incompatibleVersion (requested current : V)
  /-- "Failed to set client details" -/
  | setClientDetails
deriving DecidableEq

section Versions

-- Versions are texts in the source, which are compared by their bytes.
variable {V : Type} [Ord V]

def ensureServerProtocoleCompatibility (client server : V) : Except (InitError V) Unit :=
  match compare client server with
  | .lt => .error (.incompatibleVersion client server)
  | _ => .ok ()

def enforceCompatibleProtocolVersion (client server : V) : Except (InitError V) (Option V) :=
  match compare client server with
  | .gt => .error (.incompatibleVersion client server)
  | .eq => .ok none
  | .lt => .ok (some client)

variable [Std.LawfulEqOrd V] {client server : V}

theorem enforceCompatibleProtocolVersion_of_isLE (hsupports : (compare client server).isLE = true) :
    ∃ updated, enforceCompatibleProtocolVersion client server = .ok updated ∧
      updated.getD server = client := by
  unfold enforceCompatibleProtocolVersion
  cases hcompare : compare client server with
  | lt => exact ⟨some client, rfl, rfl⟩
  | eq => exact ⟨none, rfl, (Std.LawfulEqOrd.eq_of_compare hcompare).symm⟩
  | gt => simp [hcompare] at hsupports

omit [Std.LawfulEqOrd V] in
theorem enforceCompatibleProtocolVersion_of_not_isLE (hnot : (compare client server).isLE = false) :
    enforceCompatibleProtocolVersion client server =
      .error (.incompatibleVersion client server) := by
  unfold enforceCompatibleProtocolVersion
  cases hcompare : compare client server with
  | lt | eq => simp [hcompare] at hnot
  | gt => rfl

theorem ensureServerProtocoleCompatibility_self (version : V) :
    ensureServerProtocoleCompatibility version version = .ok () := by
  rw [ensureServerProtocoleCompatibility, Std.compare_self]

end Versions

/-- A call of `wait_for_initialization`, by its next operation. -/
inductive Waiter where
  | check
  /-- A new copy of the receiver of the runtime, which has seen no version but
  the first. -/
  | changed
  | returned
  | dropped
deriving Repr, DecidableEq

section Waiting

variable {V P : Type} {channel : Watch (Option (InitializeRequestParams V P))}
  {waiter next : Waiter}

def Waiter.advance (channel : Watch (Option (InitializeRequestParams V P))) :
    Waiter → Option Waiter
  | .check => some (if channel.value.isSome then .returned else .changed)
  | .changed => (channel.changed 0).map fun _ => .check
  | _ => none

def Waiter.Right (channel : Watch (Option (InitializeRequestParams V P))) : Waiter → Prop
  | .changed => channel.Awaits Option.isSome 0
  | .returned => channel.value.isSome = true
  | _ => True

def Waiter.rank : Waiter → Nat
  | .check => 1
  | .changed => 2
  | _ => 0

theorem Waiter.Right.advance (hadvance : waiter.advance channel = some next) :
    next.Right channel := by
  cases waiter with
  | check =>
    cases hadvance
    cases hvalue : channel.value.isSome with
    | true => exact hvalue
    | false => exact .of_unwanted (Nat.zero_le _) hvalue
  | changed =>
    obtain ⟨_, -, rfl⟩ := Option.map_eq_some_iff.mp hadvance
    trivial
  | returned | dropped => cases hadvance

theorem Waiter.rank_advance (hvalue : channel.value.isSome = true)
    (hadvance : waiter.advance channel = some next) : next.rank < waiter.rank := by
  cases waiter with
  | check =>
    rw [Waiter.advance, if_pos hvalue] at hadvance
    cases hadvance
    decide
  | changed =>
    obtain ⟨_, -, rfl⟩ := Option.map_eq_some_iff.mp hadvance
    decide
  | returned | dropped => cases hadvance

theorem Waiter.Right.finished (hright : waiter.Right channel) (hvalue : channel.value.isSome = true)
    (hnone : waiter.advance channel = none) : waiter = .returned ∨ waiter = .dropped := by
  cases waiter with
  | check => cases hnone
  | changed =>
    rw [Waiter.advance, Watch.Awaits.changed_of_wanted hright hvalue] at hnone
    cases hnone
  | returned => exact .inl rfl
  | dropped => exact .inr rfl

end Waiting

variable {V P I : Type} [Ord V]

/-- What the client gets for its request, if anything. -/
abbrev Reply (V I : Type) := Option (Except (InitError V) (InitializeResult V I))

/-- What the server keeps, who waits for it, and its replies. -/
structure State (V P I : Type) where
  clientDetails : Watch (Option (InitializeRequestParams V P))
  waiters : List Waiter
  replies : List (InitializeRequestParams V P × Reply V I)

def State.new : State V P I :=
  ⟨.new none, [], []⟩

def State.isInitialized (state : State V P I) : Bool :=
  state.clientDetails.value.isSome

/-- The runtime has a receiver of its own. -/
def State.receivers (state : State V P I) : Nat :=
  1 + state.waiters.countP (· == .changed)

def setClientDetails (state : State V P I) (params : InitializeRequestParams V P) :
    Except (InitError V) (State V P I) :=
  match state.clientDetails.send state.receivers (some params) with
  | some clientDetails => .ok { state with clientDetails }
  | none => .error .setClientDetails

def handleInitializeRequest (serverInfo : InitializeResult V I) (state : State V P I)
    (params : InitializeRequestParams V P) :
    Except (InitError V) (InitializeResult V I) × State V P I :=
  match enforceCompatibleProtocolVersion params.protocolVersion serverInfo.protocolVersion with
  | .error error => (.error error, state)
  | .ok updated =>
    match setClientDetails state params with
    | .error error => (.error error, state)
    | .ok after =>
      (.ok { serverInfo with protocolVersion := updated.getD serverInfo.protocolVersion }, after)

/-- `handle_message`: before the initialization an error is not sent back. -/
def handleMessage (serverInfo : InitializeResult V I) (state : State V P I)
    (params : InitializeRequestParams V P) : Reply V I × State V P I :=
  match handleInitializeRequest serverInfo state params with
  | (.ok result, after) => (some (.ok result), after)
  | (.error error, after) => (if after.isInitialized then some (.error error) else none, after)

/-- The client's part, which waits for a reply; the result is what it stores. -/
def initializeRequest (params : InitializeRequestParams V P) : Reply V I → Reply V I
  | some (.ok result) =>
    match ensureServerProtocoleCompatibility params.protocolVersion result.protocolVersion with
    | .ok () => some (.ok result)
    | .error error => some (.error error)
  | reply => reply

/-- An initialize request comes, or a task waits. -/
inductive Action (V P : Type) where
  | request (params : InitializeRequestParams V P)
  | wait
  | advance (waiter : Nat)
  | drop (waiter : Nat)

/-- One request is handled, or one task looks at the channel. -/
def step (serverInfo : InitializeResult V I) (state : State V P I) :
    Action V P → Option (State V P I)
  | .request params =>
    let (reply, after) := handleMessage serverInfo state params
    some { after with replies := state.replies ++ [(params, reply)] }
  | .wait => some { state with waiters := state.waiters ++ [.check] }
  | .advance waiter =>
    (state.waiters[waiter]?.bind (·.advance state.clientDetails)).map fun next =>
      { state with waiters := state.waiters.set waiter next }
  | .drop waiter => some { state with waiters := state.waiters.set waiter .dropped }

def supports (serverInfo : InitializeResult V I) (params : InitializeRequestParams V P) : Bool :=
  (compare params.protocolVersion serverInfo.protocolVersion).isLE

/-- The requests of a run that the server supports. -/
def supported (serverInfo : InitializeResult V I) (actions : List (Action V P)) :
    List (InitializeRequestParams V P) :=
  actions.filterMap fun
    | .request params => if supports serverInfo params then some params else none
    | _ => none

/-- The client completes just if the server supports its version, then of both. -/
def Agrees (serverInfo : InitializeResult V I)
    (entry : InitializeRequestParams V P × Reply V I) : Prop :=
  ∀ result, initializeRequest entry.1 entry.2 = some (.ok result) ↔
    supports serverInfo entry.1 = true ∧
      result = { serverInfo with protocolVersion := entry.1.protocolVersion }

/-- Details, waiters and replies are those of the requests so far. -/
structure Sound (serverInfo : InitializeResult V I) (actions : List (Action V P))
    (state : State V P I) : Prop where
  details : state.clientDetails.value = (supported serverInfo actions).getLast?
  waiters : ∀ waiter ∈ state.waiters, waiter.Right state.clientDetails
  replies : ∀ entry ∈ state.replies, Agrees serverInfo entry

variable {serverInfo : InitializeResult V I} {state : State V P I}
  {params : InitializeRequestParams V P} {actions : List (Action V P)}

theorem handleMessage_of_not_supports (hnot : supports serverInfo params = false) :
    handleMessage serverInfo state params =
      (if state.isInitialized then
        some (.error (.incompatibleVersion params.protocolVersion serverInfo.protocolVersion))
      else none, state) := by
  rw [handleMessage, handleInitializeRequest, enforceCompatibleProtocolVersion_of_not_isLE hnot]

theorem agrees_of_not_supports (hnot : supports serverInfo params = false) {reply : Reply V I}
    (hreply : ∀ result, reply ≠ some (.ok result)) : Agrees serverInfo (params, reply) := by
  intro result
  simp only [hnot, Bool.false_eq_true, false_and, iff_false]
  match reply with
  | some (.ok other) => exact absurd rfl (hreply other)
  | some (.error _) | none => exact nofun

theorem Sound.setWaiters (hstate : Sound serverInfo actions state) {action : Action V P}
    {waiters : List Waiter} (hsupported : supported serverInfo [action] = [])
    (hwaiters : ∀ waiter ∈ waiters, waiter.Right state.clientDetails) :
    Sound serverInfo (actions ++ [action]) { state with waiters } where
  details := by
    rw [supported, filterMap_append]
    change _ = (_ ++ supported serverInfo [action]).getLast?
    rw [hsupported, append_nil]
    exact hstate.details
  waiters := hwaiters
  replies := hstate.replies

variable [Std.LawfulEqOrd V]

theorem handleMessage_of_supports (state : State V P I)
    (hsupports : supports serverInfo params = true) :
    ∃ clientDetails,
      state.clientDetails.send state.receivers (some params) = some clientDetails ∧
        clientDetails.value = some params ∧
          handleMessage serverInfo state params =
            (some (.ok { serverInfo with protocolVersion := params.protocolVersion }),
              { state with clientDetails }) := by
  obtain ⟨updated, hok, hversion⟩ := enforceCompatibleProtocolVersion_of_isLE hsupports
  have hsend : state.clientDetails.send state.receivers (some params) =
      some { state.clientDetails with
        value := some params, version := state.clientDetails.version + 1 } :=
    if_pos (by rw [State.receivers]; omega)
  refine ⟨_, hsend, rfl, ?_⟩
  rw [handleMessage, handleInitializeRequest, hok]
  simp only [setClientDetails, hsend, hversion]

theorem agrees_of_supports (hsupports : supports serverInfo params = true) :
    Agrees serverInfo
      (params, some (.ok { serverInfo with protocolVersion := params.protocolVersion })) := by
  intro result
  simp only [initializeRequest, ensureServerProtocoleCompatibility_self, hsupports, true_and,
    Option.some.injEq, Except.ok.injEq]
  exact eq_comm

theorem Sound.request (hstate : Sound serverInfo actions state) {after : State V P I}
    (hstep : step serverInfo state (.request params) = some after) :
    Sound serverInfo (actions ++ [.request params]) after := by
  have hsupported : supported serverInfo (actions ++ [.request params]) =
      supported serverInfo actions ++ supported serverInfo [.request params] :=
    filterMap_append
  have hreplies : ∀ {reply : Reply V I}, Agrees serverInfo (params, reply) →
      ∀ entry ∈ state.replies ++ [(params, reply)], Agrees serverInfo entry :=
    fun hreply => forall_mem_append.mpr ⟨hstate.replies, forall_mem_singleton.mpr hreply⟩
  cases hsupports : supports serverInfo params with
  | true =>
    obtain ⟨clientDetails, hsend, hvalue, hhandle⟩ := handleMessage_of_supports state hsupports
    rw [Handshake.step, hhandle] at hstep
    cases hstep
    refine ⟨?_, fun waiter hwaiter => ?_, hreplies (agrees_of_supports hsupports)⟩
    · rw [hsupported]
      simp [supported, hsupports, hvalue]
    · have hright := hstate.waiters waiter hwaiter
      cases waiter with
      | changed => exact Watch.Awaits.send hright hsend
      | returned => exact congrArg Option.isSome hvalue
      | check | dropped => trivial
  | false =>
    rw [Handshake.step, handleMessage_of_not_supports hsupports] at hstep
    cases hstep
    refine ⟨?_, hstate.waiters, hreplies (agrees_of_not_supports hsupports ?_)⟩
    · rw [hsupported]
      simpa [supported, hsupports] using hstate.details
    · cases state.isInitialized <;> simp

/-- A step keeps what is known of the handshake. -/
theorem Sound.step {action : Action V P} {after : State V P I}
    (hstate : Sound serverInfo actions state) (hstep : step serverInfo state action = some after) :
    Sound serverInfo (actions ++ [action]) after := by
  cases action with
  | request params => exact hstate.request hstep
  | wait =>
    cases hstep
    exact hstate.setWaiters rfl
      (forall_mem_append.mpr ⟨hstate.waiters, forall_mem_singleton.mpr trivial⟩)
  | advance index =>
    obtain ⟨next, hnext, rfl⟩ := Option.map_eq_some_iff.mp hstep
    obtain ⟨waiter, -, hadvance⟩ := Option.bind_eq_some_iff.mp hnext
    exact hstate.setWaiters rfl (CallList.forall_mem_set hstate.waiters (.advance hadvance) index)
  | drop index =>
    cases hstep
    exact hstate.setWaiters rfl (CallList.forall_mem_set hstate.waiters (by trivial) index)

/-- What is known of the handshake after any run. -/
theorem run_sound {final : State V P I}
    (hrun : Lts.run (step serverInfo) .new actions = some final) :
    Sound serverInfo actions final :=
  Lts.run_trace_invariant (fun hstate hstep => hstate.step hstep)
    ⟨rfl, by simp [State.new], by simp [State.new]⟩ hrun

/-- Whatever requests come: the server keeps the last one it supports, and every
client agrees with it on the version. -/
theorem run_agrees {final : State V P I}
    (hrun : Lts.run (step serverInfo) .new actions = some final) :
    final.clientDetails.value = (supported serverInfo actions).getLast? ∧
      ∀ entry ∈ final.replies, Agrees serverInfo entry :=
  ⟨(run_sound hrun).details, (run_sound hrun).replies⟩

/-- `wait_for_initialization` returns only after a supported request, and then
always; no call misses the notification. -/
theorem waitForInitialization_inevitable {final : State V P I}
    (hrun : Lts.run (step serverInfo) .new actions = some final) :
    (.returned ∈ final.waiters → supported serverInfo actions ≠ []) ∧
      (supported serverInfo actions ≠ [] →
        Lts.Inevitable (fun state waiter => step serverInfo state (.advance waiter)) final
          fun state => ∀ waiter ∈ state.waiters, waiter = .returned ∨ waiter = .dropped) := by
  have hfinal := run_sound hrun
  have hsome : final.clientDetails.value.isSome = true ↔ supported serverInfo actions ≠ [] := by
    rw [hfinal.details, getLast?_isSome]
  refine ⟨fun hmem => hsome.mp (hfinal.waiters _ hmem), fun hsupported => ?_⟩
  have hvalue := hsome.mpr hsupported
  refine @CallList.inevitable_of_rank _ final.waiters _
    (fun state waiter => step serverInfo state (.advance waiter))
    (fun waiters => { final with waiters }) State.waiters (Waiter.advance final.clientDetails)
    Waiter.rank (Waiter.Right final.clientDetails) _ _ (fun _ => rfl) (fun _ _ => rfl)
    (fun _ hadvance => ⟨.advance hadvance, Waiter.rank_advance hvalue hadvance⟩)
    (fun hright hnone => hright.finished hvalue hnone) (fun hended => ?_) hfinal.waiters
  exact hended

namespace HandshakeWitness

def third : InitializeResult Nat Unit :=
  ⟨3, ()⟩

/-- A task waits while a newer client is refused, and an older one is not. -/
def awaited : List (Action Nat Unit) :=
  [.wait, .advance 0, .request ⟨4, ()⟩, .request ⟨2, ()⟩]

def final : State Nat Unit Unit :=
  ⟨⟨some ⟨2, ()⟩, 1, false⟩, [.changed], [(⟨4, ()⟩, none), (⟨2, ()⟩, some (.ok ⟨2, ()⟩))]⟩

theorem run_awaited : Lts.run (step third) .new awaited = some final := rfl

theorem awaited_agrees :
    final.clientDetails.value = (supported third awaited).getLast? ∧
      ∀ entry ∈ final.replies, Agrees third entry :=
  run_agrees run_awaited

theorem awaited_inevitable :
    Lts.Inevitable (fun state waiter => step third state (.advance waiter)) final
      fun state => ∀ waiter ∈ state.waiters, waiter = .returned ∨ waiter = .dropped :=
  (waitForInitialization_inevitable run_awaited).2 (by decide)

end HandshakeWitness

end McpSdk.Handshake
