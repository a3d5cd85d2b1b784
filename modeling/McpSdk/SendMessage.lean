/-
One call of `send_message` among other users of the map of pending requests.
Registration, write and waits are separate steps. The two dispatchers differ in
one place: the server registers a batch after it has written it.
-/
import Mathlib.Data.List.AList
import McpSdk.Lts

namespace McpSdk.SendMessage

open List Option

universe u v

variable {ι : Type u} {ρ : Type v}

/-- The two implementations of the dispatcher. -/
inductive Role where
  | client
  | server
deriving Repr, DecidableEq

/-- A request with its id, or a message that expects no response. -/
inductive Message (ι : Type u) where
  | request (id : ι)
  | other
deriving Repr, DecidableEq

inductive Messages (ι : Type u) where
  | single (message : Message ι)
  | batch (messages : List (Message ι))
deriving Repr, DecidableEq

def Message.requestId : Message ι → Option ι
  | .request id => some id
  | .other => none

def Messages.requestIds : Messages ι → List ι
  | .single message => message.requestId.toList
  | .batch messages => messages.filterMap Message.requestId

/-- The sender of an entry: of this call, by its receiver, or of another call. -/
inductive Sender where
  | own (index : Nat)
  | foreign (channel : Nat)
deriving Repr, DecidableEq

inductive TransportError where
  | parseError
  | write
  | timeout
  | channelClosed
  | connectionClosed
deriving Repr, DecidableEq

inductive Slot (ρ : Type v) where
  | empty
  | sent (response : ρ)
  | closed
deriving Repr, DecidableEq

/-- A receiver of the call, and what waiting on it has given. -/
structure Receiver (ι : Type u) (ρ : Type v) where
  id : ι
  slot : Slot ρ
  outcome : Option (Except TransportError ρ)

/-- One element of a batch reply; an error stands for a missing response. -/
inductive BatchItem (ι : Type u) (ρ : Type v) where
  | message (response : ρ)
  | error (cause : TransportError) (id : ι)
deriving Repr, DecidableEq

inductive Reply (ι : Type u) (ρ : Type v) where
  | single (response : ρ)
  | batch (items : List (BatchItem ι ρ))
deriving Repr, DecidableEq

abbrev Result (ι : Type u) (ρ : Type v) :=
  Except TransportError (Option (Reply ι ρ))

/-- In `written` the peer can read the payload and `write_str` has not returned. -/
inductive Phase (ι : Type u) (ρ : Type v) where
  | register (todo : List ι)
  | serialize
  | write
  | written
  | wait
  | returned (result : Result ι ρ)

/-- The map of pending requests, the receivers, and the call. -/
structure State (ι : Type u) (ρ : Type v) where
  pendingRequests : AList fun _ : ι => Sender
  receivers : List (Receiver ι ρ)
  phase : Phase ι ρ

/-- A step of the call, or of another user of the map. -/
inductive Action (ι : Type u) (ρ : Type v) where
  /-- `store_pending_request` inserts an id. -/
  | register (id : ι)
  /-- All registrations of the call are done. -/
  | registered
  | serialize
  | serializeFails
  /-- The payload is on the wire. -/
  | writePayload
  | writeReturns
  | writeFails
  /-- A response to a request of the call arrives at `handle_message`. -/
  | respond (id : ι) (response : ρ)
  /-- An error response arrives and the handler's `handle_error` fails, so that
  `handle_message` returns before it looks into the map. -/
  | refuse (id : ι) (response : ρ)
  /-- A wait ends with what the channel holds. -/
  | take (index : Nat)
  | timeout (index : Nat)
  | finish
  /-- Another call changes entries of its own ids. -/
  | others (pendingRequests : AList fun _ : ι => Sender)

/-- Every path registers before it writes, but for the batch of the server. -/
def registersFirst (role : Role) (messages : Messages ι) : Bool :=
  match role, messages with
  | .server, .batch _ => false
  | _, _ => true

def dropSender (receivers : List (Receiver ι ρ)) :
    Option Sender → List (Receiver ι ρ)
  | some (.own index) =>
    receivers.modify index fun receiver => { receiver with slot := .closed }
  | _ => receivers

/-- `Sender::send`, which fails when nobody waits any more. -/
def Receiver.send (response : ρ) (receiver : Receiver ι ρ) : Receiver ι ρ :=
  if receiver.outcome.isNone then { receiver with slot := .sent response }
  else receiver

/-- The wait on a receiver is over. -/
def Receiver.settle (outcome : Except TransportError ρ) (receiver : Receiver ι ρ) : Receiver ι ρ :=
  { receiver with outcome := some outcome }

/-- What waiting on a receiver gives when it is polled. -/
def Slot.poll : Slot ρ → Option (Except TransportError ρ)
  | .empty => none
  | .sent response => some (.ok response)
  | .closed => some (.error .channelClosed)

def Receiver.batchItem (receiver : Receiver ι ρ) : BatchItem ι ρ :=
  match receiver.outcome with
  | some (.ok response) => .message response
  | some (.error cause) => .error cause receiver.id
  | none => .error .timeout receiver.id

/-- The value that `send_message` returns when all waits are over. -/
def result (role : Role) (messages : Messages ι) (receivers : List (Receiver ι ρ)) : Result ι ρ :=
  match messages with
  | .batch _ => .ok (some (.batch (receivers.map Receiver.batchItem)))
  | .single _ =>
    match receivers.head?.bind (·.outcome) with
    | some (.ok response) => .ok (some (.single response))
    | some (.error .channelClosed) =>
      match role with
      | .client => .error .connectionClosed
      | .server => .error .channelClosed
    | some (.error cause) => .error cause
    | none => .ok none

theorem map_id_modify {receivers : List (Receiver ι ρ)} {index : Nat}
    {change : Receiver ι ρ → Receiver ι ρ}
    (hchange : ∀ receiver, (change receiver).id = receiver.id) :
    (receivers.modify index change).map (·.id) = receivers.map (·.id) := by
  apply ext_getElem?
  intro k
  rw [getElem?_map, getElem?_map, getElem?_modify]
  cases receivers[k]? with
  | none => rfl
  | some receiver =>
    by_cases hk : index = k
    · simp [hk, hchange]
    · simp [hk]

theorem Receiver.send_id (response : ρ) (receiver : Receiver ι ρ) :
    (Receiver.send response receiver).id = receiver.id := by
  unfold Receiver.send
  split
  · rfl
  · rfl

theorem Receiver.settle_id (outcome : Except TransportError ρ) (receiver : Receiver ι ρ) :
    (Receiver.settle outcome receiver).id = receiver.id := rfl

theorem dropSender_map_id (receivers : List (Receiver ι ρ)) (sender : Option Sender) :
    (dropSender receivers sender).map (·.id) = receivers.map (·.id) := by
  unfold dropSender
  split
  · exact map_id_modify fun _ => rfl
  · rfl

theorem dropSender_length (receivers : List (Receiver ι ρ)) (sender : Option Sender) :
    (dropSender receivers sender).length = receivers.length := by
  have hlength := congrArg List.length (dropSender_map_id receivers sender)
  simpa using hlength

theorem dropSender_getElem? {receivers : List (Receiver ι ρ)}
    {sender : Option Sender} {index : Nat} (hne : sender ≠ some (.own index)) :
    (dropSender receivers sender)[index]? = receivers[index]? := by
  unfold dropSender
  split
  · next other =>
    have hother : other ≠ index := by
      rintro rfl
      exact hne rfl
    exact getElem?_modify_ne _ _ hother
  · rfl

variable [DecidableEq ι]

def foreignEntries : List (ι × Nat) → AList fun _ : ι => Sender
  | [] => ∅
  | (id, channel) :: entries =>
    (foreignEntries entries).insert id (.foreign channel)

/-- The call has not started; other requests are pending. -/
def initial (role : Role) (messages : Messages ι) (entries : List (ι × Nat)) : State ι ρ :=
  ⟨foreignEntries entries, [],
    if registersFirst role messages then .register messages.requestIds
    else .serialize⟩

/-- The call or another user of the map takes a step. -/
def step (role : Role) (messages : Messages ι) (self : State ι ρ) :
    Action ι ρ → Option (State ι ρ)
  | .register id =>
    match self.phase with
    | .register (next :: todo) =>
      if next = id then
        some ⟨self.pendingRequests.insert id (.own self.receivers.length),
          dropSender self.receivers (self.pendingRequests.lookup id) ++ [⟨id, .empty, none⟩],
          .register todo⟩
      else none
    | _ => none
  | .registered =>
    match self.phase with
    | .register [] =>
      some { self with
        phase := if registersFirst role messages then .serialize else .wait }
    | _ => none
  | .serialize =>
    match self.phase with
    | .serialize => some { self with phase := .write }
    | _ => none
  | .serializeFails =>
    match self.phase with
    | .serialize => some { self with phase := .returned (.error .parseError) }
    | _ => none
  | .writePayload =>
    match self.phase with
    | .write => some { self with phase := .written }
    | _ => none
  | .writeReturns =>
    match self.phase with
    | .written =>
      some { self with
        phase :=
          if messages.requestIds = [] then .returned (.ok none)
          else if registersFirst role messages then .wait
          else .register messages.requestIds }
    | _ => none
  | .writeFails =>
    match self.phase with
    | .write => some { self with phase := .returned (.error .write) }
    | .written => some { self with phase := .returned (.error .write) }
    | _ => none
  | .respond id response =>
    if id ∈ messages.requestIds then
      match self.pendingRequests.lookup id with
      | some (.own index) =>
        some { self with
          pendingRequests := self.pendingRequests.erase id
          receivers := self.receivers.modify index (.send response) }
      | some (.foreign _) =>
        some { self with pendingRequests := self.pendingRequests.erase id }
      | none => some self
    else none
  | .refuse id _ => if id ∈ messages.requestIds then some self else none
  | .take index =>
    match self.phase, self.receivers[index]? with
    | .wait, some receiver =>
      match receiver.outcome, receiver.slot.poll with
      | none, some outcome =>
        some { self with
          receivers := self.receivers.modify index (.settle outcome) }
      | _, _ => none
    | _, _ => none
  | .timeout index =>
    match self.phase, self.receivers[index]? with
    | .wait, some receiver =>
      match receiver.outcome, receiver.slot.poll with
      | none, none =>
        some { self with
          receivers := self.receivers.modify index (.settle (.error .timeout)) }
      | _, _ => none
    | _, _ => none
  | .finish =>
    match self.phase with
    | .wait =>
      if self.receivers.all (·.outcome.isSome) then
        some { self with
          phase := .returned (result role messages self.receivers) }
      else none
    | _ => none
  | .others pendingRequests =>
    if ∀ id ∈ messages.requestIds,
        pendingRequests.lookup id = self.pendingRequests.lookup id then
      some { self with pendingRequests }
    else none

/-- What a step can do, with its guard. -/
inductive Step (role : Role) (messages : Messages ι) (self : State ι ρ) :
    Action ι ρ → State ι ρ → Prop where
  | register {id : ι} {todo : List ι}
      (hphase : self.phase = .register (id :: todo)) :
      Step role messages self (.register id)
        ⟨self.pendingRequests.insert id (.own self.receivers.length),
          dropSender self.receivers (self.pendingRequests.lookup id) ++ [⟨id, .empty, none⟩],
          .register todo⟩
  | registered (hphase : self.phase = .register []) :
      Step role messages self .registered
        { self with
          phase := if registersFirst role messages then .serialize else .wait }
  | serialize (hphase : self.phase = .serialize) :
      Step role messages self .serialize { self with phase := .write }
  | serializeFails (hphase : self.phase = .serialize) :
      Step role messages self .serializeFails
        { self with phase := .returned (.error .parseError) }
  | writePayload (hphase : self.phase = .write) :
      Step role messages self .writePayload { self with phase := .written }
  | writeReturns (hphase : self.phase = .written) :
      Step role messages self .writeReturns
        { self with
          phase :=
            if messages.requestIds = [] then .returned (.ok none)
            else if registersFirst role messages then .wait
            else .register messages.requestIds }
  | writeFails (hphase : self.phase = .write ∨ self.phase = .written) :
      Step role messages self .writeFails
        { self with phase := .returned (.error .write) }
  | respondOwn {id : ι} {response : ρ} {index : Nat}
      (hid : id ∈ messages.requestIds)
      (hentry : self.pendingRequests.lookup id = some (.own index)) :
      Step role messages self (.respond id response)
        { self with
          pendingRequests := self.pendingRequests.erase id
          receivers := self.receivers.modify index (.send response) }
  | respondForeign {id : ι} {response : ρ} {channel : Nat}
      (hid : id ∈ messages.requestIds)
      (hentry : self.pendingRequests.lookup id = some (.foreign channel)) :
      Step role messages self (.respond id response)
        { self with pendingRequests := self.pendingRequests.erase id }
  | respondNone {id : ι} {response : ρ} (hid : id ∈ messages.requestIds)
      (hentry : self.pendingRequests.lookup id = none) :
      Step role messages self (.respond id response) self
  | refuse {id : ι} {response : ρ} (hid : id ∈ messages.requestIds) :
      Step role messages self (.refuse id response) self
  | take {index : Nat} {receiver : Receiver ι ρ}
      {outcome : Except TransportError ρ} (hphase : self.phase = .wait)
      (hget : self.receivers[index]? = some receiver)
      (hnone : receiver.outcome = none)
      (hpoll : receiver.slot.poll = some outcome) :
      Step role messages self (.take index)
        { self with
          receivers := self.receivers.modify index (.settle outcome) }
  | timeout {index : Nat} {receiver : Receiver ι ρ}
      (hphase : self.phase = .wait)
      (hget : self.receivers[index]? = some receiver)
      (hnone : receiver.outcome = none)
      (hpoll : receiver.slot.poll = none) :
      Step role messages self (.timeout index)
        { self with
          receivers := self.receivers.modify index (.settle (.error .timeout)) }
  | finish (hphase : self.phase = .wait)
      (hall : ∀ receiver ∈ self.receivers, receiver.outcome.isSome = true) :
      Step role messages self .finish
        { self with phase := .returned (result role messages self.receivers) }
  | others {pendingRequests : AList fun _ : ι => Sender}
      (hsame : ∀ id ∈ messages.requestIds,
        pendingRequests.lookup id = self.pendingRequests.lookup id) :
      Step role messages self (.others pendingRequests)
        { self with pendingRequests }

theorem step_cases {role : Role} {messages : Messages ι} {self next : State ι ρ}
    {action : Action ι ρ} (hstep : step role messages self action = some next) :
    Step role messages self action next := by
  cases action with
  | register id =>
    simp only [step] at hstep
    split at hstep
    · next head todo hphase =>
      rw [ite_none_right_eq_some] at hstep
      obtain ⟨rfl, hnext⟩ := hstep
      cases hnext
      exact .register hphase
    · cases hstep
  | registered =>
    simp only [step] at hstep
    split at hstep
    · next hphase =>
      cases hstep
      exact .registered hphase
    · cases hstep
  | serialize =>
    simp only [step] at hstep
    split at hstep
    · next hphase =>
      cases hstep
      exact .serialize hphase
    · cases hstep
  | serializeFails =>
    simp only [step] at hstep
    split at hstep
    · next hphase =>
      cases hstep
      exact .serializeFails hphase
    · cases hstep
  | writePayload =>
    simp only [step] at hstep
    split at hstep
    · next hphase =>
      cases hstep
      exact .writePayload hphase
    · cases hstep
  | writeReturns =>
    simp only [step] at hstep
    split at hstep
    · next hphase =>
      cases hstep
      exact .writeReturns hphase
    · cases hstep
  | writeFails =>
    simp only [step] at hstep
    split at hstep
    · next hphase =>
      cases hstep
      exact .writeFails (.inl hphase)
    · next hphase =>
      cases hstep
      exact .writeFails (.inr hphase)
    · cases hstep
  | respond id response =>
    simp only [step] at hstep
    rw [ite_none_right_eq_some] at hstep
    obtain ⟨hid, hstep⟩ := hstep
    split at hstep
    · next index hentry =>
      cases hstep
      exact .respondOwn hid hentry
    · next channel hentry =>
      cases hstep
      exact .respondForeign hid hentry
    · next hentry =>
      cases hstep
      exact .respondNone hid hentry
  | refuse id response =>
    obtain ⟨hid, hnext⟩ := ite_none_right_eq_some.mp hstep
    cases hnext
    exact .refuse hid
  | take index =>
    simp only [step] at hstep
    split at hstep
    · next receiver hphase hget =>
      split at hstep
      · next outcome hnone hpoll =>
        cases hstep
        exact .take hphase hget hnone hpoll
      · cases hstep
    · cases hstep
  | timeout index =>
    simp only [step] at hstep
    split at hstep
    · next receiver hphase hget =>
      split at hstep
      · next hnone hpoll =>
        cases hstep
        exact .timeout hphase hget hnone hpoll
      · cases hstep
    · cases hstep
  | finish =>
    simp only [step] at hstep
    split at hstep
    · next hphase =>
      rw [ite_none_right_eq_some] at hstep
      obtain ⟨hall, hnext⟩ := hstep
      cases hnext
      exact .finish hphase (all_eq_true.mp hall)
    · cases hstep
  | others pendingRequests =>
    simp only [step] at hstep
    rw [ite_none_right_eq_some] at hstep
    obtain ⟨hsame, hnext⟩ := hstep
    cases hnext
    exact .others hsame

end McpSdk.SendMessage
