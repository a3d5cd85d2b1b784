/-
Any number of calls of `send_message` over one map of pending requests. A
registration puts a sender over the one that was there, and a message takes the
sender of its id out of the map, be it the first, a second one, late or unknown.
-/
import Mathlib.Data.List.Forall2
import McpSdk.PendingRequests

namespace McpSdk.Correlation

open List SendMessage

universe u v

variable {ι : Type u} {ρ : Type v}

structure Call (ι : Type u) (ρ : Type v) where
  messages : Messages ι
  receivers : List (Receiver ι ρ)
  phase : Phase ι ρ

/-- A sender is known by its call and its place among the receivers. -/
structure State (ι : Type u) (ρ : Type v) where
  pendingRequests : AList fun _ : ι => Nat × Nat
  calls : List (Call ι ρ)

/-- No request is pending. -/
def State.initial : State ι ρ :=
  ⟨∅, []⟩

/-- A call is made or takes a step, or a message arrives at `handle_message`. -/
inductive Action (ι : Type u) (ρ : Type v) where
  | send (messages : Messages ι)
  | register (call : Nat)
  | advance (call : Nat) (action : SendMessage.Action ι ρ)
  | arrive (message : ρ)

/-- The steps of a call that do not use the map. -/
def isLocal : SendMessage.Action ι ρ → Bool
  | .register _ | .respond _ _ | .refuse _ _ | .others _ => false
  | _ => true

namespace Call

/-- The call alone, without the map. -/
def state (self : Call ι ρ) : SendMessage.State ι ρ :=
  ⟨∅, self.receivers, self.phase⟩

def isActive (self : Call ι ρ) : Bool :=
  match self.phase with
  | .returned _ => false
  | _ => true

def update (self : Call ι ρ) (index : Nat) (change : Receiver ι ρ → Receiver ι ρ) : Call ι ρ :=
  { self with receivers := self.receivers.modify index change }

end Call

def State.update (self : State ι ρ) (sender : Nat × Nat)
    (change : Receiver ι ρ → Receiver ι ρ) : State ι ρ :=
  match self.calls[sender.1]? with
  | some call =>
    { self with calls := self.calls.set sender.1 (call.update sender.2 change) }
  | none => self

/-- The entry of a batch reply for a request: its response, or its timeout. -/
inductive ItemFor (answers : ρ → Option ι) (id : ι) : BatchItem ι ρ → Prop where
  | message {response : ρ} (hanswers : answers response = some id) :
      ItemFor answers id (.message response)
  | timeout : ItemFor answers id (.error .timeout id)

/-- A reply that fits the messages of the call. -/
inductive AnsweredBy (answers : ρ → Option ι) :
    Messages ι → Reply ι ρ → Prop where
  | single {id : ι} {response : ρ} (hanswers : answers response = some id) :
      AnsweredBy answers (.single (.request id)) (.single response)
  | batch {messages : List (Message ι)} {items : List (BatchItem ι ρ)}
      (hitems : List.Forall₂ (ItemFor answers) (Messages.batch messages).requestIds items) :
      AnsweredBy answers (.batch messages) (.batch items)

/-- What a receiver holds and has given: messages for its id, or the timeout. -/
structure Fits (answers : ρ → Option ι) (receiver : Receiver ι ρ) : Prop where
  sent : ∀ {message : ρ}, receiver.slot = .sent message → answers message = some receiver.id
  received : ∀ {message : ρ}, receiver.outcome = some (.ok message) →
    answers message = some receiver.id
  failed : ∀ {cause : TransportError}, receiver.outcome = some (.error cause) → cause = .timeout

/-- What holds of a call at any time. -/
structure Call.Right (role : Role) (answers : ρ → Option ι)
    (call : Call ι ρ) : Prop where
  shape : Shape role call.messages call.state
  fits : ∀ receiver ∈ call.receivers, Fits answers receiver
  attached : call.isActive = true → ∀ receiver ∈ call.receivers, receiver.slot ≠ .closed
  reply : ∀ {reply : Reply ι ρ}, call.phase = .returned (.ok (some reply)) →
    AnsweredBy answers call.messages reply

/-- A call that goes on keeps its messages and the ids of its receivers. -/
structure Continues (before after : Call ι ρ) : Prop where
  messages : after.messages = before.messages
  active : after.isActive = true → before.isActive = true
  receivers : ∀ {index : Nat} {receiver : Receiver ι ρ},
    before.receivers[index]? = some receiver →
      ∃ receiver', after.receivers[index]? = some receiver' ∧ receiver'.id = receiver.id

theorem continues_update (call : Call ι ρ) (index : Nat) {change : Receiver ι ρ → Receiver ι ρ}
    (hchange : ∀ receiver, (change receiver).id = receiver.id) :
    Continues call (call.update index change) := by
  refine ⟨rfl, id, ?_⟩
  intro k receiver hreceiver
  rw [Call.update, getElem?_modify, hreceiver]
  by_cases hk : index = k
  · exact ⟨change receiver, by simp [hk], hchange receiver⟩
  · exact ⟨receiver, by simp [hk], rfl⟩

section

variable {role : Role} {call : Call ι ρ} {answers : ρ → Option ι}

theorem Call.Right.update (hcall : call.Right role answers) {index : Nat}
    {change : Receiver ι ρ → Receiver ι ρ}
    (hchange : ∀ receiver, (change receiver).id = receiver.id)
    (hfits : ∀ receiver, call.receivers[index]? = some receiver → Fits answers (change receiver))
    (hattached : call.isActive = true → ∀ receiver, call.receivers[index]? = some receiver →
      (change receiver).slot ≠ .closed) :
    (call.update index change).Right role answers where
  shape := hcall.shape.modify hchange
  fits := CallList.forall_mem_modify hcall.fits hfits
  attached := fun hactive =>
    CallList.forall_mem_modify (hcall.attached hactive) (hattached hactive)
  reply := hcall.reply

variable {receiver : Receiver ι ρ}

theorem Fits.send (hreceiver : Fits answers receiver) {message : ρ}
    (hanswers : answers message = some receiver.id) : Fits answers (receiver.send message) := by
  unfold Receiver.send
  split
  · refine ⟨?_, hreceiver.received, hreceiver.failed⟩
    intro message' hslot
    cases hslot
    exact hanswers
  · exact hreceiver

theorem Fits.settle (hreceiver : Fits answers receiver)
    (hopen : receiver.slot ≠ .closed) {outcome : Except TransportError ρ}
    (houtcome : receiver.slot.poll = some outcome) : Fits answers (receiver.settle outcome) := by
  cases hslot : receiver.slot with
  | empty =>
    rw [hslot] at houtcome
    cases houtcome
  | sent message =>
    rw [hslot] at houtcome
    cases houtcome
    refine ⟨hreceiver.sent, ?_, by simp [Receiver.settle]⟩
    intro message' hmessage
    cases hmessage
    exact hreceiver.sent hslot
  | closed => exact absurd hslot hopen

theorem Fits.timeout (hreceiver : Fits answers receiver) :
    Fits answers (receiver.settle (.error .timeout)) :=
  ⟨hreceiver.sent, by simp [Receiver.settle], by simp [Receiver.settle]⟩

theorem Fits.batchItem (hreceiver : Fits answers receiver) :
    ItemFor answers receiver.id receiver.batchItem := by
  unfold Receiver.batchItem
  split
  · next message houtcome => exact .message (hreceiver.received houtcome)
  · next cause houtcome =>
    rw [hreceiver.failed houtcome]
    exact .timeout
  · exact .timeout

theorem answeredBy_result {messages : Messages ι}
    {receivers : List (Receiver ι ρ)} (hids : receivers.map (·.id) = messages.requestIds)
    (hfits : ∀ receiver ∈ receivers, Fits answers receiver) {reply : Reply ι ρ}
    (hreply : result role messages receivers = .ok (some reply)) :
    AnsweredBy answers messages reply := by
  cases messages with
  | batch messages =>
    cases hreply
    refine .batch ?_
    rw [← hids, List.forall₂_map_left_iff, List.forall₂_map_right_iff, List.forall₂_same]
    exact fun receiver hreceiver => (hfits receiver hreceiver).batchItem
  | single message =>
    cases receivers with
    | nil => cases hreply
    | cons receiver rest =>
      simp only [result, head?_cons, Option.bind_some] at hreply
      split at hreply
      · next response houtcome =>
        cases hreply
        have hanswers := (hfits receiver mem_cons_self).received houtcome
        cases message with
        | request id =>
          have hid : receiver.id = id := by
            simpa [Messages.requestIds, Message.requestId] using congrArg List.head? hids
          rw [hid] at hanswers
          exact .single hanswers
        | other => cases hids
      · split at hreply
        · cases hreply
        · cases hreply
      · cases hreply
      · cases hreply

theorem isActive_of_phase {phase : Phase ι ρ} (hphase : call.phase = phase)
    (hactive : ∀ result, phase ≠ .returned result) : call.isActive = true := by
  unfold Call.isActive
  split
  · next result hreturned =>
    exact absurd (hphase.symm.trans hreturned) (hactive result)
  · rfl

theorem Call.Right.mem_requestIds (hcall : call.Right role answers) (hactive : call.isActive = true)
    (hreceiver : receiver ∈ call.receivers) : receiver.id ∈ call.messages.requestIds := by
  have hshape := hcall.shape
  have hid : receiver.id ∈ call.receivers.map (·.id) := mem_map_of_mem hreceiver
  have hwritten : (if registersFirst role call.messages then
      call.receivers.map (·.id) = call.messages.requestIds
      else call.receivers = []) → receiver.id ∈ call.messages.requestIds := by
    intro hwritten
    split at hwritten
    · rwa [hwritten] at hid
    · rw [hwritten] at hreceiver
      cases hreceiver
  cases hphase : call.phase with
  | register todo =>
    simp only [Shape, Call.state, hphase] at hshape
    rw [← hshape]
    exact mem_append_left _ hid
  | serialize | write | written =>
    simp only [Shape, Call.state, hphase] at hshape
    exact hwritten hshape
  | wait =>
    simp only [Shape, Call.state, hphase] at hshape
    rwa [hshape] at hid
  | returned result => simp [Call.isActive, hphase] at hactive

theorem Call.Right.move (hcall : call.Right role answers)
    (hactive : call.isActive = true) {phase : Phase ι ρ}
    (hshape : Shape role call.messages ⟨∅, call.receivers, phase⟩)
    (hreply : ∀ {reply : Reply ι ρ}, phase = .returned (.ok (some reply)) →
      AnsweredBy answers call.messages reply) :
    Continues call { call with phase } ∧ Call.Right role answers { call with phase } :=
  ⟨⟨rfl, fun _ => hactive, fun hreceiver => ⟨_, hreceiver, rfl⟩⟩,
    hshape, hcall.fits, fun _ => hcall.attached hactive, hreply⟩

theorem Call.Right.register {messages : Messages ι}
    {receivers : List (Receiver ι ρ)} {id : ι} {todo : List ι}
    (hcall : Call.Right role answers ⟨messages, receivers, .register (id :: todo)⟩) :
    Continues ⟨messages, receivers, .register (id :: todo)⟩
        ⟨messages, receivers ++ [⟨id, .empty, none⟩], .register todo⟩ ∧ Call.Right role answers
        ⟨messages, receivers ++ [⟨id, .empty, none⟩], .register todo⟩ := by
  refine ⟨⟨rfl, fun _ => rfl, ?_⟩, ?_, ?_, ?_, by simp⟩
  · intro index receiver hreceiver
    exact ⟨receiver, CallList.getElem?_concat_of_some hreceiver _, rfl⟩
  · have hshape := hcall.shape
    simp only [Shape, Call.state] at hshape ⊢
    simpa using hshape
  · intro receiver hreceiver
    rcases mem_append.mp hreceiver with hold | hnew
    · exact hcall.fits receiver hold
    · cases mem_singleton.mp hnew
      exact ⟨by simp, by simp, by simp⟩
  · intro _ receiver hreceiver
    rcases mem_append.mp hreceiver with hold | hnew
    · exact hcall.attached rfl receiver hold
    · cases mem_singleton.mp hnew
      simp

variable [DecidableEq ι]

def Call.start (role : Role) (messages : Messages ι) : Call ι ρ :=
  ⟨messages, [], (initial role messages [] : SendMessage.State ι ρ).phase⟩

def State.dropSender (self : State ι ρ) (id : ι) : State ι ρ :=
  match self.pendingRequests.lookup id with
  | some sender =>
    self.update sender fun receiver => { receiver with slot := .closed }
  | none => self

/-- The next request of a call gets a channel, and its sender is stored. -/
def State.store (self : State ι ρ) (call : Nat) : Option (State ι ρ) :=
  match self.calls[call]? with
  | some ⟨messages, receivers, .register (id :: todo)⟩ =>
    some ⟨self.pendingRequests.insert id (call, receivers.length),
      self.calls.set call
        ⟨messages, receivers ++ [⟨id, .empty, none⟩], .register todo⟩⟩
  | _ => none

/-- `answers` is the id that a response or an error carries. -/
def step (role : Role) (answers : ρ → Option ι) (state : State ι ρ) :
    Action ι ρ → Option (State ι ρ)
  | .send messages =>
    some { state with calls := state.calls ++ [Call.start role messages] }
  | .register call =>
    match state.calls[call]? with
    | some ⟨_, _, .register (id :: _)⟩ => (state.dropSender id).store call
    | _ => none
  | .advance index action =>
    match state.calls[index]? with
    | some call =>
      if isLocal action then
        (SendMessage.step role call.messages call.state action).map
          fun next =>
            { state with
              calls := state.calls.set index
                ⟨call.messages, next.receivers, next.phase⟩ }
      else none
    | none => none
  | .arrive message =>
    match answers message with
    | some id =>
      match state.pendingRequests.lookup id with
      | some sender =>
        some (({ state with
          pendingRequests := state.pendingRequests.erase id } :
            State ι ρ).update sender (.send message))
      | none => some state
    | none => some state

/-- The ids of a new call differ from each other and from those under way. -/
def Distinct (state : State ι ρ) : Action ι ρ → Prop
  | .send messages =>
    messages.requestIds.Nodup ∧
      ∀ call ∈ state.calls, call.isActive = true →
        ∀ id ∈ messages.requestIds, id ∉ call.messages.requestIds
  | _ => True

instance (state : State ι ρ) : DecidablePred (Distinct state)
  | .send messages =>
    inferInstanceAs (Decidable (messages.requestIds.Nodup ∧
      ∀ call ∈ state.calls, call.isActive = true →
        ∀ id ∈ messages.requestIds, id ∉ call.messages.requestIds))
  | .register _ | .advance _ _ | .arrive _ => isTrue trivial

/-- An entry leads to a receiver of its id, each call is right, and calls under
way share no id. -/
structure Sound (role : Role) (answers : ρ → Option ι)
    (state : State ι ρ) : Prop where
  linked : ∀ {id : ι} {sender : Nat × Nat},
    state.pendingRequests.lookup id = some sender →
      ∃ call receiver, state.calls[sender.1]? = some call ∧
        call.receivers[sender.2]? = some receiver ∧ receiver.id = id
  right : ∀ call ∈ state.calls, call.Right role answers
  nodup : ∀ call ∈ state.calls, call.isActive = true → call.messages.requestIds.Nodup
  distinct : ∀ {j k : Nat} {left right : Call ι ρ} {id : ι},
    state.calls[j]? = some left → state.calls[k]? = some right →
      left.isActive = true → right.isActive = true →
        id ∈ left.messages.requestIds → id ∈ right.messages.requestIds → j = k

variable {state : State ι ρ}

theorem Sound.set (hstate : Sound role answers state) {index : Nat}
    {before after : Call ι ρ} (hbefore : state.calls[index]? = some before)
    (hcontinues : Continues before after) (hright : after.Right role answers) :
    Sound role answers
      { state with calls := state.calls.set index after } := by
  have hset := CallList.getElem?_set_of_some hbefore after
  -- every call was there before, with the same messages
  have hold : ∀ {k : Nat} {call : Call ι ρ},
      (state.calls.set index after)[k]? = some call →
        ∃ old, state.calls[k]? = some old ∧ call.messages = old.messages ∧
          (call.isActive = true → old.isActive = true) := by
    intro k call hcall
    rw [hset] at hcall
    split at hcall
    · next heq =>
      subst heq
      cases hcall
      exact ⟨before, hbefore, hcontinues.messages, hcontinues.active⟩
    · exact ⟨call, hcall, rfl, id⟩
  refine ⟨?_, ?_, ?_, ?_⟩
  · intro id sender hentry
    obtain ⟨call, receiver, hcall, hreceiver, hid⟩ := hstate.linked hentry
    by_cases heq : sender.1 = index
    · have hsame : call = before := by
        rw [heq, hbefore] at hcall
        exact (Option.some.inj hcall).symm
      subst hsame
      obtain ⟨receiver', hreceiver', hid'⟩ := hcontinues.receivers hreceiver
      exact ⟨after, receiver', by rw [hset, if_pos heq], hreceiver', hid'.trans hid⟩
    · exact ⟨call, receiver, by rw [hset, if_neg heq, hcall], hreceiver, hid⟩
  · intro call hcall
    rcases mem_or_eq_of_mem_set hcall with hmem | rfl
    · exact hstate.right call hmem
    · exact hright
  · intro call hcall hactive
    obtain ⟨k, hget⟩ := mem_iff_getElem?.mp hcall
    obtain ⟨old, hget', hmessages, hactive'⟩ := hold hget
    rw [hmessages]
    exact hstate.nodup old (mem_of_getElem? hget') (hactive' hactive)
  · intro j k left right id hleft hright hactive hactive' hid hid'
    obtain ⟨left', hleft', hmessages, hbefore⟩ := hold hleft
    obtain ⟨right', hright', hmessages', hbefore'⟩ := hold hright
    rw [hmessages] at hid
    rw [hmessages'] at hid'
    exact hstate.distinct hleft' hright' (hbefore hactive) (hbefore' hactive') hid hid'

theorem Call.Right.advance (hcall : call.Right role answers) {action : SendMessage.Action ι ρ}
    {next : SendMessage.State ι ρ} (hlocal : isLocal action = true)
    (hstep : SendMessage.step role call.messages call.state action = some next) :
    Continues call ⟨call.messages, next.receivers, next.phase⟩ ∧ Call.Right role answers
        ⟨call.messages, next.receivers, next.phase⟩ := by
  have hshape := hcall.shape.step hstep
  cases step_cases hstep with
  | register | respondOwn | respondForeign | respondNone | refuse | others =>
    cases hlocal
  | registered hphase =>
    refine hcall.move (isActive_of_phase hphase (by simp)) hshape ?_
    intro reply hreply
    dsimp only at hreply
    split at hreply
    · cases hreply
    · cases hreply
  | serialize hphase | serializeFails hphase | writePayload hphase =>
    exact hcall.move (isActive_of_phase hphase (by simp)) hshape (by simp)
  | writeReturns hphase =>
    refine hcall.move (isActive_of_phase hphase (by simp)) hshape ?_
    intro reply hreply
    dsimp only at hreply
    split at hreply
    · cases hreply
    · split at hreply
      · cases hreply
      · cases hreply
  | writeFails hphase =>
    have hactive : call.isActive = true := by
      rcases hphase with hwrite | hwritten
      · exact isActive_of_phase hwrite (by simp)
      · exact isActive_of_phase hwritten (by simp)
    exact hcall.move hactive hshape (by simp)
  | @take index receiver outcome hphase hget hnone hpoll =>
    have hactive : call.isActive = true := isActive_of_phase hphase (by simp)
    refine ⟨continues_update call index (Receiver.settle_id _),
      hcall.update (Receiver.settle_id _) ?_ ?_⟩
    · intro receiver' hget'
      cases hget.symm.trans hget'
      have hmem := mem_of_getElem? hget
      exact (hcall.fits receiver hmem).settle (hcall.attached hactive receiver hmem) hpoll
    · intro _ receiver' hget'
      exact hcall.attached hactive receiver' (mem_of_getElem? hget')
  | @timeout index receiver hphase hget hnone hpoll =>
    have hactive : call.isActive = true := isActive_of_phase hphase (by simp)
    refine ⟨continues_update call index (Receiver.settle_id _),
      hcall.update (Receiver.settle_id _) ?_ ?_⟩
    · intro receiver' hget'
      exact (hcall.fits receiver' (mem_of_getElem? hget')).timeout
    · intro _ receiver' hget'
      exact hcall.attached hactive receiver' (mem_of_getElem? hget')
  | finish hphase hall =>
    refine hcall.move (isActive_of_phase hphase (by simp)) hshape ?_
    intro reply hreply
    have hids : call.receivers.map (·.id) = call.messages.requestIds := by
      have hwait := hcall.shape
      rwa [Shape, hphase] at hwait
    exact answeredBy_result hids hcall.fits (Phase.returned.inj hreply)

theorem Sound.advance (hstate : Sound role answers state) {index : Nat}
    {action : SendMessage.Action ι ρ} {next : SendMessage.State ι ρ}
    (hcall : state.calls[index]? = some call) (hlocal : isLocal action = true)
    (hstep : SendMessage.step role call.messages call.state action = some next) :
    Sound role answers
      { state with
        calls := state.calls.set index
          ⟨call.messages, next.receivers, next.phase⟩ } := by
  have hright := hstate.right call (mem_of_getElem? hcall)
  obtain ⟨hcontinues, hnext⟩ := hright.advance hlocal hstep
  exact hstate.set hcall hcontinues hnext

theorem Sound.arrive (hstate : Sound role answers state) {id : ι}
    {sender : Nat × Nat} {message : ρ} (hanswers : answers message = some id)
    (hentry : state.pendingRequests.lookup id = some sender) :
    Sound role answers
      (({ state with pendingRequests := state.pendingRequests.erase id } :
        State ι ρ).update sender (.send message)) := by
  obtain ⟨call, receiver, hcall, hreceiver, hid⟩ := hstate.linked hentry
  have hright := hstate.right call (mem_of_getElem? hcall)
  have herased : Sound role answers
      { state with pendingRequests := state.pendingRequests.erase id } := by
    refine { hstate with linked := ?_ }
    intro other sender' hother
    have hne : other ≠ id := by
      rintro rfl
      simp at hother
    rw [AList.lookup_erase_ne hne] at hother
    exact hstate.linked hother
  unfold State.update
  simp only [hcall]
  refine herased.set hcall (continues_update call _ (Receiver.send_id _))
    (hright.update (Receiver.send_id _) ?_ ?_)
  · intro receiver' hget
    cases hreceiver.symm.trans hget
    exact (hright.fits receiver (mem_of_getElem? hreceiver)).send
      (hanswers.trans (congrArg some hid.symm))
  · intro hactive receiver' hget
    have hopen := hright.attached hactive receiver' (mem_of_getElem? hget)
    unfold Receiver.send
    split
    · simp
    · exact hopen

theorem Sound.dropSender (hstate : Sound role answers state)
    {index : Nat} {id : ι} {todo : List ι} (hcall : state.calls[index]? = some call)
    (hphase : call.phase = .register (id :: todo)) : Sound role answers (state.dropSender id) := by
  unfold State.dropSender
  split
  · next sender hentry =>
    obtain ⟨other, receiver, hother, hreceiver, hid⟩ := hstate.linked hentry
    have hright := hstate.right other (mem_of_getElem? hother)
    have hreturned : other.isActive = false := by
      by_contra hactive
      rw [Bool.not_eq_false] at hactive
      have hmem := mem_of_getElem? hreceiver
      have hothers := hright.mem_requestIds hactive hmem
      rw [hid] at hothers
      have hown := (hstate.right call (mem_of_getElem? hcall)).shape.mem_requestIds hphase
      have hindex := hstate.distinct hother hcall hactive
        (isActive_of_phase hphase (by simp)) hothers hown
      -- it would be this call, which registers no id twice
      rw [hindex] at hother
      cases hcall.symm.trans hother
      have hnodup := hstate.nodup call (mem_of_getElem? hcall) hactive
      have hshape : call.receivers.map (·.id) ++ id :: todo =
          call.messages.requestIds := by
        have hshape := hright.shape
        rwa [Shape, Call.state, hphase] at hshape
      rw [← hshape, nodup_append] at hnodup
      exact hnodup.2.2 id (mem_map.mpr ⟨receiver, hmem, hid⟩) id mem_cons_self rfl
    unfold State.update
    simp only [hother]
    refine hstate.set hother (continues_update other _ fun _ => rfl)
      (hright.update (fun _ => rfl) ?_ ?_)
    · intro receiver' hget
      have hfits := hright.fits receiver' (mem_of_getElem? hget)
      exact ⟨by simp, hfits.received, hfits.failed⟩
    · intro hactive
      rw [hreturned] at hactive
      cases hactive
  · exact hstate

theorem Sound.store {state next : State ι ρ} (hstate : Sound role answers state) {index : Nat}
    (hnext : state.store index = some next) : Sound role answers next := by
  unfold State.store at hnext
  split at hnext
  · next messages receivers id todo hcall =>
    cases hnext
    have hright := hstate.right _ (mem_of_getElem? hcall)
    obtain ⟨hcontinues, hnext⟩ := hright.register
    have hset := hstate.set hcall hcontinues hnext
    refine { hset with linked := ?_ }
    intro other sender hentry
    by_cases heq : other = id
    · subst heq
      rw [AList.lookup_insert] at hentry
      cases hentry
      have hown := CallList.getElem?_set_of_some hcall
        ⟨messages, receivers ++ [⟨other, .empty, none⟩], .register todo⟩ index
      rw [if_pos rfl] at hown
      exact ⟨_, _, hown, getElem?_concat_length, rfl⟩
    · rw [AList.lookup_insert_ne heq] at hentry
      exact hset.linked hentry
  · cases hnext

theorem Call.start_right (role : Role) (answers : ρ → Option ι) (messages : Messages ι) :
    (Call.start role messages : Call ι ρ).Right role answers := by
  refine ⟨initial_shape role messages [], ?_, ?_, ?_⟩
  · intro receiver hreceiver
    cases hreceiver
  · intro _ receiver hreceiver
    cases hreceiver
  · intro reply hreply
    simp only [Call.start, initial] at hreply
    split at hreply
    · cases hreply
    · cases hreply

theorem Sound.send (hstate : Sound role answers state)
    {messages : Messages ι} (hdistinct : Distinct state (.send messages)) :
    Sound role answers
      { state with calls := state.calls ++ [Call.start role messages] } := by
  obtain ⟨hnodup, hfresh⟩ := hdistinct
  refine ⟨?_, ?_, ?_, ?_⟩
  · intro id sender hentry
    obtain ⟨call, receiver, hcall, hreceiver, hid⟩ := hstate.linked hentry
    exact ⟨call, receiver, CallList.getElem?_concat_of_some hcall _, hreceiver, hid⟩
  · intro call hcall
    rcases mem_append.mp hcall with hold | hnew
    · exact hstate.right call hold
    · cases mem_singleton.mp hnew
      exact Call.start_right role answers messages
  · intro call hcall hactive
    rcases mem_append.mp hcall with hold | hnew
    · exact hstate.nodup call hold hactive
    · cases mem_singleton.mp hnew
      exact hnodup
  · intro j k left right id hleft hright hactive hactive' hid hid'
    rcases CallList.getElem?_concat_cases hleft with ⟨rfl, rfl⟩ | hleft
    · rcases CallList.getElem?_concat_cases hright with ⟨rfl, -⟩ | hright
      · rfl
      · exact absurd hid' (hfresh right (mem_of_getElem? hright) hactive' id hid)
    · rcases CallList.getElem?_concat_cases hright with ⟨rfl, rfl⟩ | hright
      · exact absurd hid (hfresh left (mem_of_getElem? hleft) hactive id hid')
      · exact hstate.distinct hleft hright hactive hactive' hid hid'

/-- A step with distinct ids keeps every call right. -/
theorem Sound.step {state next : State ι ρ} {action : Action ι ρ}
    (hstate : Sound role answers state) (hdistinct : Distinct state action)
    (hstep : step role answers state action = some next) : Sound role answers next := by
  cases action with
  | send messages =>
    cases hstep
    exact hstate.send hdistinct
  | register index =>
    simp only [Correlation.step] at hstep
    split at hstep
    · next messages receivers id todo hcall =>
      exact (hstate.dropSender hcall rfl).store hstep
    · cases hstep
  | advance index action =>
    simp only [Correlation.step] at hstep
    split at hstep
    · next call hcall =>
      rw [Option.ite_none_right_eq_some] at hstep
      obtain ⟨hlocal, hstep⟩ := hstep
      obtain ⟨after, hafter, rfl⟩ := Option.map_eq_some_iff.mp hstep
      exact hstate.advance hcall hlocal hafter
    · cases hstep
  | arrive message =>
    simp only [Correlation.step] at hstep
    split at hstep
    · next id hanswers =>
      split at hstep
      · next sender hentry =>
        cases hstep
        exact hstate.arrive hanswers hentry
      · cases hstep
        exact hstate
    · cases hstep
      exact hstate

theorem Sound.initial (role : Role) (answers : ρ → Option ι) :
    Sound role answers (State.initial : State ι ρ) := by
  refine ⟨?_, ?_, ?_, ?_⟩
  · intro id sender hentry
    cases hentry
  · intro call hcall
    cases hcall
  · intro call hcall
    cases hcall
  · intro j k left right id hleft
    cases hleft

end

namespace CorrelationWitness

def answers : Option Nat × Nat → Option Nat :=
  Prod.fst

/-- A request and a batch of two, with responses out of order, doubled, unknown,
without an id and too late. -/
def interleaved : List (Action Nat (Option Nat × Nat)) :=
  [.send (.single (.request 1)), .register 0, .advance 0 .registered,
    .advance 0 .serialize,
    .send (.batch [.request 2, .other, .request 3]), .register 1,
    .advance 0 .writePayload, .register 1, .advance 1 .registered,
    .advance 1 .serialize, .advance 1 .writePayload, .advance 1 .writeReturns,
    .advance 0 .writeReturns, .arrive (some 2, 20), .arrive (some 9, 90),
    .arrive (none, 0), .arrive (some 2, 21), .advance 1 (.timeout 1),
    .arrive (some 3, 30), .arrive (some 1, 10), .advance 1 (.take 0),
    .advance 1 .finish, .advance 0 (.take 0), .advance 0 .finish]

end CorrelationWitness

end McpSdk.Correlation
