/-
How the server handles messages. Requests and notifications go to the handler, a
response to the request that waits on its transport. A batch is handled in
order, and its first failure drops the rest.
-/
import Mathlib.Data.List.AList
import McpSdk.SseEvent

namespace McpSdk.HandleMessage

open List

universe u v w

variable {ι : Type u} {β : Type v} {ε : Type w}

inductive ClientMessage (ι : Type u) (β : Type v) where
  | request (id : ι) (params : β)
  | notification (params : β)
  | response (id : ι) (result : β)
  | error (id : Option ι) (error : β)
deriving Repr, DecidableEq

inductive ClientMessages (ι : Type u) (β : Type v) where
  | single (message : ClientMessage ι β)
  | batch (messages : List (ClientMessage ι β))
deriving Repr, DecidableEq

def ClientMessages.toList : ClientMessages ι β → List (ClientMessage ι β)
  | .single message => [message]
  | .batch messages => messages

inductive ServerMessage (ι : Type u) (β : Type v) (ε : Type w) where
  | response (id : ι) (result : β)
  | error (id : ι) (error : ε)
deriving Repr, DecidableEq

inductive ServerMessages (ι : Type u) (β : Type v) (ε : Type w) where
  | single (message : ServerMessage ι β ε)
  | batch (messages : List (ServerMessage ι β ε))
deriving Repr, DecidableEq

/-- The call behind a request waits, or has dropped its receiver. -/
inductive Waiter where
  | waiting
  | gone
deriving Repr, DecidableEq

structure Transport (ι : Type u) (β : Type v) where
  pendingRequests : AList fun _ : ι => Waiter
  isShutDown : Bool
  /-- The responses that calls have received, with the ids of their requests;
  the latest is the last. -/
  resolved : List (ι × ClientMessage ι β)

def Transport.new : Transport ι β :=
  ⟨∅, false, []⟩

/-- The user's handler, and whether the session is initialized. -/
structure Runtime (ι : Type u) (β : Type v) (ε : Type w) where
  handleRequest : ι → β → Except ε β
  handleNotification : β → Except ε Unit
  handleError : β → Except ε Unit
  isInitialized : Bool

inductive SdkError (ι : Type u) (β : Type v) (ε : Type w) where
  | handler (error : ε)
  /-- Nobody waits for the message any more. -/
  | unsent (message : ClientMessage ι β)
deriving Repr, DecidableEq

def ClientMessage.requestId : ClientMessage ι β → Option ι
  | .request id _ => some id
  | _ => none

def ServerMessage.requestId : ServerMessage ι β ε → ι
  | .response id _ => id
  | .error id _ => id

def ClientMessage.answers : ClientMessage ι β → Option ι
  | .response id _ => some id
  | .error id _ => id
  | _ => none

def Runtime.accepts (self : Runtime ι β ε) : ClientMessage ι β → Bool
  | .request id params => (self.handleRequest id params).isOk || self.isInitialized
  | .notification params => (self.handleNotification params).isOk
  | .error _ error => (self.handleError error).isOk
  | .response _ _ => true

/-- The responses that calls have received since an earlier state. -/
def Transport.since (self earlier : Transport ι β) : List (ι × ClientMessage ι β) :=
  self.resolved.drop earlier.resolved.length

theorem Transport.since_self (self : Transport ι β) : self.since self = [] :=
  drop_length

theorem Transport.since_trans {first second third : Transport ι β}
    (hfirst : first.resolved <+: second.resolved) (hsecond : second.resolved <+: third.resolved) :
    third.since first = second.since first ++ third.since second := by
  obtain ⟨new, hnew⟩ := hfirst
  obtain ⟨newer, hnewer⟩ := hsecond
  simp [since, ← hnewer, ← hnew]

variable [DecidableEq ι]

/-- The call behind the entry of the id receives the message. -/
def Transport.receive (self : Transport ι β) (id : ι)
    (message : ClientMessage ι β) : Transport ι β :=
  { self with
    pendingRequests := self.pendingRequests.erase id
    resolved := self.resolved ++ [(id, message)] }

/-- `pending_request_tx` takes the entry, and its receiver gets the message. -/
def Transport.resolve (self : Transport ι β) (id : ι) (message : ClientMessage ι β) :
    Except (SdkError ι β ε) (Option (ServerMessage ι β ε)) × Transport ι β :=
  match self.pendingRequests.lookup id with
  | some .waiting => (.ok none, self.receive id message)
  | some .gone =>
    (.error (.unsent message), { self with
      pendingRequests := self.pendingRequests.erase id })
  | none => (.ok none, self)

def Runtime.handleMessage (self : Runtime ι β ε) (transport : Transport ι β)
    (message : ClientMessage ι β) :
    Except (SdkError ι β ε) (Option (ServerMessage ι β ε)) × Transport ι β :=
  match message with
  | .request id params =>
    match self.handleRequest id params with
    | .ok result => (.ok (some (.response id result)), transport)
    | .error error =>
      if self.isInitialized then
        (.ok (some (.error id error)), transport)
      else (.error (.handler error), transport)
  | .notification params =>
    match self.handleNotification params with
    | .ok _ => (.ok none, transport)
    | .error error => (.error (.handler error), transport)
  | .error id error =>
    match self.handleError error with
    | .error failure => (.error (.handler failure), transport)
    | .ok _ =>
      match id with
      | some id => transport.resolve id message
      | none => (.ok none, transport)
  | .response id _ => transport.resolve id message

/-- `try_join_all` over the messages of a batch. -/
def Runtime.tryJoinAll (self : Runtime ι β ε) (transport : Transport ι β) :
    List (ClientMessage ι β) →
      Except (SdkError ι β ε) (List (Option (ServerMessage ι β ε))) ×
        Transport ι β
  | [] => (.ok [], transport)
  | message :: messages =>
    match self.handleMessage transport message with
    | (.error error, next) => (.error error, next)
    | (.ok reply, next) =>
      let later := self.tryJoinAll next messages
      (later.1.map (reply :: ·), later.2)

/-- What the loop does with one item; the error of a single message is logged. -/
def Runtime.handleMessages (self : Runtime ι β ε)
    (transport : Transport ι β) (messages : ClientMessages ι β) :
    Except (SdkError ι β ε) (Option (ServerMessages ι β ε)) × Transport ι β :=
  match messages with
  | .single message =>
    let handled := self.handleMessage transport message
    (match handled.1 with
      | .ok reply => .ok (reply.map .single)
      | .error _ => .ok none, handled.2)
  | .batch messages =>
    let handled := self.tryJoinAll transport messages
    (handled.1.map fun results =>
      let replies := results.filterMap fun reply => reply
      if replies.isEmpty then none else some (.batch replies), handled.2)

/-- The items that the loop has taken, in the order of their tasks. -/
def Runtime.handleAll (self : Runtime ι β ε) (transport : Transport ι β)
    (tasks : List (ClientMessages ι β)) : Transport ι β :=
  tasks.foldl (fun transport messages =>
    (self.handleMessages transport messages).2) transport

def Transport.Waits (self : Transport ι β) (id : ι) : Prop :=
  self.pendingRequests.lookup id = some .waiting

instance (self : Transport ι β) (id : ι) : Decidable (self.Waits id) :=
  inferInstanceAs (Decidable (_ = _))

/-- Entries are taken out, and a call receives what is for a waiting request. -/
structure Transport.Advances (before after : Transport ι β) : Prop where
  resolved : before.resolved <+: after.resolved
  waits : ∀ {id}, after.Waits id → before.Waits id
  removed : ∀ {id}, before.pendingRequests.lookup id = none → after.pendingRequests.lookup id = none
  since : ∀ {id message}, (id, message) ∈ after.since before →
    before.Waits id ∧ after.pendingRequests.lookup id = none

theorem Transport.Advances.refl (self : Transport ι β) : self.Advances self := by
  refine ⟨List.prefix_rfl, fun hid => hid, fun hid => hid, ?_⟩
  intro id message hmem
  rw [since_self] at hmem
  cases hmem

theorem Transport.Advances.trans {first second third : Transport ι β}
    (hfirst : first.Advances second) (hsecond : second.Advances third) : first.Advances third := by
  refine ⟨hfirst.resolved.trans hsecond.resolved, fun hid => hfirst.waits (hsecond.waits hid),
    fun hid => hsecond.removed (hfirst.removed hid), ?_⟩
  intro id message hmem
  rw [since_trans hfirst.resolved hsecond.resolved, mem_append] at hmem
  rcases hmem with hold | hnew
  · obtain ⟨hwaits, hnone⟩ := hfirst.since hold
    exact ⟨hwaits, hsecond.removed hnone⟩
  · obtain ⟨hwaits, hnone⟩ := hsecond.since hnew
    exact ⟨hfirst.waits hwaits, hnone⟩

theorem lookup_erase_cases (pending : AList fun _ : ι => Waiter) (id other : ι) :
    (other = id ∧ (pending.erase id).lookup other = none) ∨
      (other ≠ id ∧ (pending.erase id).lookup other = pending.lookup other) := by
  by_cases heq : other = id
  · subst heq
    exact .inl ⟨rfl, AList.lookup_erase _ _⟩
  · exact .inr ⟨heq, AList.lookup_erase_ne heq⟩

variable {id : ι}

theorem Transport.erase_advances (self : Transport ι β) {new : List (ι × ClientMessage ι β)}
    (hnew : ∀ pair ∈ new, pair.1 = id ∧ self.Waits id) :
    self.Advances { self with
      pendingRequests := self.pendingRequests.erase id
      resolved := self.resolved ++ new } := by
  refine ⟨List.prefix_append .., ?_, ?_, ?_⟩
  · intro other hother
    rcases lookup_erase_cases self.pendingRequests id other with
      ⟨-, hnone⟩ | ⟨-, hsame⟩
    · rw [Waits, hnone] at hother
      cases hother
    · exact hsame.symm.trans hother
  · intro other hother
    rcases lookup_erase_cases self.pendingRequests id other with
      ⟨-, hnone⟩ | ⟨-, hsame⟩
    · exact hnone
    · exact hsame.trans hother
  · intro other message hmem
    rw [Transport.since, drop_left] at hmem
    obtain ⟨rfl, hwaits⟩ := hnew _ hmem
    exact ⟨hwaits, AList.lookup_erase _ _⟩

theorem Transport.resolve_advances (self : Transport ι β) (id : ι) (message : ClientMessage ι β) :
    self.Advances (self.resolve id message : Except (SdkError ι β ε) _ × Transport ι β).2 := by
  unfold resolve
  split
  · next hwaits =>
    apply self.erase_advances
    intro pair hpair
    rw [mem_singleton] at hpair
    exact ⟨congrArg Prod.fst hpair, hwaits⟩
  · simpa using self.erase_advances (forall_mem_nil _)
  · exact Advances.refl self

variable {self : Runtime ι β ε} {message : ClientMessage ι β}

theorem Runtime.handleMessage_of_not_accepts (hmessage : self.accepts message = false)
    (transport : Transport ι β) :
    ∃ error, self.handleMessage transport message = (.error error, transport) := by
  cases message with
  | request id params =>
    rw [accepts, Bool.or_eq_false_iff] at hmessage
    rw [handleMessage]
    cases hresult : self.handleRequest id params with
    | ok result =>
      rw [hresult] at hmessage
      cases hmessage.1
    | error error => exact ⟨.handler error, by simp [hmessage.2]⟩
  | notification params =>
    rw [accepts] at hmessage
    rw [handleMessage]
    cases hresult : self.handleNotification params with
    | ok result =>
      rw [hresult] at hmessage
      cases hmessage
    | error error => exact ⟨.handler error, rfl⟩
  | response id result => cases hmessage
  | error id error =>
    rw [accepts] at hmessage
    cases hresult : self.handleError error with
    | ok result =>
      rw [hresult] at hmessage
      cases hmessage
    | error failure =>
      exact ⟨.handler failure, by simp [handleMessage, hresult]⟩

theorem Runtime.handleMessage_of_accepts
    (hmessage : self.accepts message = true) (transport : Transport ι β) :
    (∃ id, message.answers = some id ∧
        self.handleMessage transport message = transport.resolve id message) ∨
      (message.answers = none ∧ ∃ reply,
        self.handleMessage transport message = (.ok reply, transport)) := by
  cases message with
  | request id params =>
    refine .inr ⟨rfl, ?_⟩
    rw [accepts, Bool.or_eq_true] at hmessage
    rw [handleMessage]
    cases hresult : self.handleRequest id params with
    | ok result => exact ⟨_, rfl⟩
    | error error =>
      rw [hresult] at hmessage
      rcases hmessage with hok | hinitialized
      · cases hok
      · exact ⟨some (.error id error), by simp [hinitialized]⟩
  | notification params =>
    refine .inr ⟨rfl, ?_⟩
    rw [accepts] at hmessage
    rw [handleMessage]
    cases hresult : self.handleNotification params with
    | ok result => exact ⟨_, rfl⟩
    | error error =>
      rw [hresult] at hmessage
      cases hmessage
  | response id result => exact .inl ⟨id, rfl, rfl⟩
  | error answered error =>
    rw [accepts] at hmessage
    cases hresult : self.handleError error with
    | error failure =>
      rw [hresult] at hmessage
      cases hmessage
    | ok result =>
      cases answered with
      | none => exact .inr ⟨rfl, none, by simp [handleMessage, hresult]⟩
      | some id => exact .inl ⟨id, rfl, by simp [handleMessage, hresult]⟩

variable {transport : Transport ι β}

/-- After the initialization a request has one reply, and nothing else any. -/
theorem Runtime.handleMessage_reply {reply : Option (ServerMessage ι β ε)}
    (hreply : (self.handleMessage transport message).1 = .ok reply) :
    reply.map ServerMessage.requestId = message.requestId := by
  have hresolve : ∀ {id reply}, (transport.resolve id message :
      Except (SdkError ι β ε) _ × Transport ι β).1 = .ok reply →
        reply = none := by
    intro id reply hreply
    unfold Transport.resolve at hreply
    split at hreply
    · exact (Except.ok.inj hreply).symm
    · cases hreply
    · exact (Except.ok.inj hreply).symm
  cases message with
  | request id params =>
    simp only [handleMessage] at hreply
    split at hreply
    · cases hreply
      rfl
    · split at hreply
      · cases hreply
        rfl
      · cases hreply
  | notification params =>
    simp only [handleMessage] at hreply
    split at hreply
    · cases hreply
      rfl
    · cases hreply
  | response id result =>
    cases hresolve hreply
    rfl
  | error answered error =>
    simp only [handleMessage] at hreply
    split at hreply
    · cases hreply
    · cases answered with
      | none =>
        cases hreply
        rfl
      | some id =>
        cases hresolve hreply
        rfl

theorem Runtime.handleMessage_snd_cases (self : Runtime ι β ε)
    (transport : Transport ι β) (message : ClientMessage ι β) :
    (self.handleMessage transport message).2 = transport ∨
      ∃ id, (self.handleMessage transport message).2 =
        (transport.resolve id message : Except (SdkError ι β ε) _ × _).2 := by
  cases haccepts : self.accepts message with
  | false =>
    obtain ⟨error, hfails⟩ := handleMessage_of_not_accepts haccepts transport
    rw [hfails]
    exact .inl rfl
  | true =>
    rcases handleMessage_of_accepts haccepts transport with
      ⟨id, -, hresolve⟩ | ⟨-, reply, hreply⟩
    · rw [hresolve]
      exact .inr ⟨id, rfl⟩
    · rw [hreply]
      exact .inl rfl

theorem Runtime.handleMessage_advances (self : Runtime ι β ε)
    (transport : Transport ι β) (message : ClientMessage ι β) :
    transport.Advances (self.handleMessage transport message).2 := by
  rcases self.handleMessage_snd_cases transport message with
    hsame | ⟨id, hresolve⟩
  · rw [hsame]
    exact .refl transport
  · rw [hresolve]
    exact transport.resolve_advances id message

theorem Runtime.tryJoinAll_cons_of_error {next : Transport ι β} {error : SdkError ι β ε}
    (hhandled : self.handleMessage transport message = (.error error, next))
    (messages : List (ClientMessage ι β)) :
    (self.tryJoinAll transport (message :: messages)).2 = next := by
  rw [tryJoinAll, hhandled]

theorem Runtime.tryJoinAll_cons_of_ok {next : Transport ι β} {reply : Option (ServerMessage ι β ε)}
    (hhandled : self.handleMessage transport message = (.ok reply, next))
    (messages : List (ClientMessage ι β)) :
    (self.tryJoinAll transport (message :: messages)).2 = (self.tryJoinAll next messages).2 := by
  rw [tryJoinAll, hhandled]

theorem Runtime.handleMessages_snd (self : Runtime ι β ε) (transport : Transport ι β)
    (messages : ClientMessages ι β) :
    (self.handleMessages transport messages).2 = (self.tryJoinAll transport messages.toList).2 := by
  cases messages with
  | batch messages => rfl
  | single message =>
    rw [handleMessages, ClientMessages.toList]
    rcases hhandled : self.handleMessage transport message with
      ⟨error | reply, next⟩
    · rw [tryJoinAll_cons_of_error hhandled]
    · rw [tryJoinAll_cons_of_ok hhandled]
      rfl

section Related

variable {self : Runtime ι β ε} {related : Transport ι β → Transport ι β → Prop}

theorem Runtime.tryJoinAll_related (hrefl : ∀ transport, related transport transport)
    (htrans : ∀ {first second third}, related first second → related second third →
      related first third)
    (hmessage : ∀ transport message, related transport (self.handleMessage transport message).2)
    (transport : Transport ι β) (messages : List (ClientMessage ι β)) :
    related transport (self.tryJoinAll transport messages).2 := by
  induction messages generalizing transport with
  | nil => exact hrefl transport
  | cons message messages ih =>
    have hfirst := hmessage transport message
    rcases hhandled : self.handleMessage transport message with
      ⟨error | reply, next⟩
    · rw [hhandled] at hfirst
      rw [tryJoinAll_cons_of_error hhandled]
      exact hfirst
    · rw [hhandled] at hfirst
      rw [tryJoinAll_cons_of_ok hhandled]
      exact htrans hfirst (ih next)

theorem Runtime.handleAll_related (hrefl : ∀ transport, related transport transport)
    (htrans : ∀ {first second third}, related first second → related second third →
      related first third)
    (hmessage : ∀ transport message, related transport (self.handleMessage transport message).2)
    (transport : Transport ι β) (tasks : List (ClientMessages ι β)) :
    related transport (self.handleAll transport tasks) := by
  induction tasks generalizing transport with
  | nil => exact hrefl transport
  | cons messages tasks ih =>
    have hfirst := tryJoinAll_related hrefl htrans hmessage transport messages.toList
    rw [← self.handleMessages_snd transport messages] at hfirst
    exact htrans hfirst (ih _)

end Related

theorem Runtime.tryJoinAll_advances (self : Runtime ι β ε)
    (transport : Transport ι β) (messages : List (ClientMessage ι β)) :
    transport.Advances (self.tryJoinAll transport messages).2 :=
  tryJoinAll_related Transport.Advances.refl Transport.Advances.trans
    self.handleMessage_advances transport messages

theorem Runtime.handleAll_advances (self : Runtime ι β ε) (transport : Transport ι β)
    (tasks : List (ClientMessages ι β)) : transport.Advances (self.handleAll transport tasks) :=
  handleAll_related Transport.Advances.refl Transport.Advances.trans
    self.handleMessage_advances transport tasks

theorem Runtime.handleMessage_isShutDown (self : Runtime ι β ε) (transport : Transport ι β)
    (message : ClientMessage ι β) :
    (self.handleMessage transport message).2.isShutDown = transport.isShutDown := by
  rcases self.handleMessage_snd_cases transport message with
    hsame | ⟨id, hresolve⟩
  · rw [hsame]
  · rw [hresolve, Transport.resolve]
    split
    · rfl
    · rfl
    · rfl

theorem Runtime.handleAll_isShutDown (self : Runtime ι β ε)
    (transport : Transport ι β) (tasks : List (ClientMessages ι β)) :
    (self.handleAll transport tasks).isShutDown = transport.isShutDown :=
  @handleAll_related _ _ _ _ self
    (fun before after => after.isShutDown = before.isShutDown)
    (fun _ => rfl) (fun hfirst hsecond => hsecond.trans hfirst)
    self.handleMessage_isShutDown transport tasks

/-- The message does not end the batch: the handler lets it through, and no
request was given up. -/
def Runtime.Passes (self : Runtime ι β ε) (transport : Transport ι β)
    (message : ClientMessage ι β) : Prop :=
  self.accepts message = true ∧ ∀ id, message.answers = some id →
    transport.pendingRequests.lookup id ≠ some .gone

/-- The response is there, and nothing before it ends the batch or answers its request. -/
def Runtime.Reaches (self : Runtime ι β ε) (transport : Transport ι β) (id : ι)
    (response : ClientMessage ι β) (messages : List (ClientMessage ι β)) : Prop :=
  ∃ earlier later, messages = earlier ++ response :: later ∧
    ∀ message ∈ earlier, self.Passes transport message ∧ message.answers ≠ some id

theorem Runtime.reaches_cons {response : ClientMessage ι β} {messages : List (ClientMessage ι β)} :
    self.Reaches transport id response (message :: messages) ↔
      message = response ∨ ((self.Passes transport message ∧ message.answers ≠ some id) ∧
          self.Reaches transport id response messages) := by
  constructor
  · rintro ⟨earlier, later, hmessages, hearlier⟩
    rcases cons_eq_append_iff.mp hmessages with
      ⟨-, hfirst⟩ | ⟨others, rfl, hothers⟩
    · exact .inl (List.cons.inj hfirst).1.symm
    · obtain ⟨hmessage, hothers'⟩ := forall_mem_cons.mp hearlier
      exact .inr ⟨hmessage, others, later, hothers, hothers'⟩
  · rintro (rfl | ⟨hmessage, earlier, later, rfl, hearlier⟩)
    · exact ⟨[], messages, rfl, forall_mem_nil _⟩
    · exact ⟨message :: earlier, later, rfl, forall_mem_cons.mpr ⟨hmessage, hearlier⟩⟩

theorem Runtime.handleMessage_of_not_passes (hmessage : ¬ self.Passes transport message) :
    ∃ error next, self.handleMessage transport message = (.error error, next) ∧
      next.resolved = transport.resolved := by
  cases haccepts : self.accepts message with
  | false =>
    obtain ⟨error, hfails⟩ := handleMessage_of_not_accepts haccepts transport
    exact ⟨error, transport, hfails, rfl⟩
  | true =>
    have hgone : ∃ id, message.answers = some id ∧
        transport.pendingRequests.lookup id = some .gone := by
      simpa [Passes, haccepts] using hmessage
    obtain ⟨id, hanswers, hgone⟩ := hgone
    rcases handleMessage_of_accepts haccepts transport with
      ⟨other, hother, hresolve⟩ | ⟨hnone, -⟩
    · cases hanswers.symm.trans hother
      rw [Transport.resolve, hgone] at hresolve
      exact ⟨_, _, hresolve, rfl⟩
    · rw [hanswers] at hnone
      cases hnone

theorem Runtime.Passes.handleMessage_cases (hmessage : self.Passes transport message) :
    (∃ reply, self.handleMessage transport message = (.ok reply, transport) ∧
        ∀ id, message.answers = some id → ¬ transport.Waits id) ∨
      ∃ id, message.answers = some id ∧ transport.Waits id ∧ self.handleMessage transport message =
          (.ok none, transport.receive id message) := by
  obtain ⟨haccepts, hgone⟩ := hmessage
  rcases handleMessage_of_accepts haccepts transport with
    ⟨id, hanswers, hresolve⟩ | ⟨hnone, reply, hreply⟩
  · rw [Transport.resolve] at hresolve
    cases hlookup : transport.pendingRequests.lookup id with
    | none =>
      rw [hlookup] at hresolve
      refine .inl ⟨none, hresolve, ?_⟩
      intro other hother
      cases hanswers.symm.trans hother
      simp [Transport.Waits, hlookup]
    | some waiter =>
      rw [hlookup] at hresolve
      cases waiter with
      | waiting => exact .inr ⟨id, hanswers, hlookup, hresolve⟩
      | gone => exact absurd hlookup (hgone id hanswers)
  · refine .inl ⟨reply, hreply, ?_⟩
    intro id hanswers
    rw [hanswers] at hnone
    cases hnone

theorem Runtime.passes_receive_iff (hwaits : transport.Waits id)
    (response message : ClientMessage ι β) :
    self.Passes (transport.receive id response) message ↔ self.Passes transport message := by
  refine and_congr_right fun _ => forall₂_congr fun other _ => not_congr ?_
  rcases lookup_erase_cases transport.pendingRequests id other with
    ⟨rfl, hnone⟩ | ⟨-, hsame⟩
  · rw [Transport.receive, hnone, hwaits]
    simp
  · rw [Transport.receive, hsame]

theorem Runtime.reaches_receive_iff (hwaits : transport.Waits id)
    {received response : ClientMessage ι β} {other : ι} {messages : List (ClientMessage ι β)} :
    self.Reaches (transport.receive id received) other response messages ↔
      self.Reaches transport other response messages := by
  simp only [Reaches, passes_receive_iff hwaits]

theorem Runtime.since_receive_tryJoinAll (self : Runtime ι β ε) (transport : Transport ι β)
    (id : ι) (response : ClientMessage ι β) (messages : List (ClientMessage ι β)) :
    (self.tryJoinAll (transport.receive id response) messages).2.since transport = (id, response) ::
        (self.tryJoinAll (transport.receive id response) messages).2.since
          (transport.receive id response) := by
  have hlater := self.tryJoinAll_advances (transport.receive id response) messages
  have hfirst : transport.resolved <+: (transport.receive id response).resolved :=
    List.prefix_append ..
  rw [Transport.since_trans hfirst hlater.resolved]
  simp [Transport.since, Transport.receive]

theorem Runtime.not_mem_since_receive (self : Runtime ι β ε) (transport : Transport ι β) (id : ι)
    (response later : ClientMessage ι β) (messages : List (ClientMessage ι β)) :
    (id, later) ∉ (self.tryJoinAll (transport.receive id response) messages).2.since
        (transport.receive id response) := by
  intro hmem
  have hagain := ((self.tryJoinAll_advances _ _).since hmem).1
  rw [Transport.Waits, Transport.receive, AList.lookup_erase] at hagain
  cases hagain

variable {response : ClientMessage ι β}

/-- Exactly when a batch gives a call that waits this response. -/
theorem Runtime.tryJoinAll_resolves_iff {id : ι} (hwaits : transport.Waits id)
    (hanswers : response.answers = some id) (messages : List (ClientMessage ι β)) :
    (id, response) ∈ (self.tryJoinAll transport messages).2.since transport ↔
      self.accepts response = true ∧ self.Reaches transport id response messages := by
  induction messages generalizing transport with
  | nil => simp [tryJoinAll, Transport.since_self, Reaches]
  | cons message messages ih =>
    rw [reaches_cons]
    by_cases hpasses : self.Passes transport message
    · rcases hpasses.handleMessage_cases with
        ⟨reply, hhandled, hother⟩ | ⟨answered, hanswered, hwaited, hhandled⟩
      · have hmessage : message.answers ≠ some id := fun heq =>
          hother id heq hwaits
        have hresponse : message ≠ response := fun heq =>
          hmessage (heq ▸ hanswers)
        rw [tryJoinAll_cons_of_ok hhandled, ih hwaits]
        simp [hpasses, hmessage, hresponse]
      · rw [tryJoinAll_cons_of_ok hhandled, since_receive_tryJoinAll, mem_cons, Prod.mk.injEq]
        by_cases hsame : answered = id
        · -- the request is answered now, and by nothing that follows
          subst hsame
          have hnever := self.not_mem_since_receive transport answered message response messages
          have haccepts : message = response →
              self.accepts response = true := fun heq => heq ▸ hpasses.1
          simp only [hnever, or_false, true_and, hanswered, ne_eq,
            not_true_eq_false, and_false, false_and]
          exact ⟨fun heq => ⟨haccepts heq.symm, heq.symm⟩, fun hlater => hlater.2.symm⟩
        · have hnext : (transport.receive answered message).Waits id := by
            rw [Transport.Waits, Transport.receive, AList.lookup_erase_ne (Ne.symm hsame)]
            exact hwaits
          have hmessage : message.answers ≠ some id := by
            rw [hanswered]
            simpa using hsame
          have hresponse : message ≠ response := fun heq =>
            hmessage (heq ▸ hanswers)
          rw [ih hnext, reaches_receive_iff hwaited]
          simp [hpasses, hmessage, hresponse, Ne.symm hsame]
    · obtain ⟨error, next, hhandled, hsame⟩ := handleMessage_of_not_passes hpasses
      -- the response itself would pass, since its request waits
      have hresponse : self.accepts response = true →
          message ≠ response := by
        rintro haccepts rfl
        refine hpasses ⟨haccepts, ?_⟩
        intro other hother
        cases hanswers.symm.trans hother
        rw [hwaits]
        simp
      rw [tryJoinAll_cons_of_error hhandled, Transport.since, hsame, drop_length]
      simp only [not_mem_nil, false_iff, not_and, not_or]
      exact fun haccepts => ⟨hresponse haccepts, fun hlater _ =>
        hpasses hlater.1⟩

/-- The response is in an item, no earlier item answers its request, and what is
before it lets it through. -/
def Runtime.ReachesIn (self : Runtime ι β ε) (transport : Transport ι β) (id : ι)
    (response : ClientMessage ι β) (tasks : List (ClientMessages ι β)) : Prop :=
  ∃ earlier messages later, tasks = earlier ++ messages :: later ∧
    (self.handleAll transport earlier).Waits id ∧
    self.Reaches (self.handleAll transport earlier) id response messages.toList

theorem Runtime.reachesIn_cons (hwaits : transport.Waits id)
    {messages : ClientMessages ι β} {tasks : List (ClientMessages ι β)} :
    self.ReachesIn transport id response (messages :: tasks) ↔
      self.Reaches transport id response messages.toList ∨
        self.ReachesIn (self.handleMessages transport messages).2 id response tasks := by
  constructor
  · rintro ⟨earlier, item, later, htasks, hwaiting, hreaches⟩
    rcases cons_eq_append_iff.mp htasks with
      ⟨rfl, hfirst⟩ | ⟨others, rfl, hothers⟩
    · cases hfirst
      exact .inl hreaches
    · exact .inr ⟨others, item, later, hothers, hwaiting, hreaches⟩
  · rintro (hreaches | ⟨earlier, item, later, rfl, hwaiting, hreaches⟩)
    · exact ⟨[], messages, tasks, rfl, hwaits, hreaches⟩
    · exact ⟨messages :: earlier, item, later, rfl, hwaiting, hreaches⟩

theorem Runtime.reachesIn_toList (hwaits : transport.Waits id)
    {item : Option (ClientMessages ι β)} :
    self.ReachesIn transport id response item.toList ↔ ∃ messages, item = some messages ∧
        self.Reaches transport id response messages.toList := by
  cases item with
  | none => simp [ReachesIn]
  | some messages =>
    rw [Option.toList_some, reachesIn_cons hwaits]
    simp [ReachesIn]

/-- Exactly when the items give a call that waits this response. -/
theorem Runtime.handleAll_resolves_iff (hwaits : transport.Waits id)
    (hanswers : response.answers = some id) (tasks : List (ClientMessages ι β)) :
    (id, response) ∈ (self.handleAll transport tasks).since transport ↔
      self.accepts response = true ∧ self.ReachesIn transport id response tasks := by
  induction tasks generalizing transport with
  | nil => simp [handleAll, Transport.since_self, ReachesIn]
  | cons messages tasks ih =>
    have hfirst := self.tryJoinAll_advances transport messages.toList
    have hbatch := @tryJoinAll_resolves_iff _ _ _ _ self _ _ _ hwaits hanswers messages.toList
    rw [← self.handleMessages_snd transport messages] at hfirst hbatch
    have hlater := self.handleAll_advances (self.handleMessages transport messages).2 tasks
    have hstart : self.handleAll transport (messages :: tasks) =
        self.handleAll (self.handleMessages transport messages).2 tasks := rfl
    rw [reachesIn_cons hwaits, hstart, Transport.since_trans hfirst.resolved hlater.resolved,
      mem_append, hbatch, and_or_left]
    refine or_congr_right ?_
    by_cases hstill : (self.handleMessages transport messages).2.Waits id
    · exact ih hstill
    · constructor
      · intro hmem
        exact absurd (hlater.since hmem).1 hstill
      · rintro ⟨-, earlier, item, later, -, hwaiting, -⟩
        exact absurd ((self.handleAll_advances _ earlier).waits hwaiting) hstill

end McpSdk.HandleMessage
