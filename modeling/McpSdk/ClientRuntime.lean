/-
How the client handles messages, beside how the server does. In both a response
goes to the call that waits for it, an error response only after `handle_error`.
-/
import McpSdk.HandleMessage
import McpSdk.PostStream

namespace McpSdk.ClientRuntime

open HandleMessage (Waiter)
open PostStream (ServerMessage)

universe u v w

variable {ι : Type u} {β : Type v} {ε : Type w}

inductive ClientMessage (ι : Type u) (β : Type v) (ε : Type w) where
  | response (id : ι) (result : β)
  | error (id : ι) (error : ε)
deriving Repr, DecidableEq

structure Transport (ι : Type u) (β : Type v) where
  pendingRequests : AList fun _ : ι => Waiter
  /-- The responses that calls have received, with the ids of their requests;
  the latest is the last. -/
  resolved : List (ι × ServerMessage ι β)

structure Runtime (ι : Type u) (β : Type v) (ε : Type w) where
  handleRequest : ι → β → Except ε β
  handleNotification : β → Except ε Unit
  handleError : β → Except ε Unit

inductive SdkError (ι : Type u) (β : Type v) (ε : Type w) where
  | handler (error : ε)
  /-- Nobody waits for the message any more. -/
  | unsent (message : ServerMessage ι β)
deriving Repr, DecidableEq

def answers : ServerMessage ι β → Option ι
  | .response id _ => some id
  | .error id _ => id
  | _ => none

/-- The responses that calls have received since an earlier state. -/
def Transport.since (self earlier : Transport ι β) : List (ι × ServerMessage ι β) :=
  self.resolved.drop earlier.resolved.length

variable [DecidableEq ι]

/-- `pending_request_tx` takes the entry, and its receiver gets the message. -/
def Transport.resolve (self : Transport ι β) (id : ι) (message : ServerMessage ι β) :
    Except (SdkError ι β ε) (Option (ClientMessage ι β ε)) × Transport ι β :=
  match self.pendingRequests.lookup id with
  | some .waiting =>
    (.ok none, { self with
      pendingRequests := self.pendingRequests.erase id
      resolved := self.resolved ++ [(id, message)] })
  | some .gone =>
    (.error (.unsent message), { self with
      pendingRequests := self.pendingRequests.erase id })
  | none => (.ok none, self)

/-- The client answers every request, also one that its handler refuses. -/
def Runtime.handleMessage (self : Runtime ι β ε) (transport : Transport ι β)
    (message : ServerMessage ι β) :
    Except (SdkError ι β ε) (Option (ClientMessage ι β ε)) × Transport ι β :=
  match message with
  | .request id params =>
    match self.handleRequest id params with
    | .ok result => (.ok (some (.response id result)), transport)
    | .error error => (.ok (some (.error id error)), transport)
  | .notification params =>
    match self.handleNotification params with
    | .ok _ => (.ok none, transport)
    | .error error => (.error (.handler error), transport)
  | .error id error =>
    match self.handleError error with
    | .error failure => (.error (.handler failure), transport)
    | .ok _ =>
      match id with
      | some id => transport.resolve id message
      | none => (.ok none, transport)
  | .response id _ => transport.resolve id message

/-- The entry is gone, and a call that waited has received the message. -/
def Resolved {μ : Type v} (id : ι) (waiter : Waiter) (message : μ)
    (pendingRequests : AList fun _ : ι => Waiter) (received : List (ι × μ)) : Prop :=
  pendingRequests.lookup id = none ∧ (waiter = .waiting → received = [(id, message)])

variable {waiter : Waiter}

theorem not_resolved {μ : Type v} {id : ι} {message : μ}
    {pendingRequests : AList fun _ : ι => Waiter} {received : List (ι × μ)}
    (hwaiter : pendingRequests.lookup id = some waiter) :
    ¬ Resolved id waiter message pendingRequests received := by
  rintro ⟨hnone, -⟩
  rw [hwaiter] at hnone
  cases hnone

theorem serverResolve_resolved {session : HandleMessage.Transport ι β} {id : ι}
    (hwaiter : session.pendingRequests.lookup id = some waiter)
    (message : HandleMessage.ClientMessage ι β) {next : HandleMessage.Transport ι β}
    (hnext : next = (session.resolve id message : Except (HandleMessage.SdkError ι β ε) _ × _).2) :
    Resolved id waiter message next.pendingRequests (next.since session) := by
  subst hnext
  cases waiter with
  | waiting =>
    simp [Resolved, HandleMessage.Transport.resolve, hwaiter,
      HandleMessage.Transport.receive, HandleMessage.Transport.since]
  | gone => simp [Resolved, HandleMessage.Transport.resolve, hwaiter]

theorem resolve_resolved {transport : Transport ι β} {id : ι}
    (hwaiter : transport.pendingRequests.lookup id = some waiter)
    (message : ServerMessage ι β) {next : Transport ι β}
    (hnext : next = (transport.resolve id message : Except (SdkError ι β ε) _ × _).2) :
    Resolved id waiter message next.pendingRequests (next.since transport) := by
  subst hnext
  cases waiter with
  | waiting => simp [Resolved, Transport.resolve, hwaiter, Transport.since]
  | gone => simp [Resolved, Transport.resolve, hwaiter]

theorem serverHandleMessage_resolved_iff (server : HandleMessage.Runtime ι β ε)
    {session : HandleMessage.Transport ι β} {id : ι} {message : HandleMessage.ClientMessage ι β}
    (hwaiter : session.pendingRequests.lookup id = some waiter)
    (hanswers : message.answers = some id) {next : HandleMessage.Transport ι β}
    (hnext : next = (server.handleMessage session message).2) :
    Resolved id waiter message next.pendingRequests (next.since session) ↔
      ∀ error, message = .error (some id) error → (server.handleError error).isOk = true := by
  cases message with
  | request | notification => cases hanswers
  | response _ _ =>
    cases hanswers
    exact iff_of_true (serverResolve_resolved hwaiter _ hnext) nofun
  | error answered error =>
    cases hanswers
    simp only [HandleMessage.ClientMessage.error.injEq, true_and, forall_eq']
    rw [HandleMessage.Runtime.handleMessage] at hnext
    cases hhandled : server.handleError error with
    | ok _ =>
      rw [hhandled] at hnext
      exact iff_of_true (serverResolve_resolved hwaiter _ hnext) rfl
    | error failure =>
      rw [hhandled] at hnext
      subst hnext
      exact iff_of_false (not_resolved hwaiter) Bool.noConfusion

theorem handleMessage_resolved_iff (client : Runtime ι β ε) {transport : Transport ι β} {id : ι}
    {message : ServerMessage ι β} (hwaiter : transport.pendingRequests.lookup id = some waiter)
    (hanswers : answers message = some id) {next : Transport ι β}
    (hnext : next = (client.handleMessage transport message).2) :
    Resolved id waiter message next.pendingRequests (next.since transport) ↔
      ∀ error, message = .error (some id) error → (client.handleError error).isOk = true := by
  cases message with
  | request | notification => cases hanswers
  | response _ _ =>
    cases hanswers
    exact iff_of_true (resolve_resolved hwaiter _ hnext) nofun
  | error answered error =>
    cases hanswers
    simp only [ServerMessage.error.injEq, true_and, forall_eq']
    rw [Runtime.handleMessage] at hnext
    cases hhandled : client.handleError error with
    | ok _ =>
      rw [hhandled] at hnext
      exact iff_of_true (resolve_resolved hwaiter _ hnext) rfl
    | error failure =>
      rw [hhandled] at hnext
      subst hnext
      exact iff_of_false (not_resolved hwaiter) Bool.noConfusion

/-- In both runtimes a response to a pending request resolves it exactly when it
is a result or the handler returns Ok for it. -/
theorem handleMessage_resolves_iff {id : ι} {waiter : Waiter} (server : HandleMessage.Runtime ι β ε)
    {session : HandleMessage.Transport ι β} {fromClient : HandleMessage.ClientMessage ι β}
    (hsession : session.pendingRequests.lookup id = some waiter)
    (hfromClient : fromClient.answers = some id) (client : Runtime ι β ε)
    {transport : Transport ι β} {fromServer : ServerMessage ι β}
    (htransport : transport.pendingRequests.lookup id = some waiter)
    (hfromServer : answers fromServer = some id) :
    (Resolved id waiter fromClient (server.handleMessage session fromClient).2.pendingRequests
        ((server.handleMessage session fromClient).2.since session) ↔
      ∀ error, fromClient = .error (some id) error → (server.handleError error).isOk = true) ∧
    (Resolved id waiter fromServer (client.handleMessage transport fromServer).2.pendingRequests
        ((client.handleMessage transport fromServer).2.since transport) ↔
      ∀ error, fromServer = .error (some id) error → (client.handleError error).isOk = true) :=
  ⟨serverHandleMessage_resolved_iff server hsession hfromClient rfl,
    handleMessage_resolved_iff client htransport hfromServer rfl⟩

namespace ClientRuntimeWitness

def server : HandleMessage.Runtime Nat Unit Unit :=
  ⟨fun _ _ => .ok (), fun _ => .ok (), fun _ => .error (), true⟩

def client : Runtime Nat Unit Unit :=
  ⟨fun _ _ => .ok (), fun _ => .ok (), fun _ => .error ()⟩

def session : HandleMessage.Transport Nat Unit :=
  ⟨AList.singleton 1 .waiting, false, []⟩

def transport : Transport Nat Unit :=
  ⟨AList.singleton 1 .waiting, []⟩

theorem result_resolves :
    Resolved 1 .waiting (.response 1 ())
        (server.handleMessage session (.response 1 ())).2.pendingRequests
        ((server.handleMessage session (.response 1 ())).2.since session) ∧
      Resolved 1 .waiting (.response 1 ())
        (client.handleMessage transport (.response 1 ())).2.pendingRequests
        ((client.handleMessage transport (.response 1 ())).2.since transport) := by
  have hboth := @handleMessage_resolves_iff _ _ _ _ 1 .waiting server session
    (.response 1 ()) rfl rfl client transport (.response 1 ()) rfl rfl
  exact ⟨hboth.1.mpr nofun, hboth.2.mpr nofun⟩

/-- A refused error response leaves the entry, and the call goes on waiting. -/
theorem error_not_resolves :
    ((server.handleMessage session (.error (some 1) ())).1 = .error (.handler ()) ∧
      (server.handleMessage session (.error (some 1) ())).2 = session ∧ session.Waits 1) ∧
    ((client.handleMessage transport (.error (some 1) ())).1 = .error (.handler ()) ∧
      (client.handleMessage transport (.error (some 1) ())).2 = transport ∧
      transport.pendingRequests.lookup 1 = some .waiting) :=
  ⟨⟨rfl, rfl, rfl⟩, ⟨rfl, rfl, rfl⟩⟩

end ClientRuntimeWitness

end McpSdk.ClientRuntime
