/-
What reaches the caller when the response to a POST is an event stream. The
`receive_task` ends after one message.
-/
import McpSdk.PostStream

namespace McpSdk.PostStream

open List SendMessage

universe u v

variable {ι : Type u} {β : Type v}

def eventData (events : List SseEvent) : List Bytes :=
  events.filterMap (·.data)

/-- The reader turns the data of one event into this message. -/
def Reads (client : Client ι β) (data : Bytes) (message : ServerMessage ι β) : Prop :=
  ∃ line text, data = line ++ [newline] ∧ newline ∉ line ∧
    cappedLine client.maxLineLength line = .line text ∧
    client.decode text = some message

/-- The body is an event stream of these messages, one for each event with data. -/
def Carries (client : Client ι β) (body : Bytes) (messages : List (ServerMessage ι β)) : Prop :=
  List.Forall₂ (Reads client)
    (eventData (SseParser.new.processNewChunk body).1) messages

def Answers (id : ι) : ServerMessage ι β → Prop
  | .response answered _ => answered = id
  | .error answered _ => answered = some id
  | _ => False

def accepts (client : Client ι β) : ServerMessage ι β → Bool
  | .error _ error => client.handleError error
  | _ => true

/-- All messages have been handled and the caller has the response. -/
def Complete (messages : List (ServerMessage ι β))
    (response : ServerMessage ι β) (final : State ι β) : Prop :=
  final.handled = messages ∧ final.call.phase = .returned (.ok (some (.single response)))

variable [DecidableEq ι]

theorem resolve_handled (id : ι) (self : State ι β) (answered : Option ι)
    (message : ServerMessage ι β) :
    (resolve id self answered message).handled = self.handled ∧
      (resolve id self answered message).receive = .returned := by
  unfold resolve
  split
  · exact ⟨rfl, rfl⟩
  · exact ⟨rfl, rfl⟩

theorem handleMessage_handled (client : Client ι β) (id : ι)
    (self : State ι β) (message : ServerMessage ι β) :
    (handleMessage client id self message).handled = self.handled ∧
      (handleMessage client id self message).receive ≠ .waiting := by
  cases message with
  | request | notification => exact ⟨rfl, nofun⟩
  | response answered result =>
    have hresolve := resolve_handled id self (some answered) (.response answered result)
    exact ⟨hresolve.1, by simp [handleMessage, hresolve.2]⟩
  | error answered error =>
    have hresolve := resolve_handled id self answered (.error answered error)
    by_cases herror : client.handleError error = true
    · simp [handleMessage, herror, hresolve]
    · simp [handleMessage, herror]

theorem handleMessage_call {client : Client ι β} (id : ι) (self : State ι β)
    {message : ServerMessage ι β} (hrejected : accepts client message = false) :
    (handleMessage client id self message).call = self.call := by
  cases message with
  | request | notification => rfl
  | response answered result => cases hrejected
  | error answered error =>
    change client.handleError error = false at hrejected
    simp [handleMessage, hrejected]

/-- One message is handled, and only one that is accepted answers the call. -/
structure Once (client : Client ι β) (id : ι) (state : State ι β) : Prop where
  waiting : state.receive = .waiting → state.handled = []
  handled : state.handled.length ≤ 1
  answer : Unanswered (message id) state.call ∨ ∃ message ∈ state.handled, accepts client message = true

theorem initial_once (client : Client ι β) (id : ι) (body : List Bytes) :
    Once client id (initial id body : State ι β) := by
  exact ⟨fun _ => rfl, Nat.zero_le 1, .inl ⟨nofun, nofun, by simp [initial, SendMessage.initial,
    registersFirst, message]⟩⟩

theorem Once.call {client : Client ι β} {id : ι} {self : State ι β}
    {call : SendMessage.State ι (ServerMessage ι β)}
    {action : SendMessage.Action ι (ServerMessage ι β)} (hself : Once client id self) (post : Post)
    (haction : ∀ id response, action ≠ .respond id response)
    (hcall : SendMessage.step .client (message id) self.call action = some call) :
    Once client id { self with call, post } := by
  refine ⟨hself.waiting, hself.handled, ?_⟩
  rcases hself.answer with hanswer | haccepted
  · exact .inl (hanswer.step haction hcall)
  · exact .inr haccepted

/-- A step keeps it at one handled message. -/
theorem Once.step {client : Client ι β} {id : ι} {self next : State ι β} {action : Action}
    (hself : Once client id self) (hstep : PostStream.step client id self action = some next) :
    Once client id next := by
  cases step_cases hstep with
  | @call action own call haction hcall =>
    have hown : ∀ id response, own ≠ .respond id response := by
      rintro other response rfl
      cases action <;> simp [callAction] at haction
    exact hself.call self.post hown hcall
  | post hpost hcall => exact hself.call .running (by simp) hcall
  | ackOk hpost hcall | ackError hpost hcall | timeout hquiet hcall =>
    exact hself.call self.post (by simp) hcall
  | @receive message stream hreceive hopen hstream =>
    have hhandled := handleMessage_handled client id
      { self with stream, handled := self.handled ++ [message] } message
    have hempty := hself.waiting hreceive
    refine ⟨fun hwaiting => absurd hwaiting hhandled.2, ?_, ?_⟩
    · rw [hhandled.1, hempty]
      simp
    · rw [hhandled.1]
      cases haccepts : accepts client message with
      | true => exact .inr ⟨message, by simp, haccepts⟩
      | false =>
        rw [handleMessage_call id _ haccepts]
        rcases hself.answer with hanswer | ⟨other, hother, hok⟩
        · exact .inl hanswer
        · exact .inr ⟨other, mem_append_left _ hother, hok⟩
  | streamEnds hpost hevents hreceived hbody =>
    unfold endOfStream
    split
    · split
      · exact ⟨hself.waiting, hself.handled, hself.answer⟩
      · exact ⟨hself.waiting, hself.handled, hself.answer⟩
    · exact ⟨hself.waiting, hself.handled, hself.answer⟩
  | streamClosed hreceive hopen hstream hreader =>
    exact ⟨nofun, hself.handled, hself.answer⟩
  | reply hreceive hpost => exact ⟨nofun, hself.handled, hself.answer⟩
  | chunk | eventData | eventNoData | runReturns | readItem | readRest | readEof
  | readDropped | readMessage =>
    exact ⟨hself.waiting, hself.handled, hself.answer⟩

end McpSdk.PostStream
