/-
The end of a server process that a client has launched. One task reads its
lines, the loop handles the messages, and a third task clears the map of pending
requests after the exit, perhaps while a response is on its way.
-/
import McpSdk.ClientRuntime
import McpSdk.PendingCalls
import McpSdk.ReaderTask

namespace McpSdk.ProcessExit

open List Option ClientRuntime ReaderTask
open ClientRuntime (SdkError ClientMessage)
open HandleMessage (Waiter)
open PendingCalls (Call Dispatcher Op)
open PostStream (ServerMessage)
open SendMessage (TransportError)
open StartStream (ServerMessages)

universe u v w

variable {ι : Type u} {β : Type v} {ε : Type w}

/-- The user's handler, and what the reader and its channel are given. -/
structure Client (ι : Type u) (β : Type v) (ε : Type w) where
  runtime : Runtime ι β ε
  task : ReaderTask.Task (ServerMessages ι β)
  channelCapacity : Nat
  /-- `mpsc::channel` panics without room for a message. -/
  channelCapacity_pos : 0 < channelCapacity

inductive Loop (ι : Type u) (β : Type v) where
  | idle
  /-- The messages of one item that are not handled yet, and whether there is
  something to send back. -/
  | handling (messages : List (ServerMessage ι β)) (batch reply : Bool)
  | replying
  | ended

/-- The dispatcher, the lines on their way, and the process. -/
structure State (ι : Type u) (β : Type v) where
  dispatcher : Dispatcher ι (ServerMessage ι β)
  exited : Bool
  /-- The task that waits for the process is over. -/
  cleared : Bool
  /-- The reader; `sent` is what the channel holds. -/
  reader : ReaderTask.State (ServerMessages ι β)
  loop : Loop ι β

/-- A step of a call, of the reader, of the loop, or of the exit. -/
inductive Action (ι : Type u) (β : Type v) where
  /-- A step of one of the calls of `send_message`. -/
  | call (op : Op ι (ServerMessage ι β))
  | write (chunk : Bytes)
  | exit
  | clear
  | reader (action : ReaderTask.Action)
  | next
  /-- `handle_message` comes to its end for one of the messages. -/
  | handle (index : Nat)
  | handled
  | replied
  | replyFails

def isBatch : ServerMessages ι β → Bool
  | .single _ => false
  | .batch _ => true

def Loop.messages : Loop ι β → List (ServerMessage ι β)
  | .handling messages _ _ => messages
  | _ => []

def passed (self : State ι β) : List (ServerMessage ι β) :=
  self.loop.messages ++ self.reader.sent.flatMap ServerMessages.toList

def isCall : Op ι (ServerMessage ι β) → Bool
  | .respond _ _ | .clear => false
  | _ => true

/-- The reader waits for room, and fails when the stream was dropped. -/
def channelAllows (client : Client ι β ε) (self : State ι β) :
    ReaderTask.Action → Bool
  | .sent =>
    self.reader.sent.length < client.channelCapacity &&
      match self.loop with
      | .ended => false
      | _ => true
  | .sendFails =>
    match self.loop with
    | .ended => true
    | _ => false
  | _ => true

/-- A single failure is logged; a batch is given up with the first. -/
def afterMessage (index : Nat) (messages : List (ServerMessage ι β))
    (batch reply : Bool) :
    Except (SdkError ι β ε) (Option (ClientMessage ι β ε)) → Loop ι β
  | .ok answer =>
    .handling (messages.eraseIdx index) batch (reply || answer.isSome)
  | .error _ =>
    if batch then .ended else .handling (messages.eraseIdx index) batch reply

/-- The id under which `handle_message` looks for the call. -/
def resolves (runtime : Runtime ι β ε) :
    ServerMessage ι β → Option ι
  | .response id _ => some id
  | .error id error => if (runtime.handleError error).isOk then id else none
  | _ => none

def waiter (self : Dispatcher ι (ServerMessage ι β)) (call : Nat) : Waiter :=
  if self.calls[call]?.any Call.isOpen then .waiting else .gone

/-- The map as `handle_message` sees it. -/
def transport (self : Dispatcher ι (ServerMessage ι β)) : Transport ι β where
  pendingRequests :=
    ⟨self.pendingRequests.entries.map fun entry => ⟨entry.1, waiter self entry.2⟩,
      List.NodupKeys.map₂ (fun _ => waiter self) _ self.pendingRequests.nodupKeys⟩
  resolved := []

def itemWork (messages : ServerMessages ι β) : Nat :=
  messages.toList.length + 3

def Loop.work : Loop ι β → Nat
  | .idle => 1
  | .handling messages _ _ => messages.length + 3
  | .replying => 2
  | .ended => 0

def callWork (call : Call ι (ServerMessage ι β)) : Nat :=
  match call.phase with
  | .waiting => 1
  | _ => 0

/-- Every item that the reader is still to send counts, unless it is over. -/
def items (client : Client ι β ε) (self : State ι β) : List (ServerMessages ι β) :=
  self.reader.sent ++
    if self.reader.phase.isOver then []
    else upcoming client.task self.exited self.reader

def work (client : Client ι β ε) (self : State ι β) : Nat :=
  CallList.total callWork self.dispatcher.calls + self.loop.work +
    CallList.total itemWork (items client self) +
    remaining client.task self.exited self.reader

theorem callWork_send (message : ServerMessage ι β) (call : Call ι (ServerMessage ι β)) :
    callWork (call.send message) = callWork call := by
  unfold Call.send
  split
  · rfl
  · rfl

theorem afterMessage_work {index : Nat} {messages : List (ServerMessage ι β)}
    {message : ServerMessage ι β} (hmessage : messages[index]? = some message)
    (batch reply : Bool) (outcome : Except (SdkError ι β ε) (Option (ClientMessage ι β ε))) :
    (afterMessage index messages batch reply outcome).work <
      (Loop.handling messages batch reply).work := by
  have hlength := List.length_eraseIdx_of_lt (List.getElem?_eq_some_iff.mp hmessage).1
  have hindex := (List.getElem?_eq_some_iff.mp hmessage).1
  cases outcome with
  | ok answer =>
    simp only [afterMessage, Loop.work]
    omega
  | error error =>
    cases batch with
    | true => exact Nat.succ_pos _
    | false =>
      simp only [afterMessage, Bool.false_eq_true, if_false, Loop.work]
      omega

variable {client : Client ι β ε} {state next : State ι β}

theorem work_lt_of_loop (hcalls : CallList.total callWork next.dispatcher.calls =
      CallList.total callWork state.dispatcher.calls)
    (hreader : next.reader = state.reader) (hexited : next.exited = state.exited)
    (hloop : next.loop.work < state.loop.work) : work client next < work client state := by
  rw [work, work, items, items, hcalls, hreader, hexited]
  omega

variable [DecidableEq ι]

/-- `handle_message` of the runtime, where an entry leads to a call. -/
def handleMessage (runtime : Runtime ι β ε) (self : Dispatcher ι (ServerMessage ι β))
    (message : ServerMessage ι β) :
    Except (SdkError ι β ε) (Option (ClientMessage ι β ε)) × Dispatcher ι (ServerMessage ι β) :=
  ((runtime.handleMessage (transport self) message).1,
    match resolves runtime message with
    | some id => self.respond id message
    | none => self)

theorem transport_lookup (self : Dispatcher ι (ServerMessage ι β)) (id : ι) :
    (transport self).pendingRequests.lookup id =
      (self.pendingRequests.lookup id).map (waiter self) :=
  @List.dlookup_map₂ _ _ (fun _ => Nat) (fun _ => Waiter)
    self.pendingRequests.entries (fun _ => waiter self) id

theorem handleMessage_isOk {runtime : Runtime ι β ε} {self : Dispatcher ι (ServerMessage ι β)}
    {message : ServerMessage ι β} {id : ι} {index : Nat} (hwaits : Dispatcher.Waits id index self)
    (hresolves : resolves runtime message = some id) :
    (handleMessage runtime self message).1 = .ok none := by
  have hwaiter : (transport self).pendingRequests.lookup id = some .waiting := by
    rw [transport_lookup, hwaits.entry]
    simp [waiter, hwaits.call, Call.isOpen]
  cases message with
  | request | notification => cases hresolves
  | response other result =>
    cases hresolves
    simp [handleMessage, Runtime.handleMessage, Transport.resolve, hwaiter]
  | error other error =>
    rw [resolves] at hresolves
    cases hhandled : runtime.handleError error with
    | error failure =>
      rw [hhandled] at hresolves
      cases hresolves
    | ok _ =>
      rw [hhandled] at hresolves
      cases hresolves
      simp [handleMessage, Runtime.handleMessage, hhandled, Transport.resolve, hwaiter]

/-- The process runs, and no request is pending. -/
def initial : State ι β where
  dispatcher := ⟨∅, []⟩
  exited := false
  cleared := false
  reader := spawnReader []
  loop := .idle

/-- One of the tasks takes a step. -/
def step (client : Client ι β ε) (self : State ι β) :
    Action ι β → Option (State ι β)
  | .call op =>
    if isCall op then
      (self.dispatcher.apply op).map fun dispatcher => { self with dispatcher }
    else none
  | .write chunk =>
    if self.exited = false ∧ chunk ≠ [] then
      some { self with reader := { self.reader with unread := self.reader.unread ++ [chunk] } }
    else none
  | .exit =>
    if self.exited = false then some { self with exited := true } else none
  | .clear =>
    if self.exited = true ∧ self.cleared = false then
      (self.dispatcher.apply .clear).map fun dispatcher =>
        { self with dispatcher, cleared := true }
    else none
  | .reader action =>
    if channelAllows client self action then
      (ReaderTask.step client.task self.exited self.reader action).map
        fun reader => { self with reader }
    else none
  | .next =>
    match self.loop, self.reader.sent with
    | .idle, messages :: sent =>
      some { self with
        reader := { self.reader with sent }
        loop := .handling messages.toList (isBatch messages) false }
    | .idle, [] =>
      if self.reader.phase.isOver then some { self with loop := .ended }
      else none
    | _, _ => none
  | .handle index =>
    match self.loop with
    | .handling messages batch reply =>
      messages[index]?.map fun message =>
        let handled := handleMessage client.runtime self.dispatcher message
        { self with
          dispatcher := handled.2
          loop := afterMessage index messages batch reply handled.1 }
    | _ => none
  | .handled =>
    match self.loop with
    | .handling [] _ reply =>
      some { self with loop := if reply then .replying else .idle }
    | _ => none
  | .replied =>
    match self.loop with
    | .replying => some { self with loop := .idle }
    | _ => none
  | .replyFails =>
    match self.loop with
    | .replying => some { self with loop := .ended }
    | _ => none

/-- What a step can do, with its guard. -/
inductive Step (client : Client ι β ε) (state : State ι β) :
    Action ι β → State ι β → Prop
  | call {op dispatcher} (hcall : isCall op = true)
      (hop : state.dispatcher.apply op = some dispatcher) :
      Step client state (.call op) { state with dispatcher }
  | write {chunk} (hrunning : state.exited = false) (hchunk : chunk ≠ []) :
      Step client state (.write chunk) { state with reader :=
        { state.reader with unread := state.reader.unread ++ [chunk] } }
  | exit (hrunning : state.exited = false) :
      Step client state .exit { state with exited := true }
  | clear {dispatcher}
      (hop : state.dispatcher.apply .clear = some dispatcher) :
      Step client state .clear { state with dispatcher, cleared := true }
  | reader {action reader}
      (hread : ReaderTask.step client.task state.exited state.reader action = some reader) :
      Step client state (.reader action) { state with reader }
  | next {messages sent} (hloop : state.loop = .idle)
      (hsent : state.reader.sent = messages :: sent) :
      Step client state .next { state with
        reader := { state.reader with sent }
        loop := .handling messages.toList (isBatch messages) false }
  | nextEnds (hloop : state.loop = .idle) (hsent : state.reader.sent = [])
      (hover : state.reader.phase.isOver = true) :
      Step client state .next { state with loop := .ended }
  | handle {index messages batch reply message}
      (hloop : state.loop = .handling messages batch reply)
      (hmessage : messages[index]? = some message) :
      Step client state (.handle index) { state with
        dispatcher := (handleMessage client.runtime state.dispatcher message).2
        loop := afterMessage index messages batch reply
          (handleMessage client.runtime state.dispatcher message).1 }
  | handled {batch reply} (hloop : state.loop = .handling [] batch reply) :
      Step client state .handled
        { state with loop := if reply then .replying else .idle }
  | replied (hloop : state.loop = .replying) :
      Step client state .replied { state with loop := .idle }
  | replyFails (hloop : state.loop = .replying) :
      Step client state .replyFails { state with loop := .ended }

variable {action : Action ι β}

theorem step_cases (hstep : step client state action = some next) :
    Step client state action next := by
  cases action with
  | call op =>
    obtain ⟨hcall, hstep⟩ := Lts.of_guard hstep
    obtain ⟨dispatcher, hop, rfl⟩ := map_eq_some_iff.mp hstep
    exact .call hcall hop
  | write chunk =>
    obtain ⟨hrunning, ⟨⟩⟩ := Lts.of_guard hstep
    exact .write hrunning.1 hrunning.2
  | exit =>
    obtain ⟨hrunning, ⟨⟩⟩ := Lts.of_guard hstep
    exact .exit hrunning
  | clear =>
    obtain ⟨-, hstep⟩ := Lts.of_guard hstep
    obtain ⟨dispatcher, hop, rfl⟩ := map_eq_some_iff.mp hstep
    exact .clear hop
  | reader action =>
    obtain ⟨-, hstep⟩ := Lts.of_guard hstep
    obtain ⟨reader, hread, rfl⟩ := map_eq_some_iff.mp hstep
    exact .reader hread
  | next =>
    simp only [step] at hstep
    split at hstep
    · next hloop hsent =>
      cases hstep
      exact .next hloop hsent
    · next hloop hsent =>
      obtain ⟨hover, ⟨⟩⟩ := Lts.of_guard hstep
      exact .nextEnds hloop hsent hover
    · cases hstep
  | handle index =>
    simp only [step] at hstep
    split at hstep
    · next hloop =>
      obtain ⟨message, hmessage, rfl⟩ := map_eq_some_iff.mp hstep
      exact .handle hloop hmessage
    · cases hstep
  | handled =>
    simp only [step] at hstep
    split at hstep
    · next hloop =>
      cases hstep
      exact .handled hloop
    · cases hstep
  | replied =>
    simp only [step] at hstep
    split at hstep
    · next hloop =>
      cases hstep
      exact .replied hloop
    · cases hstep
  | replyFails =>
    simp only [step] at hstep
    split at hstep
    · next hloop =>
      cases hstep
      exact .replyFails hloop
    · cases hstep

def opOf (client : Client ι β ε) (self : State ι β) :
    Action ι β → Option (Op ι (ServerMessage ι β))
  | .call op => some op
  | .clear => some .clear
  | .handle index =>
    self.loop.messages[index]?.bind fun message =>
      (resolves client.runtime message).map fun id => .respond id message
  | _ => none

/-- A step uses the dispatcher by one operation at most. -/
theorem step_dispatcher (hstep : Step client state action next) :
    match opOf client state action with
    | some op => state.dispatcher.apply op = some next.dispatcher
    | none => next.dispatcher = state.dispatcher := by
  cases hstep with
  | call hcall hop | clear hop => exact hop
  | handle hloop hmessage =>
    simp only [opOf, hloop, Loop.messages, hmessage, bind_some, handleMessage]
    cases resolves client.runtime _ with
    | some | none => rfl
  | write | exit | reader | next | nextEnds | handled | replied | replyFails =>
    rfl

/-- What holds of the tasks after any run. -/
structure Good (state : State ι β) : Prop where
  linked : Dispatcher.Linked state.dispatcher
  chunks : [] ∉ state.reader.unread

/-- A step keeps the invariant. -/
theorem good_step (hgood : Good state) (hstep : Step client state action next) : Good next := by
  refine ⟨?_, ?_⟩
  · have hop := step_dispatcher hstep
    split at hop
    · exact hgood.linked.apply hop
    · rw [hop]
      exact hgood.linked
  · cases hstep with
    | write hrunning hchunk =>
      simp [hgood.chunks, Ne.symm hchunk]
    | reader hread => exact (step_upcoming hgood.chunks hread).1
    | _ => exact hgood.chunks

theorem initial_good : Good (initial : State ι β) :=
  ⟨nofun, by simp [initial, spawnReader]⟩

/-- The steps that the tasks and the calls take by themselves. -/
def isProgress : Action ι β → Bool
  | .call (.receive _) | .reader .read | .reader .sent => true
  | .next | .handle _ | .handled | .replied => true
  | _ => false

/-- Nothing is left to do until the process or a user does something. -/
def AtRest (client : Client ι β ε) (state : State ι β) : Prop :=
  ∀ action, isProgress action = true → step client state action = none

theorem loop_progress (hrunning : state.loop ≠ .ended)
    (hmore : state.loop = .idle → state.reader.sent ≠ []) : ¬ AtRest client state := by
  intro hrest
  cases hloop : state.loop with
  | idle =>
    obtain ⟨messages, sent, hsent⟩ := exists_cons_of_ne_nil (hmore hloop)
    have hnone := hrest .next rfl
    simp [step, hloop, hsent] at hnone
  | handling messages batch reply =>
    cases messages with
    | nil =>
      have hnone := hrest .handled rfl
      simp [step, hloop] at hnone
    | cons message messages =>
      have hnone := hrest (.handle 0) rfl
      simp [step, hloop] at hnone
  | replying =>
    have hnone := hrest .replied rfl
    simp [step, hloop] at hnone
  | ended => exact hrunning hloop

theorem handleMessage_callWork {self : Dispatcher ι (ServerMessage ι β)} (hlinked : self.Linked)
    (runtime : Runtime ι β ε) (message : ServerMessage ι β) :
    CallList.total callWork (handleMessage runtime self message).2.calls =
      CallList.total callWork self.calls := by
  simp only [handleMessage]
  split
  · next id hid =>
    rw [Dispatcher.respond]
    split
    · next index hentry =>
      obtain ⟨phase, hcall⟩ := hlinked _ _ hentry
      have htotal := CallList.total_modify callWork hcall (.send message)
      rw [callWork_send] at htotal
      exact Nat.add_left_cancel htotal
    · rfl
  · rfl

theorem items_reader {action : ReaderTask.Action} {reader : ReaderTask.State (ServerMessages ι β)}
    (hgood : Good state)
    (hread : ReaderTask.step client.task state.exited state.reader action = some reader) :
    items client { state with reader } =
      if reader.phase.isOver then state.reader.sent else items client state := by
  have hsame := (step_upcoming hgood.chunks hread).2.1
  rw [items, items, step_isOver hread]
  by_cases hover : reader.phase.isOver = true
  · rw [if_pos hover] at hsame
    simp [hover, hsame]
  · rw [if_neg hover] at hsame
    simp [hover, hsame]

/-- Every step of the tasks and the calls takes something off the work. -/
theorem work_step (hgood : Good state) (hprogress : isProgress action = true)
    (hstep : Step client state action next) : work client next < work client state := by
  cases hstep with
  | @call op dispatcher hcall hop =>
    cases op with
    | receive call =>
      obtain ⟨id, slot, result, hwaiting, rfl⟩ := Dispatcher.apply_receive_eq_some hop
      have htotal := CallList.total_modify callWork hwaiting
        fun call => { call with phase := .returned result }
      simp only [callWork] at htotal
      simp only [work, items, Dispatcher.setPhase, Dispatcher.update]
      omega
    | _ => cases hprogress
  | @reader action reader hread =>
    have hremaining := (step_upcoming hgood.chunks hread).2.2
    have hitems : CallList.total itemWork (items client { state with reader }) ≤
        CallList.total itemWork (items client state) := by
      rw [items_reader hgood hread]
      split
      · rw [items, CallList.total_append]
        exact Nat.le_add_right _ _
      · exact Nat.le_refl _
    rw [work, work]
    dsimp only
    omega
  | @next messages sent hloop hsent =>
    have hitem : CallList.total itemWork (items client state) =
        itemWork messages + CallList.total itemWork
          (items client { state with
            reader := { state.reader with sent } }) := by
      rw [items, hsent]
      rfl
    have hremaining : remaining client.task state.exited
        { state.reader with sent } = remaining client.task state.exited state.reader := rfl
    rw [work, work, hloop, hitem]
    simp only [Loop.work, itemWork, items, hremaining]
    omega
  | nextEnds hloop hsent hover =>
    refine work_lt_of_loop rfl rfl rfl ?_
    rw [hloop]
    exact Nat.lt_succ_self _
  | handle hloop hmessage =>
    refine work_lt_of_loop ?_ rfl rfl ?_
    · exact handleMessage_callWork hgood.linked client.runtime _
    · rw [hloop]
      exact afterMessage_work hmessage _ _ _
  | @handled batch reply hloop =>
    refine work_lt_of_loop rfl rfl rfl ?_
    rw [hloop]
    cases reply with
    | true => exact Nat.lt_succ_self _
    | false => exact Nat.lt_succ_of_lt (Nat.lt_succ_self _)
  | replied hloop =>
    refine work_lt_of_loop rfl rfl rfl ?_
    rw [hloop]
    exact Nat.lt_succ_self _
  | clear | write | exit | replyFails => cases hprogress

def progressStep (client : Client ι β ε) (state : State ι β)
    (action : Action ι β) : Option (State ι β) :=
  if isProgress action then step client state action else none

/-- The tasks come to rest for sure. -/
theorem inevitable_atRest (client : Client ι β ε) (hgood : Good state) :
    Lts.Inevitable (progressStep client) state (AtRest client) := by
  refine @Lts.inevitable_of_measure _ _ (progressStep client) (work client)
    Good state (AtRest client) ?_ ?_ hgood
  · intro state next action hgood hstep
    rw [progressStep] at hstep
    obtain ⟨hprogress, hstep⟩ := Lts.of_guard hstep
    have hnext := step_cases hstep
    exact ⟨good_step hgood hnext, work_step hgood hprogress hnext⟩
  · intro state hgood hnone action hprogress
    have hstep := hnone action
    rw [progressStep, if_pos hprogress] at hstep
    exact hstep

end McpSdk.ProcessExit
