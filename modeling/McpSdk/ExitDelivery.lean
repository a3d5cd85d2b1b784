/-
What becomes of a response that the process has written before it exits. It
reaches its call unless something else ends the call or stops the response, as
clearing the map of pending requests does.
-/
import McpSdk.ProcessExit

namespace McpSdk.ProcessExit

open List Option
open PendingCalls.Dispatcher (Settles Waits AfterWait settling)
open ClientRuntime (SdkError ClientMessage)
open PendingCalls (Dispatcher Op)
open PostStream (ServerMessage)
open SendMessage (TransportError)
open StartStream (ServerMessages)

universe u v w

variable {ι : Type u} {β : Type v} {ε : Type w}

/-- The message is with the loop, in the channel, or before the reader. -/
def OnTheWay (client : Client ι β ε) (message : ServerMessage ι β) (state : State ι β) : Prop :=
  message ∈ state.loop.messages ∨ ∃ messages ∈ items client state, message ∈ messages.toList

variable {message : ServerMessage ι β}

theorem onTheWay_of_passed {state : State ι β} (client : Client ι β ε)
    (hpassed : message ∈ passed state) : OnTheWay client message state := by
  refine (mem_append.mp hpassed).imp_right fun hsent => ?_
  obtain ⟨messages, hmem, hmessage⟩ := mem_flatMap.mp hsent
  exact ⟨messages, mem_append_left _ hmem, hmessage⟩

section

variable {state next : State ι β} {client : Client ι β ε}

theorem onTheWay_grows {later : Bytes} (honTheWay : OnTheWay client message state)
    (hrunning : state.exited = false) (hloop : next.loop = state.loop)
    (hsent : next.reader.sent = state.reader.sent) (hphase : next.reader.phase = state.reader.phase)
    (hunread : next.reader.unread.flatten = state.reader.unread.flatten ++ later) :
    OnTheWay client message next := by
  have hgrows : items client state <+: items client next := by
    rw [items, items, hsent, hphase, hrunning, List.prefix_append_right_inj]
    split
    · exact List.prefix_rfl
    · exact ReaderTask.upcoming_grows client.task next.exited hphase hunread
  rw [OnTheWay, hloop]
  refine honTheWay.imp_right ?_
  rintro ⟨messages, hmem, hmessage⟩
  exact ⟨messages, hgrows.subset hmem, hmessage⟩

variable {index : Nat} {messages : List (ServerMessage ι β)}
  {batch reply : Bool}

variable {outcome : Except (SdkError ι β ε) (Option (ClientMessage ι β ε))}

theorem afterMessage_eq (houtcome : batch = true → outcome.isOk = true) :
    ∃ later, afterMessage index messages batch reply outcome =
      .handling (messages.eraseIdx index) batch later := by
  cases outcome with
  | ok answer => exact ⟨_, rfl⟩
  | error error =>
    cases batch with
    | true => exact absurd (houtcome rfl) Bool.false_ne_true
    | false => exact ⟨_, rfl⟩

theorem afterMessage_ended (hbatch : batch = true) (houtcome : ¬ outcome.isOk = true) :
    afterMessage index messages batch reply outcome = .ended := by
  cases outcome with
  | ok answer => exact absurd rfl houtcome
  | error error => exact if_pos hbatch

theorem mem_eraseIdx_of_ne {other : ServerMessage ι β} (hmem : message ∈ messages)
    (hother : messages[index]? = some other) (hne : other ≠ message) :
    message ∈ messages.eraseIdx index := by
  obtain ⟨place, hplace⟩ := mem_iff_getElem?.mp hmem
  refine mem_eraseIdx_iff_getElem?.mpr ⟨place, ?_, hplace⟩
  rintro rfl
  rw [hother] at hplace
  exact hne (Option.some.inj hplace)

theorem mem_afterMessage
    (hmem : message ∈ (afterMessage index messages batch reply outcome).messages) :
    message ∈ messages := by
  cases outcome with
  | ok answer => exact mem_of_mem_eraseIdx hmem
  | error error =>
    cases batch with
    | true => cases hmem
    | false => exact mem_of_mem_eraseIdx hmem

variable {id : ι} {response : ServerMessage ι β}

theorem resolves_eq_iff {runtime : ClientRuntime.Runtime ι β ε}
    (hanswers : ClientRuntime.answers response = some id) :
    resolves runtime response = some id ↔ ∀ error, response = .error (some id) error →
        (runtime.handleError error).isOk = true := by
  cases response with
  | request | notification => cases hanswers
  | response _ _ => exact iff_of_true hanswers nofun
  | error answered error =>
    cases hanswers
    simp [resolves]

def Returned (state : State ι β) (index : Nat)
    (result : Except TransportError (ServerMessage ι β)) : Prop :=
  ∃ id slot, state.dispatcher.calls[index]? = some ⟨id, slot, .returned result⟩

variable {result : Except TransportError (ServerMessage ι β)}

theorem Returned.eq {other : Except TransportError (ServerMessage ι β)}
    (hreturned : Returned state index result)
    (hsettles : state.dispatcher.Settles index other) : result = other := by
  obtain ⟨id, slot, hcall⟩ := hreturned
  obtain ⟨call, hsame, hphase⟩ := hsettles
  cases hcall.symm.trans hsame
  rcases hphase with hreturned | ⟨hwaiting, -⟩
  · cases hreturned
    rfl
  · cases hwaiting

/-- The loop runs, and the reader has not stopped before the response. -/
def Listening (response : ServerMessage ι β) (state : State ι β) : Prop :=
  state.loop ≠ .ended ∧ (state.reader.phase.isOver = true → response ∈ passed state)

/-- The response will not reach the call. -/
def Lost (client : Client ι β ε) (id : ι) (response : ServerMessage ι β)
    (state : State ι β) : Prop :=
  resolves client.runtime response ≠ some id ∨ state.loop = .ended ∨
    state.reader.phase.isOver = true ∧ response ∉ passed state

theorem lost_of_not_listening
    (hready : ¬ (resolves client.runtime response = some id ∧ Listening response state)) :
    Lost client id response state := by
  rw [not_and_or, Listening, not_and_or, not_not, Classical.not_imp] at hready
  exact hready

variable [DecidableEq ι] {action : Action ι β}

/-- A call that has settled stays so. -/
theorem settles_step (hgood : Good state) (hsettles : state.dispatcher.Settles index result)
    (hstep : Step client state action next) : next.dispatcher.Settles index result := by
  have hop := step_dispatcher hstep
  split at hop
  · exact Settles.apply hgood.linked hsettles hop
  · rw [hop]
    exact hsettles

/-- A waiting call goes on waiting, or its receiver is used. -/
theorem waits_step (hgood : Good state) (hwaits : Waits id index state.dispatcher)
    (hstep : Step client state action next) :
    AfterWait id index next.dispatcher ((opOf client state action).bind (settling id index)) := by
  have hop := step_dispatcher hstep
  cases hopOf : opOf client state action with
  | some op =>
    rw [hopOf] at hop
    exact hwaits.apply hgood.linked hop
  | none =>
    rw [hopOf] at hop
    rw [← hop] at hwaits
    exact hwaits

/-- The call waits, and its response is on the way. -/
structure Arriving (client : Client ι β ε) (id : ι) (index : Nat)
    (response : ServerMessage ι β) (state : State ι β) : Prop where
  waits : Waits id index state.dispatcher
  onTheWay : OnTheWay client response state
  running : state.loop ≠ .ended

/-- The call has received the response, and its entry is gone. -/
structure Delivered (id : ι) (index : Nat) (response : ServerMessage ι β)
    (state : State ι β) : Prop where
  settles : state.dispatcher.Settles index (.ok response)
  entry : state.dispatcher.pendingRequests.lookup id ≠ some index

/-- While the request is pending, the action neither ends the call nor stops the response. -/
def Spares (client : Client ι β ε) (id : ι) (index : Nat) (response : ServerMessage ι β)
    (state : State ι β) (action : Action ι β) : Prop :=
  state.dispatcher.pendingRequests.lookup id = some index →
    match action with
    | .clear => False
    | .call (.timeout call) => call ≠ index
    | .call (.register other) => other ≠ id
    | .reader action =>
      response ∈ passed state ∨
        ∀ reader, ReaderTask.step client.task state.exited state.reader
          action = some reader → reader.phase.isOver = false
    | .handle position =>
      ∀ messages batch reply message,
        state.loop = .handling messages batch reply →
        messages[position]? = some message →
          (resolves client.runtime message = some id → message = response) ∧
          (batch = true → (handleMessage client.runtime state.dispatcher message).1.isOk = true)
    | .replyFails => False
    | _ => True

theorem settling_handle {position : Nat} (hloop : state.loop = .handling messages batch reply)
    (hmessage : messages[position]? = some message) :
    (opOf client state (.handle position)).bind
        (settling id index) =
      if resolves client.runtime message = some id then some (.ok message)
      else none := by
  simp only [opOf, hloop, Loop.messages, hmessage, bind_some]
  cases resolves client.runtime message with
  | none => rfl
  | some other =>
    by_cases hsame : other = id
    · simp [hsame, settling]
    · simp [hsame, settling]

theorem settling_call {op : Op ι (ServerMessage ι β)} (hcall : isCall op = true) :
    settling id index op = none ↔ (∀ call, op = .timeout call → call ≠ index) ∧
        ∀ other, op = .register other → other ≠ id := by
  cases op with
  | register | timeout | written | writeFails | receive =>
    simp [settling]
  | respond | clear => cases hcall

theorem passed_reader {action : ReaderTask.Action}
    {reader : ReaderTask.State (ServerMessages ι β)} (hgood : Good state)
    (hread : ReaderTask.step client.task state.exited state.reader action = some reader)
    (hover : reader.phase.isOver = true) : passed { state with reader } = passed state := by
  have hsent := (ReaderTask.step_upcoming hgood.chunks hread).2.1
  rw [if_pos hover] at hsent
  rw [passed, passed, hsent]

theorem onTheWay_reader {action : ReaderTask.Action}
    {reader : ReaderTask.State (ServerMessages ι β)} (hgood : Good state)
    (honTheWay : OnTheWay client message state)
    (hread : ReaderTask.step client.task state.exited state.reader action = some reader)
    (hspares : message ∈ passed state ∨ reader.phase.isOver = false) :
    OnTheWay client message { state with reader } := by
  rcases hspares with hpassed | hrunning
  · by_cases hover : reader.phase.isOver = true
    · apply onTheWay_of_passed
      rw [passed_reader hgood hread hover]
      exact hpassed
    · rw [OnTheWay, items_reader hgood hread, if_neg hover]
      exact honTheWay
  · rw [OnTheWay, items_reader hgood hread, hrunning]
    exact honTheWay

/-- A response that is spared stays on its way or is delivered. -/
theorem arriving_step (hresolves : resolves client.runtime response = some id)
    (hgood : Good state) (harriving : Arriving client id index response state)
    (hspares : Spares client id index response state action)
    (hstep : Step client state action next) :
    Delivered id index response next ∨ Arriving client id index response next := by
  obtain ⟨hwaits, honTheWay, hrunning⟩ := harriving
  have hnext := waits_step hgood hwaits hstep
  have hspared := hspares hwaits.entry
  cases hstep with
  | call hcall hop =>
    have hnone : settling id index _ = none :=
      (settling_call hcall).mpr ⟨by rintro call rfl; exact hspared,
        by rintro other rfl; exact hspared⟩
    simp only [opOf, bind_some, hnone] at hnext
    exact .inr ⟨hnext, honTheWay, hrunning⟩
  | write hexited hchunk =>
    refine .inr ⟨hnext, ?_, hrunning⟩
    exact onTheWay_grows honTheWay hexited rfl rfl rfl flatten_concat
  | exit hexited =>
    refine .inr ⟨hnext, ?_, hrunning⟩
    exact onTheWay_grows honTheWay hexited rfl rfl rfl (append_nil _).symm
  | clear hop => exact hspared.elim
  | reader hread =>
    refine .inr ⟨hnext, onTheWay_reader hgood honTheWay hread ?_, hrunning⟩
    exact hspared.imp_right fun hkeeps => hkeeps _ hread
  | next hloop hsent =>
    refine .inr ⟨hnext, ?_, by simp⟩
    rw [OnTheWay, hloop, items, hsent] at honTheWay
    rcases honTheWay with hmem | ⟨item, hitem, hmem⟩
    · cases hmem
    · rcases mem_cons.mp hitem with rfl | hlater
      · exact .inl hmem
      · exact .inr ⟨item, hlater, hmem⟩
  | nextEnds hloop hsent hover =>
    -- the loop ends only when nothing is on its way
    rw [OnTheWay, hloop, items, hsent, hover] at honTheWay
    simp [Loop.messages] at honTheWay
  | @handle position messages batch reply message hloop hmessage =>
    obtain ⟨hothers, hfails⟩ := hspared _ _ _ _ hloop hmessage
    rw [settling_handle hloop hmessage] at hnext
    by_cases hid : resolves client.runtime message = some id
    · rw [if_pos hid] at hnext
      obtain rfl := hothers hid
      refine .inl ⟨hnext, ?_⟩
      simp [handleMessage, hid, Dispatcher.respond_lookup]
    · rw [if_neg hid] at hnext
      have hother : message ≠ response := by
        rintro rfl
        exact hid hresolves
      obtain ⟨later, hafter⟩ := @afterMessage_eq _ _ _ position messages batch reply _ hfails
      rw [hafter] at hnext ⊢
      refine .inr ⟨hnext, ?_, by simp⟩
      refine honTheWay.imp_left fun hmem => ?_
      rw [hloop] at hmem
      exact mem_eraseIdx_of_ne hmem hmessage hother
  | @handled batch reply hloop =>
    rw [OnTheWay, hloop] at honTheWay
    cases reply with
    | true | false => exact .inr ⟨hnext, honTheWay, by simp⟩
  | replied hloop =>
    refine .inr ⟨hnext, ?_, by simp⟩
    rw [OnTheWay, hloop] at honTheWay
    exact honTheWay
  | replyFails hloop => exact hspared.elim

/-- The call has another result, or waits for a response that is lost. -/
def Broken (client : Client ι β ε) (id : ι) (index : Nat)
    (response : ServerMessage ι β) (state : State ι β) : Prop :=
  (∃ result, result ≠ .ok response ∧ state.dispatcher.Settles index result) ∨
    Waits id index state.dispatcher ∧ Lost client id response state

/-- Every other action ends the call in another way, or the response is lost. -/
theorem arriving_broken (hgood : Good state) (harriving : Arriving client id index response state)
    (hbreaks : ¬ Spares client id index response state action)
    (hstep : Step client state action next) : Broken client id index response next := by
  have hnext := waits_step hgood harriving.waits hstep
  obtain ⟨-, hcondition⟩ := Classical.not_imp.mp hbreaks
  cases hstep with
  | @call op dispatcher hcall hop =>
    cases op with
    | register other =>
      obtain rfl := not_not.mp hcondition
      simp only [opOf, bind_some, settling, if_true] at hnext
      exact .inl ⟨.error .connectionClosed, by simp, hnext⟩
    | timeout call =>
      obtain rfl := not_not.mp hcondition
      simp only [opOf, bind_some, settling, if_true] at hnext
      exact .inl ⟨.error .timeout, by simp, hnext⟩
    | respond | clear => cases hcall
    | written | writeFails | receive => exact absurd trivial hcondition
  | clear hop => exact .inl ⟨.error .connectionClosed, by simp, hnext⟩
  | @reader action reader hread =>
    obtain ⟨hpassed, hover⟩ := not_or.mp hcondition
    push Not at hover
    obtain ⟨other, hsame, hstops⟩ := hover
    cases hread.symm.trans hsame
    have hover : reader.phase.isOver = true := by simpa using hstops
    refine .inr ⟨hnext, .inr (.inr ⟨hover, ?_⟩)⟩
    rw [passed_reader hgood hread hover]
    exact hpassed
  | @handle position messages batch reply message hloop hmessage =>
    rw [settling_handle hloop hmessage] at hnext
    by_cases hid : resolves client.runtime message = some id
    · rw [if_pos hid] at hnext
      refine .inl ⟨.ok message, ?_, hnext⟩
      -- the response itself would have met the condition
      intro hsame
      cases hsame
      apply hcondition
      intro _ _ _ other hhandling hother
      cases hloop.symm.trans hhandling
      cases hmessage.symm.trans hother
      refine ⟨fun _ => rfl, fun _ => ?_⟩
      rw [handleMessage_isOk harriving.waits hid]
      rfl
    · rw [if_neg hid] at hnext
      refine .inr ⟨hnext, .inr (.inl ?_)⟩
      by_contra hrunning
      apply hcondition
      intro _ _ _ other hhandling hother
      cases hloop.symm.trans hhandling
      cases hmessage.symm.trans hother
      refine ⟨fun hsame => absurd hsame hid, fun hbatch => ?_⟩
      by_contra hfails
      exact hrunning (afterMessage_ended hbatch hfails)
  | replyFails hloop => exact .inr ⟨hnext, .inr (.inl rfl)⟩
  | write | exit | next | nextEnds | handled | replied =>
    exact absurd trivial hcondition

theorem settling_ok (hstep : Step client state action next)
    (hsettling : (opOf client state action).bind (settling id index) = some (.ok message)) :
    resolves client.runtime message = some id ∧ message ∈ passed state ∧ state.loop ≠ .ended := by
  cases hstep with
  | @call op dispatcher hcall hop =>
    cases op with
    | register | timeout => simp [opOf, settling] at hsettling
    | respond | clear => cases hcall
    | written | writeFails | receive => cases hsettling
  | handle hloop hmessage =>
    rw [settling_handle hloop hmessage] at hsettling
    obtain ⟨hid, ⟨⟩⟩ := Lts.of_guard hsettling
    refine ⟨hid, ?_, by simp [hloop]⟩
    rw [passed, hloop]
    exact mem_append_left _ (mem_of_getElem? hmessage)
  | clear | write | exit | reader | next | nextEnds | handled | replied
  | replyFails => cases hsettling

/-- A response that is lost stays lost. -/
theorem lost_step (hlost : Lost client id response state)
    (hstep : Step client state action next) : Lost client id response next := by
  rcases hlost with hrefused | hended | ⟨hover, hgone⟩
  · exact .inl hrefused
  · right
    left
    cases hstep with
    | next hloop _ | nextEnds hloop _ _ | handle hloop _ | handled hloop
    | replied hloop | replyFails hloop => cases hended.symm.trans hloop
    | _ => exact hended
  · right
    cases hstep with
    | call | write | exit | clear => exact .inr ⟨hover, hgone⟩
    | reader hread =>
      rw [ReaderTask.step_isOver hread] at hover
      cases hover
    | next hloop hsent =>
      rw [passed, hloop, hsent] at hgone
      exact .inr ⟨hover, hgone⟩
    | nextEnds _ _ _ => exact .inl rfl
    | handle hloop _ =>
      refine .inr ⟨hover, fun hpassed => hgone ?_⟩
      rw [passed, hloop]
      rcases mem_append.mp hpassed with hmem | hsent
      · exact mem_append_left _ (mem_afterMessage hmem)
      · exact mem_append_right _ hsent
    | @handled batch reply hloop =>
      rw [passed, hloop] at hgone
      cases reply with
      | true | false => exact .inr ⟨hover, hgone⟩
    | replied hloop =>
      rw [passed, hloop] at hgone
      exact .inr ⟨hover, hgone⟩
    | replyFails _ => exact .inl rfl

/-- What has gone wrong for a response stays so. -/
theorem broken_step (hgood : Good state) (hbroken : Broken client id index response state)
    (hstep : Step client state action next) : Broken client id index response next := by
  rcases hbroken with ⟨result, hother, hsettles⟩ | ⟨hwaits, hlost⟩
  · exact .inl ⟨result, hother, settles_step hgood hsettles hstep⟩
  · have hnext := waits_step hgood hwaits hstep
    cases hsettling : (opOf client state action).bind
        (settling id index) with
    | none =>
      rw [hsettling] at hnext
      exact .inr ⟨hnext, lost_step hlost hstep⟩
    | some result =>
      rw [hsettling] at hnext
      refine .inl ⟨result, ?_, hnext⟩
      rintro rfl
      obtain ⟨hresolves, hpassed, hrunning⟩ := settling_ok hstep hsettling
      rcases hlost with hrefused | hended | ⟨-, hgone⟩
      · exact hrefused hresolves
      · exact hrunning hended
      · exact hgone hpassed

/-- A delivered response stays delivered. -/
theorem delivered_step (hgood : Good state) (hdelivered : Delivered id index response state)
    (hstep : Step client state action next) : Delivered id index response next := by
  obtain ⟨hsettles, hentry⟩ := hdelivered
  refine ⟨settles_step hgood hsettles hstep, ?_⟩
  obtain ⟨call, hcall, -⟩ := hsettles
  have hop := step_dispatcher hstep
  split at hop
  · exact Dispatcher.entry_ne_apply (List.getElem?_eq_some_iff.mp hcall).1 hentry hop
  · rw [hop]
    exact hentry

theorem onTheWay_progress (hgood : Good state) (hrunning : state.loop ≠ .ended)
    (honTheWay : OnTheWay client message state) : ¬ AtRest client state := by
  rcases honTheWay with hloop | ⟨messages, hitem, -⟩
  · refine loop_progress hrunning ?_
    intro hidle hsent
    rw [hidle] at hloop
    cases hloop
  · by_cases hsent : state.reader.sent = []
    · intro hrest
      rw [items, hsent, nil_append] at hitem
      cases hphase : state.reader.phase with
      | reading =>
        have hnone := hrest (.reader .read) rfl
        rcases @ReaderTask.readCappedLine_arrived client.task.maxLineLength
            state.exited _ hgood.chunks with
          ⟨read, unread, hread, -⟩ | ⟨hreads, -⟩
        · simp [step, channelAllows, ReaderTask.step, hphase, hread] at hnone
        · rw [ReaderTask.upcoming, hphase, hreads] at hitem
          cases hitem
      | sending waiting =>
        have hroom : channelAllows client state .sent = true := by
          cases hloop : state.loop with
          | ended => exact absurd hloop hrunning
          | _ => simp [channelAllows, hsent, hloop, client.channelCapacity_pos]
        have hnone := hrest (.reader .sent) rfl
        simp [step, hroom, ReaderTask.step, hphase] at hnone
      | returned | panicked =>
        rw [hphase] at hitem
        cases hitem
    · exact loop_progress hrunning fun _ => hsent

theorem Returned.not_waits (hreturned : Returned state index result) :
    ¬ Waits id index state.dispatcher := by
  rintro ⟨-, hwaiting⟩
  obtain ⟨other, slot, hcall⟩ := hreturned
  cases hcall.symm.trans hwaiting

theorem AtRest.returned (hrest : AtRest client state)
    (hsettles : state.dispatcher.Settles index result) : Returned state index result := by
  obtain ⟨⟨id, slot, phase⟩, hcall, hreturned | ⟨hwaiting, hreceived⟩⟩ := hsettles
  · cases hreturned
    exact ⟨id, slot, hcall⟩
  · cases hwaiting
    have hnone := hrest (.call (.receive index)) rfl
    simp [step, isCall, Dispatcher.apply, hcall, hreceived] at hnone

/-- What holds of a response that is not lost. -/
def Safe (client : Client ι β ε) (id : ι) (index : Nat)
    (response : ServerMessage ι β) (state : State ι β) : Prop :=
  Delivered id index response state ∨ Arriving client id index response state

/-- The call returns nothing but the response, and that when nothing is left to do. -/
theorem Safe.returned (hgood : Good state) (hsafe : Safe client id index response state) :
    (∀ result, Returned state index result → result = .ok response) ∧
      (AtRest client state → Returned state index (.ok response)) := by
  rcases hsafe with hdelivered | harriving
  · refine ⟨?_, fun hrest => hrest.returned hdelivered.settles⟩
    intro result hreturned
    exact hreturned.eq hdelivered.settles
  · refine ⟨?_, ?_⟩
    · intro result hreturned
      exact absurd harriving.waits hreturned.not_waits
    · intro hrest
      exact absurd hrest (onTheWay_progress hgood harriving.running harriving.onTheWay)

theorem Broken.not_returned
    (hbroken : Broken client id index response state) : ¬ Returned state index (.ok response) := by
  intro hreturned
  rcases hbroken with ⟨result, hother, hsettles⟩ | ⟨hwaits, -⟩
  · exact hother (hreturned.eq hsettles).symm
  · exact hreturned.not_waits hwaits

theorem good_broken_step (hstate : Good state ∧ Broken client id index response state)
    (hstep : step client state action = some next) :
    Good next ∧ Broken client id index response next :=
  ⟨good_step hstate.1 (step_cases hstep), broken_step hstate.1 hstate.2 (step_cases hstep)⟩

/-- A run keeps the response safe exactly when it spares it. -/
theorem run_safe_or_broken {final : State ι β}
    {actions : List (Action ι β)} (hresolves : resolves client.runtime response = some id)
    (hgood : Good state) (hsafe : Safe client id index response state)
    (hrun : Lts.run (step client) state actions = some final) :
    Lts.Along (step client) (Spares client id index response) state actions ∧
        Good final ∧ Safe client id index response final ∨
      ¬ Lts.Along (step client) (Spares client id index response) state
          actions ∧ Good final ∧ Broken client id index response final := by
  refine @Lts.run_along_or_broken _ _ (step client) (Spares client id index response)
    (fun state => Good state ∧ Safe client id index response state)
    (fun state => Good state ∧ Broken client id index response state)
    ?_ ?_ good_broken_step state final actions ⟨hgood, hsafe⟩ hrun
  · rintro state next action ⟨hgood, hsafe⟩ hspares hstep
    have hnext := step_cases hstep
    refine ⟨good_step hgood hnext, ?_⟩
    rcases hsafe with hdelivered | harriving
    · exact .inl (delivered_step hgood hdelivered hnext)
    · exact arriving_step hresolves hgood harriving hspares hnext
  · rintro state next action ⟨hgood, hsafe⟩ hbreaks hstep
    have hnext := step_cases hstep
    refine ⟨good_step hgood hnext, ?_⟩
    rcases hsafe with hdelivered | harriving
    · exact absurd (fun hentry => absurd hentry hdelivered.entry) hbreaks
    · exact arriving_broken hgood harriving hbreaks hnext

/-- The response is accepted, and nothing ends the call or stops it on its way. -/
structure Kept (client : Client ι β ε) (id : ι) (index : Nat)
    (response : ServerMessage ι β) (state : State ι β)
    (actions : List (Action ι β)) : Prop where
  accepted : ∀ error, response = .error (some id) error →
    (client.runtime.handleError error).isOk = true
  listening : Listening response state
  spared : Lts.Along (step client) (Spares client id index response) state actions

/-- A response line lies in the pipe and the call waits. The call returns it
exactly when it is kept; tasks and calls always come to rest, and a call that is
kept returns nothing else. -/
theorem run_returned_iff (client : Client ι β ε) {before after : List (Action ι β)}
    {middle final : State ι β} {id : ι} {index : Nat} {text : Str} {messages : ServerMessages ι β}
    {response : ServerMessage ι β} (hbefore : Lts.run (step client) initial before = some middle)
    (hrunning : middle.exited = false) (hwaits : Waits id index middle.dispatcher)
    (hline : .line text ∈ ReaderTask.arrivedReads client.task.maxLineLength false
      middle.reader.unread.flatten) (hmessages : client.task.fromStr text = some messages)
    (hresponse : response ∈ messages.toList) (hanswers : ClientRuntime.answers response = some id)
    (hafter : Lts.run (step client) middle after = some final) :
    Lts.Inevitable (progressStep client) final (AtRest client) ∧
      (Kept client id index response middle after → ∀ result,
        Returned final index result → result = .ok response) ∧
      (AtRest client final → (Returned final index (.ok response) ↔
        Kept client id index response middle after)) := by
  have hkeeps : ∀ {state next : State ι β} {action : Action ι β}, Good state →
      step client state action = some next → Good next := by
    intro state next action hstate hstep
    exact good_step hstate (step_cases hstep)
  have hgood : Good middle := Lts.run_keeps hkeeps initial_good hbefore
  refine ⟨inevitable_atRest client (Lts.run_keeps hkeeps hgood hafter), ?_⟩
  by_cases hready : resolves client.runtime response = some id ∧ Listening response middle
  · obtain ⟨hresolves, hlistening⟩ := hready
    have honTheWay : OnTheWay client response middle := by
      cases hover : middle.reader.phase.isOver with
      | true => exact onTheWay_of_passed client (hlistening.2 hover)
      | false =>
        refine .inr ⟨messages, ?_, hresponse⟩
        rw [items, hover, hrunning]
        refine mem_append_right _ (mem_append_right _ ?_)
        exact mem_filterMap.mpr ⟨_, hline, hmessages⟩
    rcases run_safe_or_broken hresolves hgood
        (.inr ⟨hwaits, honTheWay, hlistening.1⟩) hafter with
      ⟨halong, hfinal, hsafe⟩ | ⟨hbreaks, -, hbroken⟩
    · obtain ⟨hall, hrest⟩ := hsafe.returned hfinal
      have hkept : Kept client id index response middle after :=
        ⟨(resolves_eq_iff hanswers).mp hresolves, hlistening, halong⟩
      exact ⟨fun _ => hall, fun hatRest => iff_of_true (hrest hatRest) hkept⟩
    · have hlost : ¬ Kept client id index response middle after :=
        fun hkept => hbreaks hkept.spared
      exact ⟨fun hkept => absurd hkept hlost, fun _ => iff_of_false hbroken.not_returned hlost⟩
  · have hlost : ¬ Kept client id index response middle after :=
      fun hkept => hready ⟨(resolves_eq_iff hanswers).mpr hkept.accepted, hkept.listening⟩
    obtain ⟨-, hbroken⟩ := Lts.run_keeps good_broken_step
      ⟨hgood, .inr ⟨hwaits, lost_of_not_listening hready⟩⟩ hafter
    exact ⟨fun hkept => absurd hkept hlost, fun _ => iff_of_false hbroken.not_returned hlost⟩

end

namespace ExitDeliveryWitness

def client : Client Nat Unit Unit where
  runtime := ⟨fun _ _ => .ok (), fun _ => .ok (), fun _ => .ok ()⟩
  task := ⟨16, .info, fun _ => some (.single (.response 1 ()))⟩
  channelCapacity := 1
  channelCapacity_pos := Nat.one_pos

def before : List (Action Nat Unit) :=
  [.call (.register 1), .call (.written 0), .write [82, newline]]

def middle : State Nat Unit where
  dispatcher := ⟨AList.singleton 1 0, [⟨1, .empty, .waiting⟩]⟩
  exited := false
  cleared := false
  reader := ⟨[[82, newline]], .reading, []⟩
  loop := .idle

def delivery : List (Action Nat Unit) :=
  [.reader .read, .reader .sent, .next, .handle 0, .handled, .call (.receive 0),
    .reader .read, .next]

def final (result : Except TransportError (ServerMessage Nat Unit))
    (slot : SendMessage.Slot (ServerMessage Nat Unit)) : State Nat Unit where
  dispatcher := ⟨∅, [⟨1, slot, .returned result⟩]⟩
  exited := true
  cleared := true
  reader := ⟨[], .returned (.ok ()), []⟩
  loop := .ended

theorem atRest_final (result : Except TransportError (ServerMessage Nat Unit))
    (slot : SendMessage.Slot (ServerMessage Nat Unit)) : AtRest client (final result slot) := by
  intro action hprogress
  cases action with
  | call op =>
    cases op with
    | receive call =>
      cases call with
      | zero | succ => rfl
    | _ => cases hprogress
  | reader action =>
    cases action with
    | read | sent => rfl
    | _ => cases hprogress
  | next | handle | handled | replied => rfl
  | _ => cases hprogress

theorem run_before : Lts.run (step client) initial before = some middle := rfl

theorem middle_line : .line ['R'] ∈ ReaderTask.arrivedReads
    client.task.maxLineLength false middle.reader.unread.flatten := by
  decide +kernel

/-- The map is cleared when the response has been delivered. -/
theorem kept_before_clear :
    Kept client 1 0 (.response 1 ()) middle (.exit :: delivery ++ [.clear]) ∧
      Returned (final (.ok (.response 1 ())) (.sent (.response 1 ()))) 0
        (.ok (.response 1 ())) := by
  have hreturned : Returned (final (.ok (.response 1 ()))
      (.sent (.response 1 ()))) 0 (.ok (.response 1 ())) := ⟨1, _, rfl⟩
  have hafter : Lts.run (step client) middle (.exit :: delivery ++ [.clear]) =
      some (final (.ok (.response 1 ())) (.sent (.response 1 ()))) := rfl
  have hiff := run_returned_iff client run_before rfl ⟨rfl, rfl⟩ middle_line
    rfl (mem_singleton_self _) rfl hafter
  exact ⟨(hiff.2.2 (atRest_final _ _)).mp hreturned, hreturned⟩

/-- The map is cleared while the response is in the pipe. -/
theorem closed_after_clear :
    middle.exited = false ∧ Waits 1 0 middle.dispatcher ∧
      .line ['R'] ∈ ReaderTask.arrivedReads client.task.maxLineLength false
        middle.reader.unread.flatten ∧ client.task.fromStr ['R'] = some (.single (.response 1 ())) ∧
      Lts.run (step client) initial before = some middle ∧
      Lts.run (step client) middle (.exit :: .clear :: delivery) =
        some (final (.error .connectionClosed) .closed) ∧
      AtRest client (final (.error .connectionClosed) .closed) ∧
      Returned (final (.error .connectionClosed) .closed) 0 (.error .connectionClosed) :=
  ⟨rfl, ⟨rfl, rfl⟩, middle_line, rfl, run_before, rfl, atRest_final _ _, ⟨1, _, rfl⟩⟩

end ExitDeliveryWitness

end McpSdk.ProcessExit
