/-
What becomes of a response that arrives while `send_message` waits for it.
-/
import McpSdk.PendingRequests

namespace McpSdk.SendMessage

open List

universe u v

variable {ι : Type u} {ρ : Type v}

/-- The payload has been on the wire, and the call has not gone back. -/
def PastWrite (phase : Phase ι ρ) : Prop :=
  match phase with
  | .written | .wait | .returned _ => True
  | _ => False

variable {messages : Messages ι} {role : Role} {self : State ι ρ}

theorem PastWrite.receivers (hfirst : registersFirst role messages = true)
    (hshape : Shape role messages self) (hself : PastWrite self.phase)
    (hopen : ∀ result, self.phase ≠ .returned result) :
    self.receivers.map (·.id) = messages.requestIds := by
  unfold Shape at hshape
  cases hphase : self.phase with
  | written => simpa [hphase, hfirst] using hshape
  | wait => simpa [hphase] using hshape
  | returned result => exact absurd hphase (hopen result)
  | _ => simp [PastWrite, hphase] at hself

/-- The caller obtains the response to the request with this id. -/
def Delivered (messages : Messages ι) (result : Result ι ρ) (id : ι) (response : ρ) : Prop :=
  match messages with
  | .single _ => result = .ok (some (.single response))
  | .batch _ => ∃ (items : List (BatchItem ι ρ)) (index : Nat),
      result = .ok (some (.batch items)) ∧
      messages.requestIds[index]? = some id ∧
      items[index]? = some (.message response)

variable {response : ρ} {id : ι} {index : Nat}

theorem result_delivered {receivers : List (Receiver ι ρ)} {slot : Slot ρ}
    (hids : receivers.map (·.id) = messages.requestIds)
    (hget : receivers[index]? = some ⟨id, slot, some (.ok response)⟩) :
    Delivered messages (result role messages receivers) id response := by
  cases messages with
  | batch ms =>
    refine ⟨receivers.map Receiver.batchItem, index, rfl, ?_, ?_⟩
    · rw [← hids, getElem?_map, hget]
      rfl
    · rw [getElem?_map, hget]
      rfl
  | single message =>
    have hlength : receivers.length ≤ 1 := by
      have hlength := congrArg List.length hids
      rw [length_map] at hlength
      rw [hlength]
      exact Option.length_toList_le
    have hindex : index = 0 := by
      have hlt := (List.getElem?_eq_some_iff.mp hget).1
      omega
    subst hindex
    simp [Delivered, result, List.head?_eq_getElem?, hget]

theorem Delivered.exists_reply {result : Result ι ρ}
    (hdelivered : Delivered messages result id response) : ∃ reply, result = .ok (some reply) := by
  cases messages with
  | single message => exact ⟨_, hdelivered⟩
  | batch ms =>
    obtain ⟨items, index, hresult, -⟩ := hdelivered
    exact ⟨_, hresult⟩

/-- No response has come to the call, and its waits have ended without one. -/
structure Unanswered (messages : Messages ι) (call : State ι ρ) : Prop where
  slot : ∀ receiver ∈ call.receivers, ∀ response, receiver.slot ≠ .sent response
  outcome : ∀ receiver ∈ call.receivers, ∀ outcome, receiver.outcome = some outcome →
    outcome = .error .timeout ∨ outcome = .error .channelClosed
  result : ∀ result, call.phase = .returned result → ∀ id response,
    ¬ Delivered messages result id response

theorem not_delivered_result {receivers : List (Receiver ι ρ)} (role : Role)
    (houtcome : ∀ receiver ∈ receivers, ∀ response, receiver.outcome ≠ some (.ok response)) :
    ¬ Delivered messages (result role messages receivers) id response := by
  cases messages with
  | batch batch =>
    rintro ⟨items, index, hresult, -, hitem⟩
    cases hresult
    rw [getElem?_map] at hitem
    obtain ⟨receiver, hreceiver, hmessage⟩ := Option.map_eq_some_iff.mp hitem
    unfold Receiver.batchItem at hmessage
    split at hmessage
    · next other hok => exact houtcome receiver (mem_of_getElem? hreceiver) other hok
    · cases hmessage
    · cases hmessage
  | single message =>
    intro hresult
    simp only [Delivered, result] at hresult
    split at hresult
    · next other hhead =>
      obtain ⟨receiver, hreceiver, hok⟩ := Option.bind_eq_some_iff.mp hhead
      exact houtcome receiver (mem_of_mem_head? hreceiver) other hok
    · split at hresult <;> cases hresult
    · cases hresult
    · cases hresult

/-- The call waits, and its receivers below the bound are settled. -/
structure SettledBelow (state : State ι ρ) (bound : Nat) : Prop where
  wait : state.phase = .wait
  settled : ∀ index < bound, ∀ receiver,
    state.receivers[index]? = some receiver → receiver.outcome.isSome = true

theorem SettledBelow.succ {bound : Nat} (hself : SettledBelow self bound)
    (hbound : ∀ receiver, self.receivers[bound]? = some receiver → receiver.outcome.isSome = true) :
    SettledBelow self (bound + 1) := by
  refine ⟨hself.wait, ?_⟩
  intro index hindex receiver hget
  rcases Nat.lt_succ_iff_lt_or_eq.mp hindex with hlt | rfl
  · exact hself.settled index hlt receiver hget
  · exact hbound receiver hget

theorem SettledBelow.settle {bound : Nat} (hself : SettledBelow self bound)
    (outcome : Except TransportError ρ) :
    SettledBelow
      { self with receivers := self.receivers.modify bound (.settle outcome) }
      (bound + 1) := by
  refine SettledBelow.succ ⟨hself.wait, ?_⟩ ?_
  · intro index hindex receiver hget
    simp only [getElem?_modify_ne _ _ (Nat.ne_of_gt hindex)] at hget
    exact hself.settled index hindex receiver hget
  · intro receiver hget
    simp only [getElem?_modify_eq, Option.map_eq_map, Option.map_eq_some_iff] at hget
    obtain ⟨old, -, rfl⟩ := hget
    rfl

variable [DecidableEq ι]

/-- A call that has written its payload stays past that. -/
theorem PastWrite.step {self next : State ι ρ} {action : Action ι ρ}
    (hfirst : registersFirst role messages = true) (hself : PastWrite self.phase)
    (hstep : SendMessage.step role messages self action = some next) : PastWrite next.phase := by
  cases step_cases hstep with
  | register hphase | registered hphase | serialize hphase =>
    simp [PastWrite, hphase] at hself
  | serializeFails | writePayload => trivial
  | writeReturns hphase =>
    by_cases hids : messages.requestIds = []
    · simp [hids, PastWrite]
    · simp [hids, hfirst, PastWrite]
  | writeFails hphase => trivial
  | respondOwn | respondForeign | respondNone | refuse | take | timeout => exact hself
  | finish hphase hall => trivial
  | others hsame => exact hself

variable {entries : List (ι × Nat)}

/-- A call that has written its payload is past the write. -/
theorem pastWrite_of_run {trace : List (Action ι ρ)} {final : State ι ρ}
    (hfirst : registersFirst role messages = true)
    (hrun : Lts.run (step role messages) (initial role messages entries) trace = some final) :
    .writePayload ∈ trace → PastWrite final.phase := by
  refine @Lts.run_trace_invariant _ _ _
    (fun trace state => .writePayload ∈ trace → PastWrite state.phase) ?_ _ _ _ nofun hrun
  intro trace state next action hstate hstep hmem
  rcases mem_append.mp hmem with hmem | hmem
  · exact (hstate hmem).step hfirst hstep
  · rw [mem_singleton] at hmem
    subst hmem
    cases step_cases hstep
    trivial

/-- A response stays with its receiver until the call returns it. -/
structure Kept (role : Role) (messages : Messages ι) (index : Nat) (id : ι)
    (response : ρ) (state : State ι ρ) : Prop where
  shape : Shape role messages state
  linked : Linked messages state
  pastWrite : PastWrite state.phase
  receiver : ∃ outcome,
    state.receivers[index]? = some ⟨id, .sent response, outcome⟩ ∧
      (outcome = none ∨ outcome = some (.ok response))
  delivered : ∀ result, state.phase = .returned result →
    result = .error .write ∨ Delivered messages result id response

theorem Kept.result (hfirst : registersFirst role messages = true)
    (hself : Kept role messages index id response self) (hphase : self.phase = .wait)
    (hall : ∀ receiver ∈ self.receivers, receiver.outcome.isSome = true) :
    Delivered messages (result role messages self.receivers) id response := by
  obtain ⟨outcome, hget, rfl | rfl⟩ := hself.receiver
  · have hsome := hall _ (mem_of_getElem? hget)
    cases hsome
  · have hids := hself.pastWrite.receivers hfirst hself.shape (by simp [hphase])
    exact result_delivered hids hget

/-- A step keeps the response until the call returns it. -/
theorem Kept.step {index : Nat} {self next : State ι ρ} {action : Action ι ρ}
    (hfirst : registersFirst role messages = true) (hmem : id ∈ messages.requestIds)
    (hself : Kept role messages index id response self)
    (hstep : SendMessage.step role messages self action = some next) :
    Kept role messages index id response next := by
  have hshape := hself.shape.step hstep
  have hlinked := hself.linked.step hself.shape hstep
  have hpast := hself.pastWrite.step hfirst hstep
  obtain ⟨outcome, hget, houtcome⟩ := hself.receiver
  -- an action on another receiver changes nothing here
  have hother : ∀ {k : Nat} {change : Receiver ι ρ → Receiver ι ρ},
      k ≠ index → ∃ outcome,
        (self.receivers.modify k change)[index]? =
          some ⟨id, .sent response, outcome⟩ ∧
          (outcome = none ∨ outcome = some (.ok response)) := by
    intro k change hk
    refine ⟨outcome, ?_, houtcome⟩
    rw [← hget]
    exact getElem?_modify_ne _ _ hk
  cases step_cases hstep with
  | register hphase => simp [PastWrite] at hpast
  | registered hphase =>
    exact absurd hself.pastWrite (by simp [PastWrite, hphase])
  | serialize hphase => simp [PastWrite] at hpast
  | serializeFails hphase | writePayload hphase =>
    exact absurd hself.pastWrite (by simp [PastWrite, hphase])
  | writeReturns hphase =>
    refine ⟨hshape, hlinked, hpast, hself.receiver, ?_⟩
    intro result hresult
    simp [ne_nil_of_mem hmem, hfirst] at hresult
  | writeFails hphase =>
    refine ⟨hshape, hlinked, hpast, hself.receiver, ?_⟩
    intro result hresult
    cases hresult
    exact .inl rfl
  | @respondOwn other response' k hid hentry =>
    have hk : k ≠ index := by
      rintro rfl
      obtain ⟨outcome', hget', -⟩ := hself.linked other hid k hentry
      rw [hget] at hget'
      cases hget'
    exact ⟨hshape, hlinked, hpast, hother hk, hself.delivered⟩
  | respondForeign hid hentry =>
    exact ⟨hshape, hlinked, hpast, hself.receiver, hself.delivered⟩
  | respondNone | refuse => exact hself
  | @take k receiver outcome' hphase hget' hnone hpoll =>
    refine ⟨hshape, hlinked, hpast, ?_, hself.delivered⟩
    by_cases hk : k = index
    · subst hk
      rw [hget] at hget'
      cases hget'
      cases hpoll
      refine ⟨some (.ok response), ?_, .inr rfl⟩
      rw [getElem?_modify_eq, hget]
      rfl
    · exact hother hk
  | @timeout k receiver hphase hget' hnone hpoll =>
    refine ⟨hshape, hlinked, hpast, hother ?_, hself.delivered⟩
    rintro rfl
    rw [hget] at hget'
    cases hget'
    cases hpoll
  | finish hphase hall =>
    refine ⟨hshape, hlinked, hpast, hself.receiver, ?_⟩
    intro result hresult
    cases hresult
    exact .inr (hself.result hfirst hphase hall)
  | others hsame =>
    exact ⟨hshape, hlinked, hpast, hself.receiver, hself.delivered⟩

/-- Only a response answers a call. -/
theorem Unanswered.step {next : State ι ρ} {action : Action ι ρ}
    (hself : Unanswered messages self) (haction : ∀ id response, action ≠ .respond id response)
    (hstep : SendMessage.step role messages self action = some next) :
    Unanswered messages next := by
  have hfails : ∀ {error : TransportError} {id : ι} {response : ρ},
      ¬ Delivered messages (.error error) id response := by
    intro error id response hdelivered
    obtain ⟨reply, hreply⟩ := hdelivered.exists_reply
    cases hreply
  have hphase : ∀ {phase : Phase ι ρ}, (∀ result, phase ≠ .returned result) →
      Unanswered messages { self with phase } :=
    fun hopen => ⟨hself.slot, hself.outcome, fun result hresult => absurd hresult (hopen result)⟩
  cases step_cases hstep with
  | @register id todo hphase =>
    refine ⟨?_, ?_, by simp⟩
    · refine forall_mem_append.mpr ⟨?_, by simp⟩
      unfold dropSender
      split
      · exact CallList.forall_mem_modify hself.slot fun old hold response => by simp
      · exact hself.slot
    · refine forall_mem_append.mpr ⟨?_, by simp⟩
      unfold dropSender
      split
      · exact CallList.forall_mem_modify hself.outcome
          fun old hold => hself.outcome old (mem_of_getElem? hold)
      · exact hself.outcome
  | registered => exact hphase (by split <;> simp)
  | serialize | writePayload => exact hphase (by simp)
  | serializeFails | writeFails =>
    refine ⟨hself.slot, hself.outcome, ?_⟩
    rintro _ ⟨⟩ _ _
    exact hfails
  | writeReturns =>
    refine ⟨hself.slot, hself.outcome, ?_⟩
    intro result hresult id response hdelivered
    obtain ⟨reply, rfl⟩ := hdelivered.exists_reply
    split at hresult
    · cases hresult
    · split at hresult <;> cases hresult
  | respondOwn | respondForeign | respondNone => exact absurd rfl (haction _ _)
  | refuse => exact hself
  | @take index receiver outcome hwait hget hnone hpoll =>
    refine ⟨?_, ?_, hself.result⟩
    · exact CallList.forall_mem_modify hself.slot
        fun old hold => hself.slot old (mem_of_getElem? hold)
    · refine CallList.forall_mem_modify hself.outcome fun old hold other hother => ?_
      cases hother
      cases hslot : receiver.slot with
      | empty => simp [hslot, Slot.poll] at hpoll
      | sent response => exact absurd hslot (hself.slot receiver (mem_of_getElem? hget) response)
      | closed =>
        simp only [hslot, Slot.poll, Option.some.injEq] at hpoll
        exact .inr hpoll.symm
  | timeout =>
    refine ⟨?_, ?_, hself.result⟩
    · exact CallList.forall_mem_modify hself.slot
        fun old hold => hself.slot old (mem_of_getElem? hold)
    · refine CallList.forall_mem_modify hself.outcome fun old hold other hother => ?_
      cases hother
      exact .inl rfl
  | finish hwait hall =>
    refine ⟨hself.slot, hself.outcome, ?_⟩
    rintro _ ⟨⟩ id response
    refine not_delivered_result role fun receiver hreceiver other hok => ?_
    rcases hself.outcome receiver hreceiver _ hok with h | h <;> cases h
  | others hsame => exact ⟨hself.slot, hself.outcome, hself.result⟩

/-- A run without responses leaves the call unanswered. -/
theorem unanswered_of_run {trace : List (Action ι ρ)} {state final : State ι ρ}
    (hstate : Unanswered messages state)
    (hrun : Lts.run (step role messages) state trace = some final) :
    (∀ id response, .respond id response ∉ trace) → Unanswered messages final := by
  refine @Lts.run_trace_invariant _ _ _
    (fun trace state => (∀ id response, .respond id response ∉ trace) → Unanswered messages state)
    ?_ _ _ _ (fun _ => hstate) hrun
  intro trace state next action hstate hstep hquiet
  simp only [mem_append, mem_singleton, not_or, forall_and] at hquiet
  exact (hstate hquiet.1).step (fun id response heq => hquiet.2 id response heq.symm) hstep

omit [DecidableEq ι] in
theorem Unanswered.result_ne_write (hself : Unanswered messages self) (role : Role) :
    SendMessage.result role messages self.receivers ≠ .error .write := by
  cases messages with
  | batch batch => exact nofun
  | single message =>
    intro hwrite
    simp only [SendMessage.result] at hwrite
    split at hwrite
    · cases hwrite
    · split at hwrite <;> cases hwrite
    · next cause hclosed hhead =>
      obtain ⟨receiver, hreceiver, herror⟩ := Option.bind_eq_some_iff.mp hhead
      cases hwrite
      rcases hself.outcome receiver (mem_of_mem_head? hreceiver) _ herror with h | h <;> cases h
    · cases hwrite

/-- A response that comes while the request waits. -/
structure Awaited (messages : Messages ι) (before : List (Action ι ρ))
    (arrival : State ι ρ) (id : ι) : Prop where
  request : id ∈ messages.requestIds
  written : .writePayload ∈ before
  first : ∀ response, .respond id response ∉ before
  inTime : ∀ receiver ∈ arrival.receivers, receiver.id = id →
    receiver.outcome ≠ some (.error .timeout)
  opened : ∀ result, arrival.phase ≠ .returned result

theorem Sound.entry {before : List (Action ι ρ)} {arrival : State ι ρ}
    (hfirst : registersFirst role messages = true)
    (harrival : Sound role messages entries before arrival) (hpast : PastWrite arrival.phase)
    (hawaited : Awaited messages before arrival id) :
    ∃ index, arrival.pendingRequests.lookup id = some (.own index) ∧
      arrival.receivers[index]? = some ⟨id, .empty, none⟩ := by
  have hids := hpast.receivers hfirst harrival.shape hawaited.opened
  have hregistered : .register id ∈ before := by
    rw [harrival.registered id, hids]
    exact hawaited.request
  have hwaits := mem_outstanding hregistered hawaited.first
  obtain ⟨-, index, hentry⟩ := (harrival.tracked id).mp hwaits
  refine ⟨index, hentry, ?_⟩
  obtain ⟨outcome, hget, hnone | htimeout⟩ := harrival.linked id hawaited.request index hentry
  · rw [hget, hnone]
  · have hmem := mem_of_getElem? hget
    exact absurd htimeout (hawaited.inTime _ hmem rfl)

theorem Sound.kept {before : List (Action ι ρ)} {arrival next : State ι ρ}
    (hfirst : registersFirst role messages = true)
    (harrival : Sound role messages entries before arrival) (hpast : PastWrite arrival.phase)
    (hawaited : Awaited messages before arrival id)
    (hstep : step role messages arrival (.respond id response) = some next) :
    ∃ index, Kept role messages index id response next := by
  obtain ⟨index, hentry, hget⟩ := harrival.entry hfirst hpast hawaited
  have hshape := harrival.shape.step hstep
  have hlinked := harrival.linked.step harrival.shape hstep
  refine ⟨index, hshape, hlinked, hpast.step hfirst hstep, ?_, ?_⟩
  · refine ⟨none, ?_, .inl rfl⟩
    cases step_cases hstep with
    | respondOwn hid hentry' =>
      rw [hentry] at hentry'
      cases hentry'
      rw [getElem?_modify_eq, hget]
      rfl
    | respondForeign hid hentry' | respondNone hid hentry' =>
      rw [hentry] at hentry'
      cases hentry'
  · intro result hresult
    have hsame : next.phase = arrival.phase := by
      cases step_cases hstep with
      | respondOwn | respondForeign | respondNone => rfl
    exact absurd (hsame.symm.trans hresult) (hawaited.opened result)

/-- A run keeps the response until the call returns it. -/
theorem Kept.run {final : State ι ρ} {actions : List (Action ι ρ)}
    (hfirst : registersFirst role messages = true) (hmem : id ∈ messages.requestIds)
    (hself : Kept role messages index id response self)
    (hrun : Lts.run (SendMessage.step role messages) self actions = some final) :
    Kept role messages index id response final := by
  refine Lts.run_keeps ?_ hself hrun
  intro state next action hstate hstep
  exact hstate.step hfirst hmem hstep

theorem exists_settledBelow (role : Role) (messages : Messages ι)
    (hwait : self.phase = .wait) (bound : Nat) :
    ∃ actions next, Lts.run (step role messages) self actions = some next ∧
      next.receivers.length = self.receivers.length ∧ SettledBelow next bound ∧
      (Unanswered messages self → Unanswered messages next) := by
  induction bound with
  | zero => exact ⟨[], self, rfl, rfl, ⟨hwait, by simp⟩, id⟩
  | succ bound ih =>
    obtain ⟨actions, middle, hrun, hlength, hsettled, hunanswered⟩ := ih
    -- one more action settles the receiver at the bound
    have hextend : ∀ action outcome, (∀ id response, action ≠ .respond id response) →
        step role messages middle action = some { middle with
          receivers := middle.receivers.modify bound (.settle outcome) } →
        ∃ actions next,
          Lts.run (step role messages) self actions = some next ∧
            next.receivers.length = self.receivers.length ∧ SettledBelow next (bound + 1) ∧
            (Unanswered messages self → Unanswered messages next) := by
      intro action outcome haction hstep
      refine ⟨actions ++ [action], _, ?_, ?_, hsettled.settle outcome,
        fun hself => (hunanswered hself).step haction hstep⟩
      · exact Lts.run_append_eq_some.mpr ⟨middle, hrun, Lts.run_cons_eq_some.mpr ⟨_, hstep, rfl⟩⟩
      · simpa using hlength
    cases hget : middle.receivers[bound]? with
    | none =>
      exact ⟨actions, middle, hrun, hlength, hsettled.succ (by simp [hget]), hunanswered⟩
    | some receiver =>
      cases houtcome : receiver.outcome with
      | some outcome =>
        exact ⟨actions, middle, hrun, hlength, hsettled.succ (by simp [hget, houtcome]),
          hunanswered⟩
      | none =>
        cases hpoll : receiver.slot.poll with
        | some outcome =>
          apply hextend (.take bound) outcome (by simp)
          simp [step, hsettled.wait, hget, houtcome, hpoll]
        | none =>
          apply hextend (.timeout bound) (.error .timeout) (by simp)
          simp [step, hsettled.wait, hget, houtcome, hpoll]

/-- A call that waits can always return: every wait may time out. -/
theorem exists_settled (role : Role) (messages : Messages ι) (hwait : self.phase = .wait) :
    ∃ actions next, Lts.run (step role messages) self actions = some next ∧
      next.phase = .wait ∧ (∀ receiver ∈ next.receivers, receiver.outcome.isSome = true) ∧
      (Unanswered messages self → Unanswered messages next) ∧
      step role messages next .finish =
        some { next with phase := .returned (result role messages next.receivers) } := by
  obtain ⟨actions, next, hrun, hlength, hsettled, hunanswered⟩ :=
    exists_settledBelow role messages hwait self.receivers.length
  have hall : ∀ receiver ∈ next.receivers, receiver.outcome.isSome = true := by
    intro receiver hreceiver
    obtain ⟨k, hk, hget⟩ := getElem_of_mem hreceiver
    exact hsettled.settled k (hlength ▸ hk) receiver (List.getElem?_eq_some_iff.mpr ⟨hk, hget⟩)
  refine ⟨actions, next, hrun, hsettled.wait, hall, hunanswered, ?_⟩
  simp only [step, hsettled.wait]
  exact if_pos (all_eq_true.mpr hall)

/-- The call can come to an end that is not a failed write. -/
def CanReturn (role : Role) (messages : Messages ι) (self : State ι ρ) : Prop :=
  ∃ actions final result,
    Lts.run (step role messages) self actions = some final ∧
      final.phase = .returned result ∧ result ≠ .error .write

theorem Kept.canReturn_of_wait (hfirst : registersFirst role messages = true)
    (hmem : id ∈ messages.requestIds) (hself : Kept role messages index id response self)
    (hwait : self.phase = .wait) : CanReturn role messages self := by
  obtain ⟨actions, next, hrun, hphase, hall, -, hfinish⟩ := exists_settled role messages hwait
  have hdelivered := (hself.run hfirst hmem hrun).result hfirst hphase hall
  obtain ⟨reply, hreply⟩ := hdelivered.exists_reply
  exact ⟨actions ++ [.finish], _, _,
    Lts.run_append_eq_some.mpr ⟨next, hrun, Lts.run_cons_eq_some.mpr ⟨_, hfinish, rfl⟩⟩, rfl,
    by simp [hreply]⟩

theorem Kept.canReturn (hfirst : registersFirst role messages = true)
    (hmem : id ∈ messages.requestIds) (hself : Kept role messages index id response self)
    (hopen : ∀ result, self.phase ≠ .returned result) : CanReturn role messages self := by
  cases hphase : self.phase with
  | written =>
    have hstep : SendMessage.step role messages self .writeReturns =
        some { self with phase := .wait } := by
      simp [SendMessage.step, hphase, ne_nil_of_mem hmem, hfirst]
    obtain ⟨actions, final, result, hrun, hreturned, hwrite⟩ :=
      (hself.step hfirst hmem hstep).canReturn_of_wait hfirst hmem rfl
    exact ⟨.writeReturns :: actions, final, result,
      Lts.run_cons_eq_some.mpr ⟨_, hstep, hrun⟩, hreturned, hwrite⟩
  | wait => exact hself.canReturn_of_wait hfirst hmem hphase
  | returned result => exact absurd hphase (hopen result)
  | _ => exact absurd hself.pastWrite (by simp [PastWrite, hphase])

/-- A response comes to `handle_message`; `handle_error` fails for a refused one. -/
def Action.arrive (refused : Bool) (id : ι) (response : ρ) : Action ι ρ :=
  if refused then .refuse id response else .respond id response

/-- In every run, a response to a request that was written finds its entry. The
call can then return, and unless its write fails it returns the response. -/
def NoResponseLost (ρ : Type v) (role : Role) (messages : Messages ι) (refused : Bool) : Prop :=
  ∀ (entries : List (ι × Nat)) (before : List (Action ι ρ))
    (arrival : State ι ρ) (id : ι) (response : ρ),
    Lts.run (step role messages) (initial role messages entries) before = some arrival →
    Awaited messages before arrival id →
    (∃ index, arrival.pendingRequests.lookup id = some (.own index)) ∧
      ∀ after later,
        Lts.run (step role messages) arrival (.arrive refused id response :: after) = some later →
        ((∀ result, later.phase ≠ .returned result) → CanReturn role messages later) ∧
        ∀ result, later.phase = .returned result → result ≠ .error .write →
          Delivered messages result id response

theorem noResponseLost_of_registersFirst (hfirst : registersFirst role messages = true) :
    NoResponseLost ρ role messages false := by
  intro entries before arrival id response hbefore hawaited
  have harrival := Sound.run hbefore
  have hpast := pastWrite_of_run hfirst hbefore hawaited.written
  obtain ⟨index, hentry, -⟩ := harrival.entry hfirst hpast hawaited
  refine ⟨⟨index, hentry⟩, ?_⟩
  intro after later hrun
  obtain ⟨next, hnext, hafter⟩ := Lts.run_cons_eq_some.mp hrun
  obtain ⟨k, hkept⟩ := harrival.kept hfirst hpast hawaited hnext
  have hlater := hkept.run hfirst hawaited.request hafter
  refine ⟨hlater.canReturn hfirst hawaited.request, ?_⟩
  intro result hreturned hwrite
  exact (hlater.delivered result hreturned).resolve_left hwrite

/-- A batch of the server is on the wire before its requests are registered. -/
theorem not_noResponseLost_server_batch [Inhabited ρ] {messages : List (Message ι)}
    (hids : (Messages.batch messages).requestIds ≠ []) (refused : Bool) :
    ¬ NoResponseLost ρ .server (.batch messages) refused := by
  intro hlost
  obtain ⟨id, hid⟩ := exists_mem_of_ne_nil _ hids
  have hrun : Lts.run (step .server (.batch messages))
      (initial .server (.batch messages) [] : State ι ρ)
      [.serialize, .writePayload] = some ⟨∅, [], .written⟩ := rfl
  have hawaited : Awaited (.batch messages) [.serialize, .writePayload]
      (⟨∅, [], .written⟩ : State ι ρ) id := by
    refine ⟨hid, by simp, by simp, by simp, by simp⟩
  obtain ⟨⟨index, hentry⟩, -⟩ := hlost [] _ _ id default hrun hawaited
  simp at hentry

theorem exists_registered (role : Role) (messages : Messages ι) {todo : List ι}
    (hphase : self.phase = .register todo)
    (hself : ∀ receiver ∈ self.receivers, receiver.outcome = none) :
    ∃ next, Lts.run (step role messages) self (todo.map .register) = some next ∧
      next.phase = .register [] ∧ ∀ receiver ∈ next.receivers, receiver.outcome = none := by
  induction todo generalizing self with
  | nil => exact ⟨self, rfl, hphase, hself⟩
  | cons id todo ih =>
    have hstep : step role messages self (.register id) =
        some ⟨self.pendingRequests.insert id (.own self.receivers.length),
          dropSender self.receivers (self.pendingRequests.lookup id) ++ [⟨id, .empty, none⟩],
          .register todo⟩ := by
      simp [step, hphase]
    have hreceivers : ∀ receiver ∈ dropSender self.receivers (self.pendingRequests.lookup id) ++
        [⟨id, .empty, none⟩], receiver.outcome = none := by
      refine forall_mem_append.mpr ⟨?_, by simp⟩
      unfold dropSender
      split
      · exact CallList.forall_mem_modify hself fun old hold => hself old (mem_of_getElem? hold)
      · exact hself
    obtain ⟨next, hrun, hnext⟩ := @ih ⟨_, _, .register todo⟩ rfl hreceivers
    exact ⟨next, Lts.run_cons_eq_some.mpr ⟨_, hstep, hrun⟩, hnext⟩

/-- A call that registers first can come to wait without a response. -/
theorem exists_waiting (hfirst : registersFirst role messages = true)
    (hids : messages.requestIds ≠ []) :
    ∃ before arrival, Lts.run (step role messages)
        (initial role messages [] : State ι ρ) before = some arrival ∧
      arrival.phase = .wait ∧ .writePayload ∈ before ∧
      (∀ id response, .respond id response ∉ before) ∧
      ∀ receiver ∈ arrival.receivers, receiver.outcome = none := by
  have hphase : (initial role messages [] : State ι ρ).phase = .register messages.requestIds :=
    if_pos hfirst
  obtain ⟨next, hrun, hregistered, hnone⟩ := exists_registered role messages hphase nofun
  refine ⟨messages.requestIds.map .register ++
    [.registered, .serialize, .writePayload, .writeReturns], { next with phase := .wait },
    Lts.run_append_eq_some.mpr ⟨next, hrun, ?_⟩, rfl, by simp, by simp, hnone⟩
  simp [Lts.run, step, hregistered, hfirst, hids]

theorem not_noResponseLost_refused [Inhabited ρ] (hfirst : registersFirst role messages = true)
    (hids : messages.requestIds ≠ []) : ¬ NoResponseLost ρ role messages true := by
  intro hlost
  obtain ⟨id, hid⟩ := exists_mem_of_ne_nil _ hids
  obtain ⟨before, arrival, hbefore, hwait, hwritten, hquiet, hnone⟩ :=
    @exists_waiting _ ρ _ _ _ hfirst hids
  have hawaited : Awaited messages before arrival id :=
    ⟨hid, hwritten, hquiet id, fun receiver hreceiver _ => by simp [hnone receiver hreceiver],
      by simp [hwait]⟩
  obtain ⟨-, hreturns⟩ := hlost [] before arrival id default hbefore hawaited
  -- the entry stays where it is, every wait times out, and the call returns
  obtain ⟨actions, next, hrun, -, hall, hunanswered, hfinish⟩ := exists_settled role messages hwait
  have hrefuse : step role messages arrival (.arrive true id default) = some arrival := if_pos hid
  have hinitial : Unanswered messages (initial role messages [] : State ι ρ) :=
    ⟨nofun, nofun, by simp [initial, hfirst]⟩
  have hfinal : Unanswered messages next := hunanswered (unanswered_of_run hinitial hbefore hquiet)
  have hdelivered := (hreturns (actions ++ [.finish]) _ (Lts.run_cons_eq_some.mpr ⟨_, hrefuse,
    Lts.run_append_eq_some.mpr ⟨next, hrun, Lts.run_cons_eq_some.mpr ⟨_, hfinish, rfl⟩⟩⟩)).2 _ rfl
  exact (hfinal.step (by simp) hfinish).result _ rfl id default
    (hdelivered (hfinal.result_ne_write role))

namespace ResponseDeliveryWitness

/-- The response comes between the write and the registration. -/
def fastPeer : List (Action Nat Nat) :=
  [.serialize, .writePayload, .respond 7 42, .writeReturns, .register 7,
    .registered, .timeout 0, .finish]

end ResponseDeliveryWitness

end McpSdk.SendMessage
