/-
The map of pending requests along every run of `send_message`: which entries
belong to the call, and what is left of them when it returns.
-/
import McpSdk.CallList
import McpSdk.SendMessage

namespace McpSdk.SendMessage

open List

universe u v

variable {ι : Type u} {ρ : Type v}

/-- The receivers are those of the requests, as far as registered. -/
def Shape (role : Role) (messages : Messages ι) (self : State ι ρ) : Prop :=
  match self.phase with
  | .register todo => self.receivers.map (·.id) ++ todo = messages.requestIds
  | .serialize | .write | .written =>
    if registersFirst role messages then
      self.receivers.map (·.id) = messages.requestIds
    else self.receivers = []
  | .wait => self.receivers.map (·.id) = messages.requestIds
  | .returned _ => True

variable {messages : Messages ι} {role : Role}

theorem Shape.mem_requestIds {self : State ι ρ} {id : ι} {todo : List ι}
    (hself : Shape role messages self) (hphase : self.phase = .register (id :: todo)) :
    id ∈ messages.requestIds := by
  simp only [Shape, hphase] at hself
  rw [← hself]
  simp

theorem Shape.modify {self : State ι ρ} (hself : Shape role messages self)
    {index : Nat} {change : Receiver ι ρ → Receiver ι ρ}
    (hchange : ∀ receiver, (change receiver).id = receiver.id) :
    Shape role messages
      { self with receivers := self.receivers.modify index change } := by
  unfold Shape at hself ⊢
  have hnil : self.receivers = [] →
      self.receivers.modify index change = [] := by
    intro hempty
    rw [hempty]
    exact modify_nil ..
  cases hphase : self.phase with
  | returned result => trivial
  | _ =>
    simp only [hphase, map_id_modify hchange] at hself ⊢
    first
    | exact hself
    | split at hself <;> simp_all

variable [DecidableEq ι]

theorem foreignEntries_lookup (entries : List (ι × Nat)) (id : ι) (index : Nat) :
    (foreignEntries entries).lookup id ≠ some (.own index) := by
  induction entries with
  | nil => simp [foreignEntries]
  | cons entry entries ih =>
    obtain ⟨other, channel⟩ := entry
    by_cases hid : id = other
    · subst hid
      simp [foreignEntries]
    · rw [foreignEntries, AList.lookup_insert_ne hid]
      exact ih

theorem initial_shape (role : Role) (messages : Messages ι) (entries : List (ι × Nat)) :
    Shape role messages (initial role messages entries : State ι ρ) := by
  unfold Shape initial
  cases hfirst : registersFirst role messages with
  | true | false => simp

variable {self next : State ι ρ} {action : Action ι ρ}

/-- A step keeps receivers and phase in line with the messages. -/
theorem Shape.step (hself : Shape role messages self)
    (hstep : SendMessage.step role messages self action = some next) :
    Shape role messages next := by
  cases step_cases hstep with
  | register hphase =>
    simp only [Shape, hphase] at hself
    simpa [Shape, dropSender_map_id] using hself
  | registered hphase =>
    simp only [Shape, hphase, append_nil] at hself
    cases hfirst : registersFirst role messages with
    | true | false => simpa [Shape, hfirst] using hself
  | serialize hphase => simpa [Shape, hphase] using hself
  | serializeFails hphase => trivial
  | writePayload hphase => simpa [Shape, hphase] using hself
  | writeReturns hphase =>
    simp only [Shape, hphase] at hself
    by_cases hids : messages.requestIds = []
    · simp [Shape, hids]
    · cases hfirst : registersFirst role messages with
      | true => simpa [Shape, hids, hfirst] using hself
      | false =>
        have hempty : self.receivers = [] := by
          simpa [hfirst] using hself
        simp [Shape, hids, hempty]
  | writeFails hphase => trivial
  | respondOwn hid hentry => exact hself.modify (Receiver.send_id _)
  | respondForeign | respondNone | refuse => exact hself
  | take | timeout => exact hself.modify (Receiver.settle_id _)
  | finish hphase hall => trivial
  | others hsame => exact hself

/-- An entry of the call leads to a receiver that has received nothing. -/
def Linked (messages : Messages ι) (self : State ι ρ) : Prop :=
  ∀ id ∈ messages.requestIds, ∀ index,
    self.pendingRequests.lookup id = some (.own index) →
      ∃ outcome, self.receivers[index]? = some ⟨id, .empty, outcome⟩ ∧
        (outcome = none ∨ outcome = some (.error .timeout))

theorem Linked.ne_of_ne {self : State ι ρ} {id other : ι} {index k : Nat}
    (hself : Linked messages self) (hid : id ∈ messages.requestIds)
    (hother : other ∈ messages.requestIds)
    (hentry : self.pendingRequests.lookup id = some (.own index))
    (hk : self.pendingRequests.lookup other = some (.own k)) (hne : other ≠ id) : index ≠ k := by
  rintro rfl
  obtain ⟨outcome, hget, -⟩ := hself id hid index hentry
  obtain ⟨outcome', hget', -⟩ := hself other hother index hk
  rw [hget] at hget'
  cases hget'
  exact hne rfl

/-- A step keeps the receivers behind the entries empty. -/
theorem Linked.step (hshape : Shape role messages self) (hself : Linked messages self)
    (hstep : SendMessage.step role messages self action = some next) : Linked messages next := by
  cases step_cases hstep with
  | @register id todo hphase =>
    intro other hother k hk
    by_cases hne : other = id
    · subst hne
      simp only [AList.lookup_insert, Option.some.injEq, Sender.own.injEq] at hk
      subst hk
      refine ⟨none, ?_, .inl rfl⟩
      have hlength := dropSender_length self.receivers (self.pendingRequests.lookup other)
      rw [← hlength]
      exact getElem?_concat_length
    · have hk' : self.pendingRequests.lookup other = some (.own k) := by
        rwa [AList.lookup_insert_ne hne] at hk
      obtain ⟨outcome, hget, houtcome⟩ := hself other hother k hk'
      refine ⟨outcome, ?_, houtcome⟩
      have hkept : self.pendingRequests.lookup id ≠ some (.own k) := by
        intro hentry
        exact hself.ne_of_ne (hshape.mem_requestIds hphase) hother hentry hk' hne rfl
      exact CallList.getElem?_concat_of_some ((dropSender_getElem? hkept).trans hget) _
  | registered | serialize | serializeFails | writePayload | writeReturns
  | writeFails => exact hself
  | @respondOwn id response index hid hentry =>
    intro other hother k hk
    by_cases hne : other = id
    · subst hne
      simp at hk
    · have hk' : self.pendingRequests.lookup other = some (.own k) := by
        rwa [AList.lookup_erase_ne hne] at hk
      obtain ⟨outcome, hget, houtcome⟩ := hself other hother k hk'
      refine ⟨outcome, ?_, houtcome⟩
      rw [← hget]
      exact getElem?_modify_ne _ _ (hself.ne_of_ne hid hother hentry hk' hne)
  | @respondForeign id response channel hid hentry =>
    intro other hother k hk
    by_cases hne : other = id
    · subst hne
      simp at hk
    · exact hself other hother k (by rwa [AList.lookup_erase_ne hne] at hk)
  | respondNone | refuse => exact hself
  | @take index receiver outcome hphase hget hnone hpoll =>
    intro other hother k hk
    obtain ⟨outcome', hget', houtcome'⟩ := hself other hother k hk
    refine ⟨outcome', ?_, houtcome'⟩
    rw [← hget']
    apply getElem?_modify_ne
    -- a receiver that can be taken from is not empty
    rintro rfl
    rw [hget'] at hget
    cases hget
    cases hpoll
  | @timeout index receiver hphase hget hnone hpoll =>
    intro other hother k hk
    obtain ⟨outcome, hget', houtcome⟩ := hself other hother k hk
    by_cases hindex : index = k
    · subst hindex
      refine ⟨some (.error .timeout), ?_, .inr rfl⟩
      rw [getElem?_modify_eq, hget']
      rfl
    · refine ⟨outcome, ?_, houtcome⟩
      rw [← hget']
      exact getElem?_modify_ne _ _ hindex
  | finish hphase hall => exact hself
  | others hsame =>
    intro other hother k hk
    exact hself other hother k ((hsame other hother).symm.trans hk)

/-- The effect of an action on the requests that wait for a response. -/
def outstandingStep (ids : List ι) : Action ι ρ → List ι
  | .register id => id :: ids
  | .respond id _ => ids.filter (· ≠ id)
  | _ => ids

/-- The requests registered by the call and not answered since. -/
def outstanding (trace : List (Action ι ρ)) : List ι :=
  trace.foldl outstandingStep []

theorem outstanding_concat (trace : List (Action ι ρ)) (action : Action ι ρ) :
    outstanding (trace ++ [action]) = outstandingStep (outstanding trace) action := by
  simp [outstanding]

/-- The entries of the call are those of its outstanding requests. -/
def Tracked (messages : Messages ι) (trace : List (Action ι ρ)) (self : State ι ρ) : Prop :=
  ∀ id, id ∈ outstanding trace ↔ id ∈ messages.requestIds ∧
    ∃ index, self.pendingRequests.lookup id = some (.own index)

theorem initial_tracked (role : Role) (messages : Messages ι) (entries : List (ι × Nat)) :
    Tracked messages [] (initial role messages entries : State ι ρ) := by
  intro id
  constructor
  · intro hid
    cases hid
  · rintro ⟨hid, index, hentry⟩
    exact absurd hentry (foreignEntries_lookup entries id index)

variable {trace : List (Action ι ρ)}

/-- A step keeps the entries those of the outstanding requests. -/
theorem Tracked.step (hshape : Shape role messages self) (hself : Tracked messages trace self)
    (hstep : SendMessage.step role messages self action = some next) :
    Tracked messages (trace ++ [action]) next := by
  intro other
  rw [outstanding_concat]
  -- a response clears the entry of its id and touches no other
  have hrespond : ∀ {id : ι} {pending : AList fun _ : ι => Sender},
      (∀ index, pending.lookup id ≠ some (.own index)) →
      (∀ other ≠ id, pending.lookup other = self.pendingRequests.lookup other) →
      (other ∈ (outstanding trace).filter (· ≠ id) ↔
        other ∈ messages.requestIds ∧
          ∃ index, pending.lookup other = some (.own index)) := by
    intro id pending hgone hkept
    by_cases hne : other = id
    · subst hne
      simp [hgone]
    · rw [hkept other hne, ← hself other]
      simp [hne]
  cases step_cases hstep with
  | @register id todo hphase =>
    by_cases hne : other = id
    · subst hne
      simp [outstandingStep, hshape.mem_requestIds hphase]
    · simp [outstandingStep, hne, AList.lookup_insert_ne hne, hself other]
  | registered | serialize | serializeFails | writePayload | writeReturns
  | writeFails => exact hself other
  | respondOwn | respondForeign =>
    exact hrespond (by simp) fun other hne => AList.lookup_erase_ne hne
  | respondNone hid hentry => exact hrespond (by simp [hentry]) fun _ _ => rfl
  | refuse | take | timeout | finish => exact hself other
  | others hsame =>
    constructor
    · intro hother
      obtain ⟨hid, index, hentry⟩ := (hself other).mp hother
      exact ⟨hid, index, (hsame other hid).trans hentry⟩
    · rintro ⟨hid, index, hentry⟩
      exact (hself other).mpr ⟨hid, index, (hsame other hid).symm.trans hentry⟩

/-- The receivers of the call are those of the ids it has registered. -/
def Registered (trace : List (Action ι ρ)) (self : State ι ρ) : Prop :=
  ∀ id, .register id ∈ trace ↔ id ∈ self.receivers.map (·.id)

/-- A step keeps the receivers those of the registered ids. -/
theorem Registered.step (hself : Registered trace self)
    (hstep : SendMessage.step role messages self action = some next) :
    Registered (trace ++ [action]) next := by
  intro other
  have hother := hself other
  cases step_cases hstep with
  | register hphase =>
    simp [dropSender_map_id, hother]
  | registered | serialize | serializeFails | writePayload | writeReturns
  | writeFails => simpa using hother
  | respondOwn hid hentry =>
    rw [map_id_modify (Receiver.send_id _)]
    simpa using hother
  | respondForeign | respondNone | refuse => simpa using hother
  | take | timeout =>
    rw [map_id_modify (Receiver.settle_id _)]
    simpa using hother
  | finish | others => simpa using hother

theorem mem_outstanding {id : ι} (hregistered : .register id ∈ trace)
    (hunanswered : ∀ response, .respond id response ∉ trace) : id ∈ outstanding trace := by
  induction trace using List.reverseRecOn with
  | nil => cases hregistered
  | append_singleton trace action ih =>
    rw [outstanding_concat]
    have hbefore : ∀ response, .respond id response ∉ trace := by
      intro response hmem
      exact hunanswered response (mem_append_left _ hmem)
    rcases mem_append.mp hregistered with hmem | hmem
    · have hid := ih hmem hbefore
      cases action with
      | register other => exact mem_cons_of_mem _ hid
      | respond other response =>
        have hne : id ≠ other := by
          rintro rfl
          exact hunanswered response (by simp)
        simpa [outstandingStep, hne] using hid
      | _ => exact hid
    · rw [mem_singleton] at hmem
      subst hmem
      exact mem_cons_self

theorem register_mem_of_mem_outstanding {id : ι}
    (hid : id ∈ outstanding trace) : .register id ∈ trace := by
  induction trace using List.reverseRecOn with
  | nil => cases hid
  | append_singleton trace action ih =>
    rw [outstanding_concat] at hid
    cases action with
    | register other =>
      rcases mem_cons.mp hid with rfl | hid
      · simp
      · exact mem_append_left _ (ih hid)
    | respond other response =>
      exact mem_append_left _ (ih (mem_filter.mp hid).1)
    | _ => exact mem_append_left _ (ih hid)

/-- The effect of the other users of the map on it. -/
def leftByOthersStep (pending : AList fun _ : ι => Sender) :
    Action ι ρ → AList fun _ : ι => Sender
  | .respond id _ => pending.erase id
  | .others pendingRequests => pendingRequests
  | _ => pending

/-- The map as other calls and arriving responses have left it. -/
def leftByOthers (entries : List (ι × Nat)) (trace : List (Action ι ρ)) :
    AList fun _ : ι => Sender :=
  trace.foldl leftByOthersStep (foreignEntries entries)

/-- The call changes nothing but the entries of the ids it registers. -/
def Framed (entries : List (ι × Nat)) (trace : List (Action ι ρ)) (self : State ι ρ) : Prop :=
  ∀ id, .register id ∉ trace →
    self.pendingRequests.lookup id = (leftByOthers entries trace).lookup id

/-- A step leaves the entries of others to the others. -/
theorem Framed.step {entries : List (ι × Nat)} (hself : Framed entries trace self)
    (hstep : SendMessage.step role messages self action = some next) :
    Framed entries (trace ++ [action]) next := by
  intro other hother
  rw [mem_append, not_or, mem_singleton] at hother
  obtain ⟨hbefore, hnot⟩ := hother
  have hsame := hself other hbefore
  rw [leftByOthers, foldl_concat]
  have herase : ∀ id : ι,
      (self.pendingRequests.erase id).lookup other =
        ((leftByOthers entries trace).erase id).lookup other := by
    intro id
    by_cases hne : other = id
    · subst hne
      simp
    · rw [AList.lookup_erase_ne hne, AList.lookup_erase_ne hne, hsame]
  cases step_cases hstep with
  | @register id todo hphase =>
    have hne : other ≠ id := by
      rintro rfl
      exact hnot rfl
    exact (AList.lookup_insert_ne hne).trans hsame
  | respondOwn | respondForeign => exact herase _
  | @respondNone id response hid hentry =>
    by_cases hne : other = id
    · subst hne
      simpa [leftByOthersStep] using hentry
    · exact hsame.trans (AList.lookup_erase_ne hne).symm
  | others hagree => rfl
  | registered | serialize | serializeFails | writePayload | writeReturns
  | writeFails | refuse | take | timeout | finish => exact hsame

/-- An id that is registered is one of the requests, and no other entry is under it. -/
def Owned (messages : Messages ι) (trace : List (Action ι ρ)) (self : State ι ρ) : Prop :=
  ∀ id, .register id ∈ trace → id ∈ messages.requestIds ∧
    ∀ channel, self.pendingRequests.lookup id ≠ some (.foreign channel)

/-- A step puts no other entry under a registered id. -/
theorem Owned.step (hshape : Shape role messages self) (hself : Owned messages trace self)
    (hstep : SendMessage.step role messages self action = some next) :
    Owned messages (trace ++ [action]) next := by
  intro other hother
  rw [mem_append, mem_singleton] at hother
  have herase : ∀ id : ι, .register other ∈ trace →
      other ∈ messages.requestIds ∧ ∀ channel,
        (self.pendingRequests.erase id).lookup other ≠
          some (.foreign channel) := by
    intro id hmem
    obtain ⟨hid, hentry⟩ := hself other hmem
    refine ⟨hid, ?_⟩
    by_cases hne : other = id
    · subst hne
      simp
    · rwa [AList.lookup_erase_ne hne]
  cases step_cases hstep with
  | @register id todo hphase =>
    by_cases hne : other = id
    · subst hne
      exact ⟨hshape.mem_requestIds hphase, by simp⟩
    · have hmem := hother.resolve_right fun heq => hne (by cases heq; rfl)
      simp only [AList.lookup_insert_ne hne]
      exact hself other hmem
  | respondOwn | respondForeign => exact herase _ (hother.resolve_right nofun)
  | others hagree =>
    obtain ⟨hid, hentry⟩ := hself other (hother.resolve_right nofun)
    refine ⟨hid, ?_⟩
    rwa [hagree other hid]
  | respondNone | refuse | registered | serialize | serializeFails | writePayload
  | writeReturns | writeFails => exact hself other (hother.resolve_right nofun)
  | take | timeout =>
    exact hself other (hother.resolve_right nofun)
  | finish hphase hall => exact hself other (hother.resolve_right nofun)

/-- All that holds of the call, whatever the others do. -/
structure Sound (role : Role) (messages : Messages ι)
    (entries : List (ι × Nat)) (trace : List (Action ι ρ))
    (state : State ι ρ) : Prop where
  shape : Shape role messages state
  linked : Linked messages state
  tracked : Tracked messages trace state
  registered : Registered trace state
  framed : Framed entries trace state
  owned : Owned messages trace state

/-- All invariants of the call hold after any run. -/
theorem Sound.run {entries : List (ι × Nat)} {final : State ι ρ}
    (hrun : Lts.run (step role messages) (initial role messages entries) trace = some final) :
    Sound role messages entries trace final := by
  refine Lts.run_trace_invariant ?_ ?_ hrun
  · intro trace state next action hstate hstep
    exact ⟨hstate.shape.step hstep, hstate.linked.step hstate.shape hstep,
      hstate.tracked.step hstate.shape hstep, hstate.registered.step hstep,
      hstate.framed.step hstep, hstate.owned.step hstate.shape hstep⟩
  · refine ⟨initial_shape role messages entries,
      fun id _ index hentry => absurd hentry (foreignEntries_lookup entries id index),
      initial_tracked role messages entries, ?_, ?_, ?_⟩
    · intro id
      simp [initial]
    · intro id hid
      rfl
    · intro id hid
      cases hid

/-- No entry under a registered id, and otherwise as the other users left it. -/
def CleanAfter (entries : List (ι × Nat)) (trace : List (Action ι ρ)) (final : State ι ρ) : Prop :=
  (∀ id, .register id ∈ trace → final.pendingRequests.lookup id = none) ∧
    ∀ id, .register id ∉ trace →
      final.pendingRequests.lookup id = (leftByOthers entries trace).lookup id

/-- However the call ends, the map is clean exactly when each registered request
has been answered since. -/
theorem run_cleanAfter_iff {role : Role} {messages : Messages ι} {entries : List (ι × Nat)}
    {trace : List (Action ι ρ)} {final : State ι ρ}
    (hrun : Lts.run (step role messages) (initial role messages entries) trace = some final) :
    CleanAfter entries trace final ↔ outstanding trace = [] := by
  have hfinal := Sound.run hrun
  rw [eq_nil_iff_forall_not_mem]
  constructor
  · rintro ⟨hclean, -⟩ id hid
    obtain ⟨-, index, hentry⟩ := (hfinal.tracked id).mp hid
    have hnone := hclean id (register_mem_of_mem_outstanding hid)
    rw [hnone] at hentry
    cases hentry
  · intro hanswered
    refine ⟨?_, hfinal.framed⟩
    intro id hid
    obtain ⟨hrequest, hforeign⟩ := hfinal.owned id hid
    cases hentry : final.pendingRequests.lookup id with
    | none => rfl
    | some sender =>
      cases sender with
      | own index =>
        have hwaits := (hfinal.tracked id).mpr ⟨hrequest, index, hentry⟩
        exact absurd hwaits (hanswered id)
      | foreign channel => exact absurd hentry (hforeign channel)

namespace PendingRequestsWitness

def timedOut : List (Action Nat Nat) :=
  [.register 1, .registered, .serialize, .writePayload, .writeReturns, .timeout 0, .finish]

def answered : List (Action Nat Nat) :=
  [.register 1, .registered, .serialize, .writePayload, .respond 1 42,
    .writeReturns, .take 0, .finish]

theorem not_cleanAfter_timedOut :
    ¬ ∀ (entries : List (Nat × Nat)) (trace : List (Action Nat Nat))
      (final : State Nat Nat) (result : Result Nat Nat),
      Lts.run (step .client (.single (.request 1)))
        (initial .client (.single (.request 1)) entries) trace = some final →
      final.phase = .returned result → CleanAfter entries trace final := by
  intro hclean
  have hfinal := hclean [] timedOut _ _ rfl rfl
  have hentry := hfinal.1 1 (by simp [timedOut])
  cases hentry

theorem cleanAfter_answered :
    ∃ final : State Nat Nat, Lts.run (step .client (.single (.request 1)))
        (initial .client (.single (.request 1)) [(8, 3)]) answered = some final ∧
      final.phase = .returned (.ok (some (.single 42))) ∧
      final.pendingRequests.lookup 8 = some (.foreign 3) ∧ CleanAfter [(8, 3)] answered final := by
  have hrun : Lts.run (step .client (.single (.request 1)))
      (initial .client (.single (.request 1)) [(8, 3)]) answered =
        some ⟨foreignEntries [(8, 3)], [⟨1, .sent 42, some (.ok 42)⟩],
          .returned (.ok (some (.single 42)))⟩ := rfl
  exact ⟨_, hrun, rfl, rfl, (run_cleanAfter_iff hrun).mpr rfl⟩

end PendingRequestsWitness

end McpSdk.SendMessage
