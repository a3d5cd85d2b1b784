/-
The map of pending requests beside the calls of `send_message`. A call returns
what it receives, or an error when its sender is dropped.
-/
import McpSdk.CallList
import McpSdk.SendMessage

namespace McpSdk.PendingCalls

open SendMessage (Slot TransportError)

universe u v

variable {ι : Type u} {μ : Type v}

inductive Phase (μ : Type v) where
  | writing
  | waiting
  | returned (result : Except TransportError μ)

/-- A call, and what its channel holds. -/
structure Call (ι : Type u) (μ : Type v) where
  id : ι
  slot : Slot μ
  phase : Phase μ

def Call.isOpen (self : Call ι μ) : Bool :=
  match self.phase with
  | .returned _ => false
  | _ => true

/-- `Sender::send`, which fails when the receiver is gone. -/
def Call.send (message : μ) (self : Call ι μ) : Call ι μ :=
  if self.isOpen then { self with slot := .sent message } else self

def received : Slot μ → Option (Except TransportError μ)
  | .empty => none
  | .sent message => some (.ok message)
  | .closed => some (.error .connectionClosed)

/-- The map of pending requests, with the call that each sender belongs to. -/
structure Dispatcher (ι : Type u) (μ : Type v) where
  pendingRequests : AList fun _ : ι => Nat
  calls : List (Call ι μ)

inductive Op (ι : Type u) (μ : Type v) where
  | register (id : ι)
  | written (call : Nat)
  | writeFails (call : Nat)
  | receive (call : Nat)
  | timeout (call : Nat)
  /-- `pending_request_tx`, and the message is sent. -/
  | respond (id : ι) (message : μ)
  | clear

namespace Dispatcher

def update (self : Dispatcher ι μ) (call : Nat) (change : Call ι μ → Call ι μ) : Dispatcher ι μ :=
  { self with calls := self.calls.modify call change }

def setPhase (self : Dispatcher ι μ) (call : Nat) (phase : Phase μ) : Dispatcher ι μ :=
  self.update call fun call => { call with phase }

variable {index : Nat} {call : Call ι μ}

theorem update_calls {self : Dispatcher ι μ} (hcall : self.calls[index]? = some call)
    (other : Nat) (change : Call ι μ → Call ι μ) :
    (self.update other change).calls[index]? =
      some (if other = index then change call else call) := by
  rw [update, List.getElem?_modify, hcall]
  split
  · rfl
  · rfl

variable [DecidableEq ι]

def dropSender (self : Dispatcher ι μ) (id : ι) : Dispatcher ι μ :=
  match self.pendingRequests.lookup id with
  | some call => self.update call fun call => { call with slot := .closed }
  | none => self

/-- The entry is taken out of the map, and its sender gets the message. -/
def respond (self : Dispatcher ι μ) (id : ι) (message : μ) : Dispatcher ι μ :=
  match self.pendingRequests.lookup id with
  | some call =>
    { self with pendingRequests := self.pendingRequests.erase id }.update call (.send message)
  | none => self

def apply (self : Dispatcher ι μ) : Op ι μ → Option (Dispatcher ι μ)
  | .register id =>
    some ⟨self.pendingRequests.insert id self.calls.length,
      (self.dropSender id).calls ++ [⟨id, .empty, .writing⟩]⟩
  | .written call =>
    match self.calls[call]? with
    | some ⟨_, _, .writing⟩ => some (self.setPhase call .waiting)
    | _ => none
  | .writeFails call =>
    match self.calls[call]? with
    | some ⟨_, _, .writing⟩ =>
      some (self.setPhase call (.returned (.error .write)))
    | _ => none
  | .receive call =>
    match self.calls[call]? with
    | some ⟨_, slot, .waiting⟩ =>
      (received slot).map fun result =>
        self.setPhase call (.returned result)
    | _ => none
  | .timeout call =>
    match self.calls[call]? with
    | some ⟨_, .empty, .waiting⟩ =>
      some (self.setPhase call (.returned (.error .timeout)))
    | _ => none
  | .respond id message => some (self.respond id message)
  | .clear =>
    some ⟨∅, self.calls.mapIdx fun index call =>
      if self.pendingRequests.lookup call.id = some index then
        { call with slot := .closed }
      else call⟩

def callAfter (self : Dispatcher ι μ) (index : Nat) (call : Call ι μ) :
    Op ι μ → Call ι μ
  | .register id =>
    if self.pendingRequests.lookup id = some index then
      { call with slot := .closed }
    else call
  | .written other =>
    if other = index then { call with phase := .waiting } else call
  | .writeFails other =>
    if other = index then { call with phase := .returned (.error .write) }
    else call
  | .receive other =>
    match received call.slot with
    | some result =>
      if other = index then { call with phase := .returned result } else call
    | none => call
  | .timeout other =>
    if other = index then { call with phase := .returned (.error .timeout) }
    else call
  | .respond id message =>
    if self.pendingRequests.lookup id = some index then call.send message
    else call
  | .clear =>
    if self.pendingRequests.lookup call.id = some index then
      { call with slot := .closed }
    else call

theorem dropSender_calls {self : Dispatcher ι μ} (hcall : self.calls[index]? = some call) (id : ι) :
    (self.dropSender id).calls[index]? = some (self.callAfter index call (.register id)) := by
  rw [dropSender, callAfter]
  cases hentry : self.pendingRequests.lookup id with
  | none => simpa using hcall
  | some other => simp [update_calls hcall]

variable {self next : Dispatcher ι μ} {op : Op ι μ}

theorem apply_calls (hop : self.apply op = some next) (hcall : self.calls[index]? = some call) :
    next.calls[index]? = some (self.callAfter index call op) := by
  cases op with
  | register id =>
    cases hop
    exact CallList.getElem?_concat_of_some (dropSender_calls hcall id) _
  | written other | writeFails other =>
    simp only [apply] at hop
    split at hop
    · cases hop
      exact update_calls hcall other _
    · cases hop
  | receive other =>
    simp only [apply] at hop
    split at hop
    · next id slot hother =>
      obtain ⟨result, hresult, rfl⟩ := Option.map_eq_some_iff.mp hop
      rw [setPhase, update_calls hcall, callAfter]
      by_cases hsame : other = index
      · subst hsame
        rw [hcall] at hother
        cases hother
        simp [hresult]
      · cases received call.slot <;> simp [hsame]
    · cases hop
  | timeout other =>
    simp only [apply] at hop
    split at hop
    · cases hop
      exact update_calls hcall other _
    · cases hop
  | respond id message =>
    cases hop
    rw [callAfter, respond]
    cases hentry : self.pendingRequests.lookup id with
    | some other =>
      have hsame : ({ self with pendingRequests :=
          self.pendingRequests.erase id } : Dispatcher ι μ).calls[index]? = some call := hcall
      simpa using update_calls hsame other (.send message)
    | none => simpa using hcall
  | clear =>
    cases hop
    simp [hcall, callAfter]

def entryAfter (self : Dispatcher ι μ) (id : ι) : Op ι μ → Option Nat
  | .register other =>
    if id = other then some self.calls.length
    else self.pendingRequests.lookup id
  | .respond other _ =>
    if id = other then none else self.pendingRequests.lookup id
  | .clear => none
  | _ => self.pendingRequests.lookup id

theorem respond_lookup (self : Dispatcher ι μ) (other : ι) (message : μ) (id : ι) :
    (self.respond other message).pendingRequests.lookup id =
      if id = other then none else self.pendingRequests.lookup id := by
  rw [respond]
  cases hentry : self.pendingRequests.lookup other with
  | some call =>
    by_cases hsame : id = other
    · subst hsame
      simp [update]
    · simp [update, hsame, AList.lookup_erase_ne hsame]
  | none =>
    by_cases hsame : id = other
    · subst hsame
      simp [hentry]
    · simp [hsame]

/-- The steps of a call that it can take only in its place. -/
def Enabled (self : Dispatcher ι μ) : Op ι μ → Prop
  | .written call => ∃ id slot, self.calls[call]? = some ⟨id, slot, .writing⟩
  | .writeFails call => ∃ id slot, self.calls[call]? = some ⟨id, slot, .writing⟩
  | .receive call => ∃ id slot, self.calls[call]? = some ⟨id, slot, .waiting⟩ ∧
      received slot ≠ none
  | .timeout call => ∃ id, self.calls[call]? = some ⟨id, .empty, .waiting⟩
  | _ => True

theorem apply_eq_some (hop : self.apply op = some next) :
    self.Enabled op ∧ ∀ id, next.pendingRequests.lookup id = self.entryAfter id op := by
  cases op with
  | register other =>
    cases hop
    refine ⟨trivial, fun id => ?_⟩
    by_cases hsame : id = other
    · subst hsame
      simp [entryAfter]
    · simp [entryAfter, hsame, AList.lookup_insert_ne hsame]
  | written | writeFails =>
    simp only [apply] at hop
    split at hop
    · next id slot hcall =>
      cases hop
      exact ⟨⟨id, slot, hcall⟩, fun _ => rfl⟩
    · cases hop
  | receive call =>
    simp only [apply] at hop
    split at hop
    · next id slot hcall =>
      obtain ⟨result, hresult, rfl⟩ := Option.map_eq_some_iff.mp hop
      exact ⟨⟨id, slot, hcall, by simp [hresult]⟩, fun _ => rfl⟩
    · cases hop
  | timeout call =>
    simp only [apply] at hop
    split at hop
    · next id hcall =>
      cases hop
      exact ⟨⟨id, hcall⟩, fun _ => rfl⟩
    · cases hop
  | respond other message =>
    cases hop
    exact ⟨trivial, fun id => self.respond_lookup other message id⟩
  | clear =>
    cases hop
    exact ⟨trivial, fun id => AList.lookup_empty id⟩

/-- A sender in the map has sent nothing, and belongs to a call of its id. -/
def Linked (self : Dispatcher ι μ) : Prop :=
  ∀ id call, self.pendingRequests.lookup id = some call →
    ∃ phase, self.calls[call]? = some ⟨id, .empty, phase⟩

theorem Linked.eq (hself : self.Linked) {id : ι} (hcall : self.calls[index]? = some call)
    (hentry : self.pendingRequests.lookup id = some index) : call.id = id ∧ call.slot = .empty := by
  obtain ⟨phase, hlinked⟩ := hself _ _ hentry
  rw [hcall] at hlinked
  cases hlinked
  exact ⟨rfl, rfl⟩

theorem dropSender_length (self : Dispatcher ι μ) (id : ι) :
    (self.dropSender id).calls.length = self.calls.length := by
  unfold dropSender
  split
  · exact List.length_modify _ _ _
  · rfl

theorem Linked.apply (hself : self.Linked) (hop : self.apply op = some next) : next.Linked := by
  intro id index hentry
  rw [(apply_eq_some hop).2] at hentry
  -- an entry that was there keeps its call, but for the phase
  have hkept : self.pendingRequests.lookup id = some index →
      (∀ phase, ∃ phase', self.callAfter index ⟨id, .empty, phase⟩ op = ⟨id, .empty, phase'⟩) →
      ∃ phase, next.calls[index]? = some ⟨id, .empty, phase⟩ := by
    intro hold hafter
    obtain ⟨phase, hcall⟩ := hself _ _ hold
    obtain ⟨phase', hsame⟩ := hafter phase
    exact ⟨phase', (apply_calls hop hcall).trans (congrArg some hsame)⟩
  have hother : ∀ {other}, self.pendingRequests.lookup id = some index →
      ¬ id = other → self.pendingRequests.lookup other ≠ some index := by
    intro other hold hne hsame
    obtain ⟨phase, hcall⟩ := hself _ _ hold
    exact hne (hself.eq hcall hsame).1
  cases op with
  | register other =>
    rw [entryAfter] at hentry
    split at hentry
    · next hsame =>
      cases hentry
      cases hop
      subst hsame
      refine ⟨.writing, ?_⟩
      rw [← self.dropSender_length id, List.getElem?_concat_length]
    · next hne =>
      refine hkept hentry fun phase => ⟨phase, ?_⟩
      rw [callAfter, if_neg (hother hentry hne)]
  | written | writeFails =>
    refine hkept hentry fun phase => ?_
    rw [callAfter]
    split
    · exact ⟨_, rfl⟩
    · exact ⟨_, rfl⟩
  | receive call => exact hkept hentry fun phase => ⟨phase, rfl⟩
  | timeout call =>
    refine hkept hentry fun phase => ?_
    rw [callAfter]
    split
    · exact ⟨_, rfl⟩
    · exact ⟨_, rfl⟩
  | respond other message =>
    rw [entryAfter] at hentry
    split at hentry
    · cases hentry
    · next hne =>
      refine hkept hentry fun phase => ⟨phase, ?_⟩
      rw [callAfter, if_neg (hother hentry hne)]
  | clear => cases hentry

/-- The call has this result, or has received it. -/
def Settles (self : Dispatcher ι μ) (index : Nat) (result : Except TransportError μ) : Prop :=
  ∃ call, self.calls[index]? = some call ∧
    (call.phase = .returned result ∨ call.phase = .waiting ∧ received call.slot = some result)

/-- The call waits, and its sender is in the map. -/
structure Waits (id : ι) (index : Nat) (dispatcher : Dispatcher ι μ) : Prop where
  entry : dispatcher.pendingRequests.lookup id = some index
  call : dispatcher.calls[index]? = some ⟨id, .empty, .waiting⟩

theorem Settles.apply {result : Except TransportError μ} (hself : self.Linked)
    (hsettles : self.Settles index result) (hop : self.apply op = some next) :
    next.Settles index result := by
  obtain ⟨call, hcall, hresult⟩ := hsettles
  have henabled := (apply_eq_some hop).1
  refine ⟨_, apply_calls hop hcall, ?_⟩
  -- a sender in the map has sent nothing
  have hentry : ∀ {id}, call.phase = .waiting ∧ received call.slot = some result →
      self.pendingRequests.lookup id ≠ some index := by
    rintro id ⟨-, hslot⟩ hentry
    rw [(hself.eq hcall hentry).2] at hslot
    cases hslot
  have hwriting : ∀ {other}, (∃ id slot,
      self.calls[other]? = some ⟨id, slot, .writing⟩) → other ≠ index := by
    rintro other ⟨id, slot, hphase⟩ rfl
    rw [hcall] at hphase
    cases hphase
    simp at hresult
  cases op with
  | register id =>
    rw [callAfter]
    split
    · next hsame =>
      exact hresult.imp_right fun hwaits => absurd hsame (hentry hwaits)
    · exact hresult
  | written | writeFails =>
    rw [callAfter, if_neg (hwriting henabled)]
    exact hresult
  | receive other =>
    rw [callAfter]
    split
    · next given hgiven =>
      split
      · next hsame =>
        subst hsame
        obtain ⟨id, slot, hwaiting, -⟩ := henabled
        rw [hcall] at hwaiting
        cases hwaiting
        rcases hresult with hreturned | ⟨-, hslot⟩
        · cases hreturned
        · rw [hgiven] at hslot
          cases hslot
          exact .inl rfl
      · exact hresult
    · exact hresult
  | timeout other =>
    rw [callAfter]
    split
    · next hsame =>
      subst hsame
      obtain ⟨id, hwaiting⟩ := henabled
      rw [hcall] at hwaiting
      cases hwaiting
      simp [received] at hresult
    · exact hresult
  | respond id message =>
    rw [callAfter]
    split
    · next hsame =>
      rcases hresult with hreturned | hwaits
      · left
        simp [Call.send, Call.isOpen, hreturned]
      · exact absurd hsame (hentry hwaits)
    · exact hresult
  | clear =>
    rw [callAfter]
    split
    · next hsame =>
      exact hresult.imp_right fun hwaits => absurd hsame (hentry hwaits)
    · exact hresult

/-- What a call that waits is given, when the operation gives it something. -/
def settling (id : ι) (index : Nat) :
    Op ι μ → Option (Except TransportError μ)
  | .register other =>
    if other = id then some (.error .connectionClosed) else none
  | .timeout other => if other = index then some (.error .timeout) else none
  | .respond other message => if other = id then some (.ok message) else none
  | .clear => some (.error .connectionClosed)
  | _ => none

/-- The call has what it was given, or goes on waiting. -/
def AfterWait (id : ι) (index : Nat) (self : Dispatcher ι μ) :
    Option (Except TransportError μ) → Prop
  | some result => self.Settles index result
  | none => Waits id index self

theorem Waits.apply {id : ι} (hself : self.Linked) (hwaits : Waits id index self)
    (hop : self.apply op = some next) : AfterWait id index next (settling id index op) := by
  obtain ⟨henabled, hlookup⟩ := apply_eq_some hop
  obtain ⟨hentry, hcall⟩ := hwaits
  have hnext := apply_calls hop hcall
  have hother : ∀ {other}, other ≠ id →
      self.pendingRequests.lookup other ≠ some index := by
    intro other hne hsame
    exact hne (hself.eq hcall hsame).1.symm
  -- the calls that are still being written are others
  have hwriting : ∀ {other}, (∃ id slot,
      self.calls[other]? = some ⟨id, slot, .writing⟩) → other ≠ index := by
    rintro other ⟨_, _, hphase⟩ rfl
    rw [hcall] at hphase
    cases hphase
  cases op with
  | register other =>
    by_cases hsame : other = id
    · simp only [settling, if_pos hsame]
      subst hsame
      exact ⟨_, hnext, .inr ⟨by simp [callAfter, hentry], by simp [callAfter, hentry, received]⟩⟩
    · simp only [settling, if_neg hsame]
      refine ⟨?_, ?_⟩
      · rw [hlookup, entryAfter, if_neg (Ne.symm hsame), hentry]
      · rw [hnext, callAfter, if_neg (hother hsame)]
  | written | writeFails =>
    refine ⟨(hlookup id).trans hentry, ?_⟩
    rw [hnext, callAfter, if_neg (hwriting henabled)]
  | receive other => exact ⟨(hlookup id).trans hentry, hnext⟩
  | timeout other =>
    by_cases hsame : other = index
    · simp only [settling, if_pos hsame]
      exact ⟨_, hnext, .inl (by simp [callAfter, hsame])⟩
    · simp only [settling, if_neg hsame]
      refine ⟨(hlookup id).trans hentry, ?_⟩
      rw [hnext, callAfter, if_neg hsame]
  | respond other message =>
    by_cases hsame : other = id
    · simp only [settling, if_pos hsame]
      subst hsame
      refine ⟨_, hnext, .inr ⟨?_, ?_⟩⟩
      · simp [callAfter, hentry, Call.send, Call.isOpen]
      · simp [callAfter, hentry, Call.send, Call.isOpen, received]
    · simp only [settling, if_neg hsame]
      refine ⟨?_, ?_⟩
      · rw [hlookup, entryAfter, if_neg (Ne.symm hsame), hentry]
      · rw [hnext, callAfter, if_neg (hother hsame)]
  | clear =>
    exact ⟨_, hnext, .inr ⟨by simp [callAfter, hentry], by simp [callAfter, hentry, received]⟩⟩

theorem apply_receive_eq_some {call : Nat} (hop : self.apply (.receive call) = some next) :
    ∃ id slot result, self.calls[call]? = some ⟨id, slot, .waiting⟩ ∧
      next = self.setPhase call (.returned result) := by
  simp only [apply] at hop
  split at hop
  · next id slot hcall =>
    obtain ⟨result, -, rfl⟩ := Option.map_eq_some_iff.mp hop
    exact ⟨id, slot, result, hcall, rfl⟩
  · cases hop

/-- An entry that is gone does not come back to an old call. -/
theorem entry_ne_apply {id : ι} (hindex : index < self.calls.length)
    (hentry : self.pendingRequests.lookup id ≠ some index) (hop : self.apply op = some next) :
    next.pendingRequests.lookup id ≠ some index := by
  rw [(apply_eq_some hop).2]
  cases op with
  | register other =>
    rw [entryAfter]
    split
    · intro hsame
      cases hsame
      exact Nat.lt_irrefl _ hindex
    · exact hentry
  | respond other message =>
    rw [entryAfter]
    split
    · nofun
    · exact hentry
  | clear => nofun
  | written | writeFails | receive | timeout => exact hentry

end Dispatcher

end McpSdk.PendingCalls
