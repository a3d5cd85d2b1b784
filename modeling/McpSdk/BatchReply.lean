/-
How the server answers a batch. The futures of its messages complete in any
order, and `try_join_all` gives up at the first that fails.
-/
import McpSdk.HandleMessage
import McpSdk.Lts

namespace McpSdk.BatchReply

open List Option
open HandleMessage

universe u v w

variable {ι : Type u} {β : Type v} {ε : Type w}

/-- A batch, with the handler and the transport as each message finds them. -/
structure Batch (ι : Type u) (β : Type v) (ε : Type w) where
  messages : List (ClientMessage ι β)
  runtime : Nat → Runtime ι β ε
  transport : Nat → Transport ι β

/-- The results so far, and what the task of the batch has come to. -/
structure Join (ι : Type u) (β : Type v) (ε : Type w) where
  results : List (Option (Option (ServerMessage ι β ε)))
  outcome : Option (Except (SdkError ι β ε) (Option (ServerMessages ι β ε)))

/-- The future of one message completes, or the reply is sent. -/
inductive Action where
  | complete (index : Nat)
  | send
deriving Repr, DecidableEq

/-- No future has completed. -/
def initial (batch : Batch ι β ε) : Join ι β ε :=
  ⟨batch.messages.map fun _ => none, none⟩

/-- The replies of a batch, without those of messages that have none. -/
def Join.replies (self : Join ι β ε) : List (ServerMessage ι β ε) :=
  self.results.filterMap fun result => result.getD none

/-- One batch reply, with one response for each request, in their order. -/
def CompleteReply (batch : Batch ι β ε) (self : Join ι β ε) : Prop :=
  ∃ replies, self.outcome = some (.ok (some (.batch replies))) ∧
    replies.map ServerMessage.requestId = batch.messages.filterMap ClientMessage.requestId

/-- The futures that have not completed, and the end of the task. -/
def work (self : Join ι β ε) : Nat :=
  self.results.countP Option.isNone + if self.outcome.isNone then 1 else 0

/-- A batch on its way: what has completed are the replies to the requests. -/
structure Going (batch : Batch ι β ε) (join : Join ι β ε) : Prop where
  length : join.results.length = batch.messages.length
  reply : ∀ {index : Nat} {message : ClientMessage ι β}
    {reply : Option (ServerMessage ι β ε)},
    batch.messages[index]? = some message →
      join.results[index]? = some (some reply) →
        reply.map ServerMessage.requestId = message.requestId
  outcome : join.outcome ≠ none → CompleteReply batch join

theorem initial_going (batch : Batch ι β ε) : Going batch (initial batch) := by
  refine ⟨length_map .., ?_, fun hnone => absurd rfl hnone⟩
  intro index message reply hmessage hreply
  rw [initial, getElem?_map, hmessage] at hreply
  cases hreply

theorem Going.replies {batch : Batch ι β ε} {self : Join ι β ε}
    (hself : Going batch self) (hall : ∀ result ∈ self.results, result.isSome = true) :
    self.replies.map ServerMessage.requestId =
      batch.messages.filterMap ClientMessage.requestId := by
  have hids : self.results.map (fun result =>
      (result.getD none).map ServerMessage.requestId) =
        batch.messages.map ClientMessage.requestId := by
    apply ext_getElem
    · simp [hself.length]
    · intro index hresult hmessage
      rw [length_map] at hresult hmessage
      rw [getElem_map, getElem_map]
      obtain ⟨reply, hreply⟩ := isSome_iff_exists.mp (hall _ (getElem_mem hresult))
      rw [hreply, getD_some]
      apply hself.reply (List.getElem?_eq_getElem hmessage)
      rw [List.getElem?_eq_getElem hresult, hreply]
  calc self.replies.map ServerMessage.requestId
      = self.results.filterMap (fun result =>
          (result.getD none).map ServerMessage.requestId) := map_filterMap
    _ = (self.results.map (fun result =>
          (result.getD none).map ServerMessage.requestId)).filterMap id := by
        rw [filterMap_map]
        rfl
    _ = batch.messages.filterMap ClientMessage.requestId := by
        rw [hids, filterMap_map]
        rfl

variable [DecidableEq ι]

/-- A future completes, or the joined reply is sent. -/
def step (batch : Batch ι β ε) (self : Join ι β ε) :
    Action → Option (Join ι β ε)
  | .complete index =>
    match self.outcome, batch.messages[index]?, self.results[index]? with
    | none, some message, some none =>
      match ((batch.runtime index).handleMessage (batch.transport index)
        message).1 with
      | .ok reply =>
        some { self with results := self.results.set index (some reply) }
      | .error error => some { self with outcome := some (.error error) }
    | _, _, _ => none
  | .send =>
    if self.outcome.isNone ∧ self.results.all Option.isSome then
      some { self with
        outcome := some (.ok (if self.replies.isEmpty then none else some (.batch self.replies))) }
    else none

/-- Every message of the batch passes its handler. -/
def Passes (batch : Batch ι β ε) : Prop :=
  ∀ {index message}, batch.messages[index]? = some message →
    (batch.runtime index).Passes (batch.transport index) message

/-- While all messages pass, a step keeps the join going and leaves less to do. -/
theorem Going.step {batch : Batch ι β ε}
    (hrequest : batch.messages.filterMap ClientMessage.requestId ≠ []) (hpasses : Passes batch)
    {self next : Join ι β ε} {action : Action} (hself : Going batch self)
    (hstep : BatchReply.step batch self action = some next) :
    Going batch next ∧ work next < work self := by
  cases action with
  | complete index =>
    simp only [BatchReply.step] at hstep
    split at hstep
    · next message houtcome hmessage hresult =>
      have hpassed : ∃ reply, ((batch.runtime index).handleMessage (batch.transport index)
          message).1 = .ok reply := by
        rcases (hpasses hmessage).handleMessage_cases with
          ⟨reply, hhandled, -⟩ | ⟨id, -, -, hhandled⟩
        · exact ⟨reply, by rw [hhandled]⟩
        · exact ⟨none, by rw [hhandled]⟩
      obtain ⟨reply, hreply⟩ := hpassed
      rw [hreply] at hstep
      cases hstep
      obtain ⟨hindex, hnone⟩ := List.getElem?_eq_some_iff.mp hresult
      refine ⟨⟨?_, ?_, fun hsome => absurd houtcome hsome⟩, ?_⟩
      · rw [List.length_set]
        exact hself.length
      · intro place other stored hother hstored
        rw [getElem?_set] at hstored
        split at hstored
        · next hplace =>
          subst hplace
          cases hstored
          cases hmessage.symm.trans hother
          exact Runtime.handleMessage_reply hreply
        · exact hself.reply hother hstored
      · have hpositive : 0 < self.results.countP Option.isNone := by
          rw [countP_pos_iff]
          exact ⟨_, getElem_mem hindex, by rw [hnone]; rfl⟩
        simp only [work, countP_set hindex, hnone, isNone_none,
          isNone_some, if_true, Bool.false_eq_true, if_false]
        omega
    · cases hstep
  | send =>
    obtain ⟨hready, ⟨⟩⟩ := Lts.of_guard hstep
    have hreplies := hself.replies (all_eq_true.mp hready.2)
    refine ⟨⟨hself.length, hself.reply, fun _ => ?_⟩, ?_⟩
    · refine ⟨self.replies, ?_, hreplies⟩
      have hsome : self.replies.isEmpty = false := by
        rw [isEmpty_eq_false_iff]
        intro hempty
        rw [hempty, map_nil] at hreplies
        exact hrequest hreplies.symm
      simp [hsome]
    · simp [work, isNone_iff_eq_none.mp hready.1]

theorem Going.stop {batch : Batch ι β ε} {self : Join ι β ε} (hself : Going batch self)
    (hstop : ∀ action, BatchReply.step batch self action = none) : CompleteReply batch self := by
  by_cases houtcome : self.outcome = none
  · by_cases hall : ∀ result ∈ self.results, result.isSome = true
    · have hsend := hstop .send
      simp [BatchReply.step, houtcome, all_eq_true.mpr hall] at hsend
    · -- a future that has not completed
      simp only [not_forall, Bool.not_eq_true, isSome_eq_false_iff, isNone_iff_eq_none] at hall
      obtain ⟨result, hmem, rfl⟩ := hall
      obtain ⟨index, hindex⟩ := List.mem_iff_getElem?.mp hmem
      obtain ⟨hlength, -⟩ := List.getElem?_eq_some_iff.mp hindex
      rw [hself.length] at hlength
      have hmessage := List.getElem?_eq_getElem hlength
      have hcomplete := hstop (.complete index)
      simp only [BatchReply.step, houtcome, hmessage, hindex] at hcomplete
      split at hcomplete
      · cases hcomplete
      · cases hcomplete
  · exact hself.outcome houtcome

theorem not_inevitable_of_not_passes {batch : Batch ι β ε} {index : Nat}
    {message : ClientMessage ι β} (hmessage : batch.messages[index]? = some message)
    (hfails : ¬ (batch.runtime index).Passes (batch.transport index) message) :
    ¬ Lts.Inevitable (step batch) (initial batch) (CompleteReply batch) := by
  obtain ⟨error, next, hhandled, -⟩ := Runtime.handleMessage_of_not_passes hfails
  have hresult : (initial batch).results[index]? = some none := by
    rw [initial, getElem?_map, hmessage]
    rfl
  have hstep : step batch (initial batch) (.complete index) =
      some { initial batch with outcome := some (.error error) } := by
    have houtcome : (initial batch).outcome = none := rfl
    simp only [step, houtcome, hmessage, hresult, hhandled]
  rintro ⟨-, hstop⟩
  have hreply := hstop [.complete index] _ (Lts.run_cons_eq_some.mpr ⟨_, hstep, rfl⟩) ?_
  · obtain ⟨replies, houtcome, -⟩ := hreply
    cases houtcome
  · intro action
    cases action with
    | complete place => rfl
    | send => rfl

/-- For every batch with a request and every order of its futures: one batch
reply with one response for each request is sent, exactly when no message fails. -/
theorem inevitable_completeReply_iff {batch : Batch ι β ε}
    (hrequest : batch.messages.filterMap ClientMessage.requestId ≠ []) :
    Lts.Inevitable (step batch) (initial batch) (CompleteReply batch) ↔
      ∀ index message, batch.messages[index]? = some message →
        (batch.runtime index).Passes (batch.transport index) message := by
  constructor
  · intro hreply index message hmessage
    by_contra hfails
    exact not_inevitable_of_not_passes hmessage hfails hreply
  · intro hpasses
    have hpasses' : Passes batch := fun hmessage => hpasses _ _ hmessage
    exact Lts.inevitable_of_measure (fun hself hstep => hself.step hrequest hpasses' hstep)
      (fun hself hstop => hself.stop hstop) (initial_going batch)

namespace BatchReplyWitness

def runtime (notified : Except Unit Unit) : Runtime Nat Unit Unit :=
  ⟨fun _ _ => .ok (), fun _ => notified, fun _ => .ok (), true⟩

def batch (notified : Except Unit Unit) : Batch Nat Unit Unit :=
  ⟨[.request 1 (), .notification (), .request 2 ()], fun _ => runtime notified, fun _ => .new⟩

theorem not_inevitable_failedNotification :
    (batch (.error ())).messages.filterMap ClientMessage.requestId = [1, 2] ∧
      ¬ Lts.Inevitable (step (batch (.error ()))) (initial (batch (.error ())))
        (CompleteReply (batch (.error ()))) := by
  refine ⟨rfl, @not_inevitable_of_not_passes _ _ _ _ _ 1 _ rfl ?_⟩
  rintro ⟨haccepts, -⟩
  cases haccepts

theorem inevitable_completeReply_accepted :
    Lts.Inevitable (step (batch (.ok ()))) (initial (batch (.ok ())))
      (CompleteReply (batch (.ok ()))) := by
  refine (inevitable_completeReply_iff (by decide)).mpr ?_
  intro index message hmessage
  have hmem := mem_of_getElem? hmessage
  simp only [batch, mem_cons, not_mem_nil, or_false] at hmem
  rcases hmem with rfl | rfl | rfl
  · exact ⟨rfl, fun id hid => by cases hid⟩
  · exact ⟨rfl, fun id hid => by cases hid⟩
  · exact ⟨rfl, fun id hid => by cases hid⟩

end BatchReplyWitness

end McpSdk.BatchReply
