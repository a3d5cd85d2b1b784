/-
The loops that hand incoming messages to `handle_message`. The server spawns a
task for every item and learns of its failure through a channel; the client
handles one item after the other. What comes after a failure is not read, and
the rest of a batch may not be handled.
-/
import McpSdk.CallList
import McpSdk.HandleMessage
import McpSdk.Lts

namespace McpSdk.MessageLoops

open List HandleMessage

universe u v w

variable {μ : Type u}

/-- A message, whether `handle_message` fails for it, and whether its future is
pending when first polled. -/
structure Incoming (μ : Type u) where
  message : μ
  fails : Bool
  awaits : Bool
deriving Repr, DecidableEq

/-- A message of a client, as the server finds it when it comes to it. -/
def received {ι : Type u} {β : Type v} {ε : Type w} [DecidableEq ι] (runtime : Runtime ι β ε)
    (transport : Transport ι β) (message : ClientMessage ι β) (awaits : Bool) :
    Incoming (ClientMessage ι β) :=
  ⟨message, !(runtime.handleMessage transport message).1.isOk, awaits⟩

theorem received_fails_of_not_accepts {ι : Type u} {β : Type v} {ε : Type w} [DecidableEq ι]
    {runtime : Runtime ι β ε} {message : ClientMessage ι β}
    (haccepts : runtime.accepts message = false) (transport : Transport ι β) (awaits : Bool) :
    (received runtime transport message awaits).fails = true := by
  obtain ⟨error, hhandled⟩ := Runtime.handleMessage_of_not_accepts haccepts transport
  rw [received, hhandled]
  rfl

/-- `ClientMessages` on the server, `ServerMessages` on the client. -/
inductive Messages (μ : Type u) where
  | single (message : Incoming μ)
  | batch (messages : List (Incoming μ))
deriving Repr, DecidableEq

def Messages.toList : Messages μ → List (Incoming μ)
  | .single message => [message]
  | .batch messages => messages

/-- What `try_join_all` polls: all, up to one that fails at once. -/
def polled : List (Incoming μ) → List (Incoming μ)
  | [] => []
  | message :: rest =>
    message :: if message.fails && !message.awaits then [] else polled rest

/-- The messages for which `handle_message` runs, when its future is polled. -/
def Messages.passed : Messages μ → List (Incoming μ)
  | .single message => [message]
  | .batch messages => polled messages

/-- No message of a batch comes after one that fails at once. -/
def Messages.Whole (self : Messages μ) : Prop :=
  ∀ before message after, self = .batch (before ++ message :: after) →
    message.fails = true → message.awaits = false → after = []

/-- A single failure is logged; `try_join_all` fails with the first of a batch. -/
def Messages.joinFails : Messages μ → Bool
  | .single _ => false
  | .batch messages => messages.any Incoming.fails

def Messages.anyFails (self : Messages μ) : Bool :=
  self.toList.any Incoming.fails

def allMessages (items : List (Messages μ)) : List (Incoming μ) :=
  items.flatMap Messages.toList

/-- No message comes after an item at which the loop returns, nor in a batch
after one that fails at once. -/
def Uninterrupted (returns : Messages μ → Bool) (items : List (Messages μ)) : Prop :=
  (∀ item ∈ items, item.Whole) ∧
    ∀ before item after, items = before ++ item :: after →
      returns item = true → allMessages after = []

/-- A loop that handles item by item and returns at some: what it passes on. -/
def handleInTurn (returns : Messages μ → Bool) :
    List (Messages μ) → List (Incoming μ)
  | [] => []
  | item :: items =>
    item.passed ++ if returns item then [] else handleInTurn returns items

def startStandalone : List (Messages μ) → List (Incoming μ) :=
  handleInTurn Messages.joinFails

/-- The message loop of `sse_reconnect_loop`, which a single failure ends too. -/
def sseReconnectLoop : List (Messages μ) → List (Incoming μ) :=
  handleInTurn Messages.anyFails

theorem allMessages_cons (item : Messages μ) (items : List (Messages μ)) :
    allMessages (item :: items) = item.toList ++ allMessages items :=
  flatMap_cons

theorem polled_prefix (messages : List (Incoming μ)) : polled messages <+: messages := by
  induction messages with
  | nil => exact prefix_rfl
  | cons message rest ih =>
    rw [polled, prefix_cons_inj]
    split
    · exact nil_prefix
    · exact ih

theorem passed_isPrefix (item : Messages μ) : item.passed <+: item.toList := by
  cases item with
  | single message => exact prefix_rfl
  | batch messages => exact polled_prefix messages

theorem passed_eq_toList_iff (item : Messages μ) : item.passed = item.toList ↔ item.Whole := by
  cases item with
  | single message => exact iff_of_true rfl nofun
  | batch messages =>
    change polled messages = messages ↔ _
    simp only [Messages.Whole, Messages.batch.injEq]
    induction messages with
    | nil => simp [polled]
    | cons message rest ih =>
      rw [polled, cons_inj_right]
      constructor
      · rintro hrest before other after happend hfails hawaits
        cases before with
        | nil =>
          cases happend
          simpa [hfails, hawaits] using hrest.symm
        | cons first before =>
          cases happend
          split at hrest
          · cases append_eq_nil_iff.mp hrest.symm |>.2
          · exact ih.mp hrest before other after rfl hfails hawaits
      · intro hwhole
        split
        · next hstops =>
          simp only [Bool.and_eq_true, Bool.not_eq_true'] at hstops
          exact (hwhole [] message rest rfl hstops.1 hstops.2).symm
        · refine ih.mpr fun before other after happend => ?_
          exact hwhole (message :: before) other after (congrArg (message :: ·) happend)

variable {items : List (Messages μ)}

theorem length_flatMap_passed_le (items : List (Messages μ)) :
    (items.flatMap Messages.passed).length ≤ (allMessages items).length := by
  induction items with
  | nil => exact Nat.le_refl _
  | cons item items ih =>
    have hitem := (passed_isPrefix item).length_le
    rw [allMessages_cons, flatMap_cons, length_append, length_append]
    omega

/-- Items of which as many messages are passed as they have are whole. -/
theorem whole_of_length_le (items : List (Messages μ))
    (hlength : (allMessages items).length ≤ (items.flatMap Messages.passed).length) :
    ∀ item ∈ items, item.Whole := by
  induction items with
  | nil => exact nofun
  | cons item items ih =>
    have hitem := (passed_isPrefix item).length_le
    have hitems := length_flatMap_passed_le items
    rw [allMessages_cons, flatMap_cons, length_append, length_append] at hlength
    refine forall_mem_cons.mpr ⟨(passed_eq_toList_iff item).mp ?_, ih (by omega)⟩
    exact (passed_isPrefix item).eq_of_length (by omega)

theorem flatMap_passed_eq (hwhole : ∀ item ∈ items, item.Whole) :
    items.flatMap Messages.passed = allMessages items :=
  flatMap_congr fun item hitem => (passed_eq_toList_iff item).mpr (hwhole item hitem)

theorem uninterrupted_cons {returns : Messages μ → Bool} {item : Messages μ} :
    Uninterrupted returns (item :: items) ↔
      item.Whole ∧ (returns item = true → allMessages items = []) ∧
        Uninterrupted returns items := by
  constructor
  · rintro ⟨hwhole, hall⟩
    refine ⟨hwhole item mem_cons_self, hall [] item items rfl, fun other hother =>
      hwhole other (mem_cons_of_mem _ hother), ?_⟩
    rintro before other after rfl
    exact hall (item :: before) other after rfl
  · rintro ⟨hitem, hhead, hwhole, htail⟩
    refine ⟨forall_mem_cons.mpr ⟨hitem, hwhole⟩, ?_⟩
    intro before other after happend
    cases before with
    | nil =>
      cases happend
      exact hhead
    | cons first before =>
      cases happend
      exact htail before other after rfl

theorem length_handleInTurn_le (returns : Messages μ → Bool) (items : List (Messages μ)) :
    (handleInTurn returns items).length ≤ (allMessages items).length := by
  induction items with
  | nil => exact Nat.le_refl _
  | cons item items ih =>
    have hitem := (passed_isPrefix item).length_le
    rw [handleInTurn, allMessages_cons, length_append, length_append]
    split
    · simp only [length_nil]
      omega
    · omega

theorem handleInTurn_eq_allMessages_iff {returns : Messages μ → Bool} :
    handleInTurn returns items = allMessages items ↔ Uninterrupted returns items := by
  induction items with
  | nil =>
    refine iff_of_true rfl ⟨nofun, ?_⟩
    intro before item after happend
    cases before with
    | nil | cons => cases happend
  | cons item items ih =>
    have hsplit : handleInTurn returns (item :: items) = allMessages (item :: items) ↔
        item.passed = item.toList ∧
          (if returns item then [] else handleInTurn returns items) = allMessages items := by
      rw [handleInTurn, allMessages_cons]
      refine ⟨fun heq => append_inj heq ?_, fun ⟨hfirst, hrest⟩ => by rw [hfirst, hrest]⟩
      have hitem := (passed_isPrefix item).length_le
      have hitems := length_handleInTurn_le returns items
      have hlength := congrArg length heq
      rw [length_append, length_append] at hlength
      split at hlength
      · simp only [length_nil] at hlength
        omega
      · omega
    rw [hsplit, passed_eq_toList_iff, uninterrupted_cons, and_congr_right_iff]
    intro hitem
    by_cases hreturns : returns item = true
    · rw [if_pos hreturns]
      constructor
      · intro hnone
        refine ⟨fun _ => hnone.symm, whole_of_length_le items (by simp [← hnone]), ?_⟩
        rintro before other after rfl -
        rw [allMessages, flatMap_append, flatMap_cons] at hnone
        exact (append_eq_nil_iff.mp (append_eq_nil_iff.mp hnone.symm).2).2
      · rintro ⟨hnone, -⟩
        exact (hnone hreturns).symm
    · rw [if_neg hreturns, ih]
      exact ⟨fun hitems => ⟨fun hcontra => absurd hcontra hreturns, hitems⟩, fun hboth => hboth.2⟩

/-- `start` comes to the end of its stream, `start_stream` waits for a disconnect. -/
inductive ServerLoop where
  | start
  | startStream
deriving Repr, DecidableEq

/-- A task passes its messages on when it is first polled, without a pause. -/
inductive Stage where
  | spawned
  | handling
  | handled
  | sent
deriving Repr, DecidableEq

structure Task (μ : Type u) where
  item : Messages μ
  stage : Stage
deriving Repr, DecidableEq

inductive Phase where
  /-- At `stream.next()`. -/
  | receiving
  /-- At `rx.try_recv()`. -/
  | checking
  /-- At `rx.recv()`, once `tx` is dropped. -/
  | draining
  | returned (failed : Bool)
deriving Repr, DecidableEq

/-- The server's loop, its tasks, and the channel of failures. -/
structure State (μ : Type u) where
  stream : List (Messages μ)
  tasks : List (Task μ)
  /-- Whether each result in the channel is an error. -/
  results : List Bool
  phase : Phase
  passed : List (Incoming μ)
deriving Repr, DecidableEq

/-- The loop takes an item, or a task moves on. -/
inductive Action where
  | next
  | ended
  | run (index : Nat)
  | complete (index : Nat)
  | send (index : Nat)
  | tryRecv
  | recv
deriving Repr, DecidableEq

def taskChannelCapacity : Nat := 500

/-- All the items are still in the stream. -/
def initial (items : List (Messages μ)) : State μ :=
  ⟨items, [], [], .receiving, []⟩

def Task.atStage (task : Task μ) (stage : Stage) : Task μ :=
  ⟨task.item, stage⟩

/-- `result?` in front of the rest of the channel. -/
def State.take (state : State μ) (failed : Bool) (rest : List Bool) : State μ :=
  { state with
    results := rest
    phase := if failed then .returned true else state.phase }

/-- The loop or one of its tasks takes a step. -/
def step (loop : ServerLoop) (state : State μ) : Action → Option (State μ)
  | .next =>
    match state.phase with
    | .receiving =>
      match state.stream with
      | item :: items =>
        some { state with
          stream := items
          tasks := state.tasks ++ [⟨item, .spawned⟩]
          phase := .checking }
      | [] => none
    | _ => none
  | .ended =>
    if state.phase = .receiving ∧ state.stream = [] ∧ loop = .start then
      some { state with phase := .draining }
    else none
  | .run index =>
    match state.tasks[index]? with
    | some task =>
      if task.stage = .spawned then
        some { state with
          tasks := state.tasks.set index (task.atStage .handling)
          passed := state.passed ++ task.item.passed }
      else none
    | none => none
  | .complete index =>
    match state.tasks[index]? with
    | some task =>
      if task.stage = .handling then
        some { state with
          tasks := state.tasks.set index (task.atStage .handled) }
      else none
    | none => none
  | .send index =>
    match state.tasks[index]? with
    | some task =>
      if task.stage = .handled then
        match state.phase with
        -- the receiver is dropped, and the result with it
        | .returned _ =>
          some { state with
            tasks := state.tasks.set index (task.atStage .sent) }
        | _ =>
          if state.results.length < taskChannelCapacity then
            some { state with
              tasks := state.tasks.set index (task.atStage .sent)
              results := state.results ++ [task.item.joinFails] }
          else none
      else none
    | none => none
  | .tryRecv =>
    match state.phase with
    | .checking =>
      match state.results with
      | [] => some { state with phase := .receiving }
      | failed :: rest => some (state.take failed rest)
    | _ => none
  | .recv =>
    match state.phase with
    | .draining =>
      match state.results with
      | [] =>
        -- the channel is closed when the last task has dropped its `tx`
        if state.tasks.all fun task => task.stage = .sent then
          some { state with phase := .returned false }
        else none
      | failed :: rest => some (state.take failed rest)
    | _ => none

/-- What a step can do, with its guard. -/
inductive Stepped (loop : ServerLoop) (state : State μ) : State μ → Prop where
  | next {item : Messages μ} {items : List (Messages μ)}
      (hphase : state.phase = .receiving)
      (hstream : state.stream = item :: items) :
      Stepped loop state { state with
        stream := items
        tasks := state.tasks ++ [⟨item, .spawned⟩]
        phase := .checking }
  | ended (hphase : state.phase = .receiving) (hstream : state.stream = []) :
      Stepped loop state { state with phase := .draining }
  | run {index : Nat} {task : Task μ} (htask : state.tasks[index]? = some task)
      (hstage : task.stage = .spawned) :
      Stepped loop state { state with
        tasks := state.tasks.set index (task.atStage .handling)
        passed := state.passed ++ task.item.passed }
  | complete {index : Nat} {task : Task μ}
      (htask : state.tasks[index]? = some task)
      (hstage : task.stage = .handling) :
      Stepped loop state { state with
        tasks := state.tasks.set index (task.atStage .handled) }
  | dropped {index : Nat} {task : Task μ}
      (htask : state.tasks[index]? = some task)
      (hstage : task.stage = .handled) :
      Stepped loop state { state with
        tasks := state.tasks.set index (task.atStage .sent) }
  | sent {index : Nat} {task : Task μ}
      (htask : state.tasks[index]? = some task)
      (hstage : task.stage = .handled) :
      Stepped loop state { state with
        tasks := state.tasks.set index (task.atStage .sent)
        results := state.results ++ [task.item.joinFails] }
  | checked (hphase : state.phase = .checking) (hresults : state.results = []) :
      Stepped loop state { state with phase := .receiving }
  | took {failed : Bool} {rest : List Bool}
      (hphase : state.phase = .checking ∨ state.phase = .draining)
      (hresults : state.results = failed :: rest) :
      Stepped loop state (state.take failed rest)
  | drained (hphase : state.phase = .draining) :
      Stepped loop state { state with phase := .returned false }

variable {loop : ServerLoop} {state : State μ}

variable {next : State μ}

theorem step_cases {action : Action} (hstep : step loop state action = some next) :
    Stepped loop state next := by
  cases action with
  | next =>
    simp only [step] at hstep
    split at hstep
    · rename_i hphase
      split at hstep
      · rename_i hstream
        cases hstep
        exact .next hphase hstream
      · cases hstep
    · cases hstep
  | ended =>
    obtain ⟨hend, ⟨⟩⟩ := Lts.of_guard hstep
    exact .ended hend.1 hend.2.1
  | run index =>
    simp only [step] at hstep
    split at hstep
    · rename_i htask
      obtain ⟨hstage, ⟨⟩⟩ := Lts.of_guard hstep
      exact .run htask hstage
    · cases hstep
  | complete index =>
    simp only [step] at hstep
    split at hstep
    · rename_i htask
      obtain ⟨hstage, ⟨⟩⟩ := Lts.of_guard hstep
      exact .complete htask hstage
    · cases hstep
  | send index =>
    simp only [step] at hstep
    split at hstep
    · rename_i htask
      obtain ⟨hstage, hstep⟩ := Lts.of_guard hstep
      split at hstep
      · cases hstep
        exact .dropped htask hstage
      · obtain ⟨-, ⟨⟩⟩ := Lts.of_guard hstep
        exact .sent htask hstage
    · cases hstep
  | tryRecv =>
    simp only [step] at hstep
    split at hstep
    · rename_i hphase
      split at hstep
      · rename_i hresults
        cases hstep
        exact .checked hphase hresults
      · rename_i hresults
        cases hstep
        exact .took (.inl hphase) hresults
    · cases hstep
  | recv =>
    simp only [step] at hstep
    split at hstep
    · rename_i hphase
      split at hstep
      · obtain ⟨-, ⟨⟩⟩ := Lts.of_guard hstep
        exact .drained hphase
      · rename_i hresults
        cases hstep
        exact .took (.inr hphase) hresults
    · cases hstep

def Task.unpassed (task : Task μ) : List (Incoming μ) :=
  if task.stage = .spawned then task.item.passed else []

def State.taken (state : State μ) : List (Messages μ) :=
  state.tasks.map Task.item

/-- Every item is with a task or in the stream, and an error comes from a batch that failed. -/
structure Sound (items : List (Messages μ)) (state : State μ) : Prop where
  items : state.taken ++ state.stream = items
  passed : (state.passed ++ state.tasks.flatMap Task.unpassed).Perm
    (state.taken.flatMap Messages.passed)
  failed : true ∈ state.results ∨ state.phase = .returned true →
    ∃ item ∈ state.taken, item.joinFails = true
  ended : state.phase = .draining ∨ state.phase = .returned false → state.stream = []

theorem initial_sound (items : List (Messages μ)) : Sound items (initial items) := by
  refine ⟨rfl, List.Perm.refl _, ?_, ?_⟩
  · rintro (hmem | hphase)
    · cases hmem
    · cases hphase
  · rintro (hphase | hphase)
    · cases hphase
    · cases hphase

variable {task : Task μ}

theorem map_item_set {tasks : List (Task μ)} {index : Nat} (htask : tasks[index]? = some task)
    (stage : Stage) : (tasks.set index (task.atStage stage)).map Task.item = tasks.map Task.item :=
  CallList.map_set_of_eq htask rfl

variable {stage : Stage}

theorem flatMap_unpassed_set {tasks : List (Task μ)} {index : Nat}
    (htask : tasks[index]? = some task) (hstage : stage ≠ .spawned) :
    (task.unpassed ++ (tasks.set index (task.atStage stage)).flatMap Task.unpassed).Perm
      (tasks.flatMap Task.unpassed) := by
  have hmoved : (task.atStage stage).unpassed = [] := if_neg hstage
  have hperm := CallList.flatMap_set_perm (f := Task.unpassed) htask (task.atStage stage)
  rwa [hmoved, nil_append] at hperm

theorem Sound.advance (hstate : Sound items state) {index : Nat}
    (htask : state.tasks[index]? = some task) (hstage : stage ≠ .spawned) {results : List Bool}
    {passed : List (Incoming μ)} (hpassed : passed = state.passed ++ task.unpassed)
    (hresults : true ∈ results → true ∈ state.results ∨ task.item.joinFails = true) :
    Sound items { state with
      tasks := state.tasks.set index (task.atStage stage)
      results := results
      passed := passed } := by
  have htaken := map_item_set htask stage
  refine ⟨?_, ?_, ?_, hstate.ended⟩
  · change _ ++ state.stream = items
    rw [State.taken, htaken]
    exact hstate.items
  · change (passed ++ _).Perm _
    rw [State.taken, htaken, hpassed, append_assoc]
    have hmoved := flatMap_unpassed_set htask hstage
    exact (hmoved.append_left _).trans hstate.passed
  · intro hfailed
    rw [State.taken, htaken]
    rcases hfailed with hmem | hphase
    · rcases hresults hmem with hearlier | hown
      · exact hstate.failed (.inl hearlier)
      · exact ⟨task.item, mem_map_of_mem (mem_of_getElem? htask), hown⟩
    · exact hstate.failed (.inr hphase)

theorem Task.unpassed_of_ne (hstage : task.stage = stage) (hspawned : stage ≠ .spawned) :
    task.unpassed = [] := by
  rw [Task.unpassed, hstage, if_neg hspawned]

theorem Sound.loopStep (hstate : Sound items state) {results : List Bool} {phase : Phase}
    (hfailed : true ∈ results ∨ phase = .returned true → true ∈ state.results ∨ state.phase =
      .returned true)
    (hended : phase = .draining ∨ phase = .returned false → state.stream = []) :
    Sound items { state with results := results, phase := phase } :=
  ⟨hstate.items, hstate.passed, fun hfails => hstate.failed (hfailed hfails), hended⟩

/-- A step keeps the account of the messages. -/
theorem Sound.step {state next : State μ} (hstate : Sound items state)
    (hstep : Stepped loop state next) : Sound items next := by
  cases hstep with
  | @next item rest hphase hstream =>
    have htaken : State.taken { state with
        stream := rest
        tasks := state.tasks ++ [⟨item, .spawned⟩]
        phase := .checking } = state.taken ++ [item] := by
      simp [State.taken]
    refine ⟨?_, ?_, ?_, ?_⟩
    · have hitems := hstate.items
      rw [hstream] at hitems
      rw [htaken, append_assoc]
      exact hitems
    · rw [htaken, flatMap_append, flatMap_append, ← append_assoc]
      exact hstate.passed.append (List.Perm.refl _)
    · intro hfailed
      rw [htaken]
      rcases hfailed with hmem | hreturned
      · obtain ⟨failing, hfailing, hfails⟩ := hstate.failed (.inl hmem)
        exact ⟨failing, mem_append_left _ hfailing, hfails⟩
      · cases hreturned
    · rintro (hended | hended)
      · cases hended
      · cases hended
  | ended hphase hstream =>
    refine hstate.loopStep ?_ fun _ => hstream
    rintro (hmem | hreturned)
    · exact .inl hmem
    · cases hreturned
  | run htask hstage =>
    refine hstate.advance htask (by decide) ?_ Or.inl
    rw [Task.unpassed, if_pos hstage]
  | complete htask hstage | dropped htask hstage =>
    refine hstate.advance htask (by decide) ?_ Or.inl
    rw [Task.unpassed_of_ne hstage (by decide), append_nil]
  | sent htask hstage =>
    refine hstate.advance htask (by decide) ?_ ?_
    · rw [Task.unpassed_of_ne hstage (by decide), append_nil]
    · intro hmem
      rcases mem_append.mp hmem with hearlier | hown
      · exact .inl hearlier
      · exact .inr (mem_singleton.mp hown).symm
  | checked hphase hresults =>
    refine hstate.loopStep ?_ ?_
    · rintro (hmem | hreturned)
      · exact .inl hmem
      · cases hreturned
    · rintro (hended | hended)
      · cases hended
      · cases hended
  | @took failed rest hphase hresults =>
    refine hstate.loopStep ?_ ?_
    · rw [hresults]
      cases failed with
      | true => exact fun _ => .inl mem_cons_self
      | false =>
        rintro (hmem | hreturned)
        · exact .inl (mem_cons_of_mem _ hmem)
        · exact .inr hreturned
    · cases failed with
      | true =>
        rintro (hended | hended)
        · cases hended
        · cases hended
      | false => exact hstate.ended
  | drained hphase =>
    refine hstate.loopStep ?_ fun _ => hstate.ended (.inl hphase)
    rintro (hmem | hreturned)
    · exact .inl hmem
    · cases hreturned

/-- The account of the messages after any run. -/
theorem run_sound {actions : List Action} {final : State μ}
    (hrun : Lts.run (step loop) (initial items) actions = some final) : Sound items final :=
  (Lts.run_along
    (fun hstate hstep => ⟨trivial, Sound.step hstate (step_cases hstep)⟩)
    (initial_sound items) hrun).2

def Stage.work : Stage → Nat
  | .spawned => 4
  | .handling => 3
  | .handled => 2
  | .sent => 0

def Phase.work : Phase → Nat
  | .checking => 3
  | .receiving => 2
  | .draining => 1
  | .returned _ => 0

/-- A result that is sent has still to be received. -/
def State.work (state : State μ) : Nat :=
  6 * state.stream.length +
    CallList.total (fun task => task.stage.work) state.tasks +
    state.results.length + state.phase.work

theorem work_lt (hstep : Stepped loop state next) : next.work < state.work := by
  have hmoved : ∀ {index : Nat} {task : Task μ} (stage : Stage),
      state.tasks[index]? = some task →
        task.stage.work + CallList.total (fun task => task.stage.work)
          (state.tasks.set index (task.atStage stage)) =
        stage.work + CallList.total (fun task => task.stage.work)
          state.tasks := by
    intro index task stage htask
    exact CallList.total_set (fun task => task.stage.work) htask (task.atStage stage)
  cases hstep with
  | next hphase hstream =>
    simp only [State.work, hphase, hstream, Phase.work, length_cons,
      CallList.total_concat, Stage.work]
    omega
  | ended hphase hstream =>
    simp only [State.work, hphase, Phase.work]
    omega
  | run htask hstage =>
    have hwork := hmoved .handling htask
    rw [hstage] at hwork
    simp only [State.work, Stage.work] at hwork ⊢
    omega
  | complete htask hstage =>
    have hwork := hmoved .handled htask
    rw [hstage] at hwork
    simp only [State.work, Stage.work] at hwork ⊢
    omega
  | dropped htask hstage =>
    have hwork := hmoved .sent htask
    rw [hstage] at hwork
    simp only [State.work, Stage.work] at hwork ⊢
    omega
  | sent htask hstage =>
    have hwork := hmoved .sent htask
    rw [hstage] at hwork
    simp only [State.work, Stage.work, length_append, length_singleton] at hwork ⊢
    omega
  | checked hphase hresults =>
    simp only [State.work, hphase, Phase.work]
    omega
  | @took failed rest hphase hresults =>
    cases failed with
    | true =>
      simp only [State.work, State.take, hresults, length_cons, if_true, Phase.work]
      omega
    | false =>
      simp only [State.work, State.take, hresults, length_cons, Bool.false_eq_true, if_false]
      omega
  | drained hphase =>
    simp only [State.work, hphase, Phase.work]
    omega

/-- Each message is passed to `handle_message`, and once. -/
def AllPassed (items : List (Messages μ)) (state : State μ) : Prop :=
  state.passed.Perm (allMessages items)

theorem flatMap_unpassed_of_stop (hstop : ∀ action, step loop state action = none) :
    state.tasks.flatMap Task.unpassed = [] := by
  rw [flatMap_eq_nil_iff]
  intro task htask
  obtain ⟨index, hindex⟩ := mem_iff_getElem?.mp htask
  refine if_neg ?_
  intro hstage
  have hrun := hstop (.run index)
  simp [step, hindex, hstage] at hrun

theorem Sound.stop (hitems : Uninterrupted Messages.joinFails items) (hstate : Sound items state)
    (hstop : ∀ action, MessageLoops.step loop state action = none) : AllPassed items state := by
  have hpassed := hstate.passed
  rw [flatMap_unpassed_of_stop hstop, append_nil] at hpassed
  have hrest : allMessages state.stream = [] := by
    cases hphase : state.phase with
    | receiving =>
      have hnext := hstop .next
      cases hstream : state.stream with
      | nil => rfl
      | cons item rest => simp [MessageLoops.step, hphase, hstream] at hnext
    | checking =>
      have hcheck := hstop .tryRecv
      cases hresults : state.results with
      | nil => simp [MessageLoops.step, hphase, hresults] at hcheck
      | cons failed rest =>
        simp [MessageLoops.step, hphase, hresults] at hcheck
    | draining =>
      rw [hstate.ended (.inl hphase)]
      rfl
    | returned failed =>
      cases failed with
      | false =>
        rw [hstate.ended (.inr hphase)]
        rfl
      | true =>
        obtain ⟨item, hmem, hfails⟩ := hstate.failed (.inr hphase)
        obtain ⟨before, after, htaken⟩ := append_of_mem hmem
        have happend := hstate.items
        rw [htaken, append_assoc, cons_append] at happend
        have hnone := hitems.2 before item _ happend.symm hfails
        rw [allMessages, flatMap_append] at hnone
        exact (append_eq_nil_iff.mp hnone).2
  have htaken : state.taken.flatMap Messages.passed = allMessages state.taken :=
    flatMap_passed_eq fun item hitem => hitems.1 item (hstate.items ▸ mem_append_left _ hitem)
  rw [AllPassed, ← hstate.items, allMessages, flatMap_append, ← allMessages, ← allMessages, hrest,
    append_nil, ← htaken]
  exact hpassed

/-- The loop can take up any number of items in a row. -/
theorem run_reading (loop : ServerLoop) (before after : List (Messages μ))
    (tasks : List (Task μ)) (passed : List (Incoming μ)) :
    Lts.run (step loop) ⟨before ++ after, tasks, [], .receiving, passed⟩
        (before.flatMap fun _ => [.next, .tryRecv]) =
      some ⟨after, tasks ++ before.map fun item => ⟨item, .spawned⟩, [], .receiving, passed⟩ := by
  induction before generalizing tasks with
  | nil => simp [Lts.run]
  | cons item before ih =>
    have hrest := ih (tasks ++ [⟨item, .spawned⟩])
    rw [append_assoc] at hrest
    exact hrest

/-- An item that fails can make the loop return. -/
theorem run_failing (loop : ServerLoop) {item : Messages μ} (hfails : item.joinFails = true)
    (after : List (Messages μ)) (tasks : List (Task μ)) (passed : List (Incoming μ)) :
    ∃ final, Lts.run (step loop) ⟨item :: after, tasks, [], .receiving, passed⟩
        [.next, .run tasks.length, .complete tasks.length,
          .send tasks.length, .tryRecv] = some final ∧
      final.stream = after ∧ final.phase = .returned true := by
  refine ⟨⟨after, tasks ++ [⟨item, .sent⟩], [], .returned true,
    passed ++ item.passed⟩, ?_, rfl, rfl⟩
  simp [Lts.run, step, Task.atStage, State.take, hfails, taskChannelCapacity]

/-- A loop that has returned reads nothing. -/
theorem returned_step {failed : Bool} (hphase : state.phase = .returned failed)
    (hstep : Stepped loop state next) :
    next.stream = state.stream ∧ next.phase = .returned failed := by
  cases hstep with
  | next hother hstream | ended hother hstream => cases hphase.symm.trans hother
  | run | complete | dropped | sent => exact ⟨rfl, hphase⟩
  | checked hother hresults => cases hphase.symm.trans hother
  | took hother hresults =>
    rcases hother with hother | hother
    · cases hphase.symm.trans hother
    · cases hphase.symm.trans hother
  | drained hother => cases hphase.symm.trans hother

/-- What a returned loop has not read stays unread. -/
theorem run_returned {final : State μ} {failed : Bool} {actions : List Action}
    (hphase : state.phase = .returned failed)
    (hrun : Lts.run (step loop) state actions = some final) : final.stream = state.stream := by
  induction actions generalizing state with
  | nil =>
    cases hrun
    rfl
  | cons action actions ih =>
    obtain ⟨next, hnext, hrest⟩ := Lts.run_cons_eq_some.mp hrun
    obtain ⟨hstream, hreturned⟩ := returned_step hphase (step_cases hnext)
    rw [← hstream]
    exact ih hreturned hrest

theorem Sound.of_allPassed (hstate : Sound items state) (hall : AllPassed items state) :
    allMessages state.stream = [] ∧ ∀ item ∈ items, item.Whole := by
  have hpassed := hall.length_eq
  have hpolled := hstate.passed.length_eq
  have htaken := length_flatMap_passed_le state.taken
  rw [length_append] at hpolled
  have hsum : (allMessages items).length =
      (allMessages state.taken).length + (allMessages state.stream).length := by
    rw [← hstate.items, allMessages, flatMap_append, length_append]
    rfl
  refine ⟨length_eq_zero_iff.mp (by omega), whole_of_length_le items ?_⟩
  rw [← hstate.items, flatMap_append, length_append, hstate.items]
  omega

theorem uninterrupted_of_inevitable
    (hall : Lts.Inevitable (step loop) (initial items) (AllPassed items)) :
    Uninterrupted Messages.joinFails items := by
  obtain ⟨actions, final, hrun, hpassed⟩ := hall.exists_run
  refine ⟨((run_sound hrun).of_allPassed hpassed).2, ?_⟩
  rintro before item after rfl hfails
  obtain ⟨middle, hmiddle, hstream, hphase⟩ := run_failing loop hfails after
    (before.map fun item => ⟨item, .spawned⟩) []
  have hreading := run_reading loop before (item :: after) [] []
  have hrun := Lts.run_append_eq_some.mpr ⟨_, hreading, hmiddle⟩
  obtain ⟨actions, final, hafter, hpassed⟩ := (hall.of_run hrun).exists_run
  have hwhole := Lts.run_append_eq_some.mpr ⟨middle, hrun, hafter⟩
  have hsound := run_sound hwhole
  have hkept := run_returned hphase hafter
  rw [← hstream, ← hkept]
  exact (hsound.of_allPassed hpassed).1

/-- All messages get through for sure exactly when no item fails. -/
theorem inevitable_allPassed_iff :
    Lts.Inevitable (step loop) (initial items) (AllPassed items) ↔
      Uninterrupted Messages.joinFails items := by
  constructor
  · exact uninterrupted_of_inevitable
  · intro hitems
    exact Lts.inevitable_of_measure
      (fun hstate hstep =>
        ⟨Sound.step hstate (step_cases hstep), work_lt (step_cases hstep)⟩)
      (fun hstate hstop => hstate.stop hitems hstop) (initial_sound items)

/-- For every sequence of messages and failures, each message is passed to
`handle_message` in every interleaving exactly when none comes after a failing
batch, in `sse_reconnect_loop` after any failing message, and none in a batch
after one that fails at once. -/
theorem messages_passed_iff (items : List (Messages μ)) :
    (∀ loop, Lts.Inevitable (step loop) (initial items) (AllPassed items) ↔
        Uninterrupted Messages.joinFails items) ∧
      (startStandalone items = allMessages items ↔ Uninterrupted Messages.joinFails items) ∧
      (sseReconnectLoop items = allMessages items ↔ Uninterrupted Messages.anyFails items) :=
  ⟨fun _ => inevitable_allPassed_iff, handleInTurn_eq_allMessages_iff,
    handleInTurn_eq_allMessages_iff⟩

namespace MessageLoopsWitness

def runtime : Runtime Nat Unit Unit :=
  ⟨fun _ _ => .ok (), fun _ => .error (), fun _ => .ok (), true⟩

def notified (awaits : Bool) : Incoming (ClientMessage Nat Unit) :=
  received runtime .new (.notification ()) awaits

def requested (id : Nat) : Incoming (ClientMessage Nat Unit) :=
  received runtime .new (.request id ()) false

/-- The server leaves the third item unread, the client stops at the batch, the
reconnect loop also at a single message, and a request behind a notification
that fails at once is handled nowhere. -/
theorem messages_unread :
    (∀ awaits, (notified awaits).fails = true) ∧ (∀ loop : ServerLoop,
        (Lts.run (step loop) (initial [.batch [notified true, requested 0],
            .single (requested 1), .single (requested 2)])
          [.next, .tryRecv, .run 0, .complete 0, .send 0, .next, .tryRecv,
            .run 1, .complete 1, .send 1]).map
            (fun state => (state.phase, state.stream, state.passed)) =
          some (.returned true, [.single (requested 2)],
            [notified true, requested 0, requested 1])) ∧
      startStandalone [.batch [notified true], .single (requested 1)] = [notified true] ∧
      sseReconnectLoop [.single (notified true), .single (requested 1)] = [notified true] ∧
      (Messages.batch [notified false, requested 0]).passed = [notified false] := by
  refine ⟨received_fails_of_not_accepts rfl _, ?_, by decide, by decide, by decide⟩
  intro loop
  cases loop with
  | start | startStream => rfl

end MessageLoopsWitness

end McpSdk.MessageLoops
