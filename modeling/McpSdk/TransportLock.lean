/-
The lock of `transport_map`, and who holds it while a peer is asked. Every
function of the runtimes is the list of the points at which it awaits.
-/
import McpSdk.CallList
import McpSdk.Lts
import McpSdk.RwLock

namespace McpSdk.TransportLock

open RwLock (Lock Mode)

universe u

variable {κ : Type u}

inductive Point where
  | lock (mode : Mode)
  /-- The guard is dropped. -/
  | unlock
  /-- `transport_map.as_ref().ok_or(..)?` -/
  | get
  /-- The map is set to a transport. -/
  | store
  /-- The map is emptied. -/
  | take
  /-- The transport of the map is asked whether it is shut down. -/
  | live
  /-- `transport_ready.notified()` -/
  | notified
  /-- An operation of the transport that waits for no answer. -/
  | transport
  /-- Messages are written; with a request among them the peer has to answer. -/
  | send (request : Bool)
deriving Repr, DecidableEq

/-- From some number of guards on: the peer is asked with a guard exactly if the
call keeps it, and a transport is only looked at under a guard. -/
def Follows (keeps : Bool) : Nat → List Point → Prop
  | _, [] => True
  | guards, .lock _ :: rest => Follows keeps (guards + 1) rest
  | guards, .unlock :: rest => Follows keeps (guards - 1) rest
  | guards, .live :: rest => 0 < guards ∧ Follows keeps guards rest
  | guards, .send request :: rest =>
    (request = true → (0 < guards ↔ keeps = true)) ∧ Follows keeps guards rest
  | guards, .get :: rest => Follows keeps guards rest
  | guards, .store :: rest => Follows keeps guards rest
  | guards, .take :: rest => Follows keeps guards rest
  | guards, .notified :: rest => Follows keeps guards rest
  | guards, .transport :: rest => Follows keeps guards rest

/-- The points of every call, and the calls that keep their guard. -/
structure Runtime (κ : Type u) where
  points : κ → List Point
  keepsGuard : κ → Bool
  follows : ∀ call, Follows (keepsGuard call) 0 (points call)

structure Task (κ : Type u) where
  call : κ
  rest : List Point
  /-- The request is written, and its answer has not come. -/
  awaiting : Bool
deriving Repr, DecidableEq

/-- The lock of the map, and the calls that use it. -/
structure State (κ : Type u) where
  /-- There is a transport in the map. -/
  stored : Bool
  lock : Lock Nat
  tasks : List (Task κ)
deriving Repr, DecidableEq

/-- A call starts, moves on, or is dropped. -/
inductive Action (κ : Type u) where
  | call (call : κ)
  | advance (index : Nat)
  /-- The transport is missing or shut down. -/
  | stale (index : Nat)
  /-- The head of the queue gets its guard. -/
  | grant
  /-- The call returns early, or its task is dropped. -/
  | drop (index : Nat)
deriving Repr, DecidableEq

/-- The lock is free, and no call has started. -/
def initial (stored : Bool) : State κ :=
  ⟨stored, .new, []⟩

/-- The task has what it waited for, and goes on. -/
def State.goOn (state : State κ) (index : Nat) (task : Task κ) (rest : List Point) : State κ :=
  { state with tasks := state.tasks.set index ⟨task.call, rest, false⟩ }

/-- The task ends, and its guards are dropped. -/
def State.giveUp (state : State κ) (index : Nat) (task : Task κ) : State κ :=
  { state with
    lock := state.lock.leave index
    tasks := state.tasks.set index ⟨task.call, [], false⟩ }

def advance (state : State κ) (index : Nat) (task : Task κ) : Option (State κ) :=
  match task.rest with
  | [] => none
  | .lock mode :: _ =>
    if state.lock.queue.any (·.1 = index) then none
    else some { state with lock := state.lock.request index mode }
  | .unlock :: rest =>
    some { state with
      lock := state.lock.release index
      tasks := state.tasks.set index ⟨task.call, rest, false⟩ }
  | .get :: rest =>
    if state.stored then some (state.goOn index task rest)
    else some (state.giveUp index task)
  | .store :: rest =>
    some { state with
      stored := true
      tasks := state.tasks.set index ⟨task.call, rest, false⟩ }
  | .take :: rest =>
    some { state with
      stored := false
      tasks := state.tasks.set index ⟨task.call, rest, false⟩ }
  | .live :: rest =>
    if state.stored then some (state.goOn index task rest) else none
  | .notified :: rest => some (state.goOn index task rest)
  | .transport :: rest => some (state.goOn index task rest)
  | .send request :: rest =>
    if request = true ∧ task.awaiting = false then
      some { state with
        tasks := state.tasks.set index ⟨task.call, task.rest, true⟩ }
    else some (state.goOn index task rest)

/-- One call runs up to its next await. -/
def step (runtime : Runtime κ) (state : State κ) :
    Action κ → Option (State κ)
  | .call call =>
    some { state with
      tasks := state.tasks ++ [⟨call, runtime.points call, false⟩] }
  | .advance index =>
    match state.tasks[index]? with
    | some task => advance state index task
    | none => none
  | .stale index =>
    match state.tasks[index]? with
    | some task =>
      match task.rest with
      -- the guard is dropped, and the map is looked at again later
      | .live :: rest =>
        some (state.goOn index task (.unlock :: .notified :: .lock .read :: .live :: rest))
      | _ => none
    | none => none
  | .grant =>
    match state.lock.grant with
    | some (index, lock) =>
      match state.tasks[index]? with
      | some task =>
        match task.rest with
        | .lock _ :: rest =>
          some { state with
            lock := lock
            tasks := state.tasks.set index ⟨task.call, rest, false⟩ }
        | _ => none
      | none => none
    | none => none
  | .drop index =>
    match state.tasks[index]? with
    | some task => some (state.giveUp index task)
    | none => none

/-- A task that waits for the answer of the peer holds no guard. -/
def Unheld (state : State κ) : Prop :=
  ∀ index task, state.tasks[index]? = some task → task.awaiting = true → state.lock.guards index = 0

/-- A task in the queue of the lock has to wait for a peer's answer. -/
def Delayed (state : State κ) (waiter : Nat) : Prop :=
  (∃ mode, (waiter, mode) ∈ state.lock.queue) ∧
    ∃ holder task, state.tasks[holder]? = some task ∧
      task.awaiting = true ∧ 0 < state.lock.guards holder

/-- The call that writes a request is not one that keeps its guard. -/
def Releases (runtime : Runtime κ) (state : State κ) : Action κ → Prop
  | .advance index => ∀ task ∈ state.tasks[index]?,
      task.rest.head? = some (.send true) → task.awaiting = false →
        runtime.keepsGuard task.call = false
  | _ => True

instance decidableReleases (runtime : Runtime κ) (state : State κ) :
    ∀ action, Decidable (Releases runtime state action)
  | .advance index => inferInstanceAs (Decidable
      (∀ task ∈ state.tasks[index]?, task.rest.head? = some (.send true) →
        task.awaiting = false → runtime.keepsGuard task.call = false))
  | .call _ | .stale _ | .grant | .drop _ => isTrue trivial

/-- What a step can do; a point that is passed is not of the lock or a wait. -/
inductive Stepped (runtime : Runtime κ) (state : State κ) :
    Action κ → State κ → Prop where
  | called (call : κ) :
      Stepped runtime state (.call call) { state with
        tasks := state.tasks ++ [⟨call, runtime.points call, false⟩] }
  | queued {index : Nat} {task : Task κ} {mode : Mode} {rest : List Point}
      (htask : state.tasks[index]? = some task)
      (hrest : task.rest = .lock mode :: rest) :
      Stepped runtime state (.advance index)
        { state with lock := state.lock.request index mode }
  | granted {index : Nat} {task : Task κ} {mode : Mode} {rest : List Point}
      {lock : Lock Nat} (hgrant : state.lock.grant = some (index, lock))
      (htask : state.tasks[index]? = some task)
      (hrest : task.rest = .lock mode :: rest) :
      Stepped runtime state .grant { state with
        lock := lock
        tasks := state.tasks.set index ⟨task.call, rest, false⟩ }
  | unlocked {index : Nat} {task : Task κ} {rest : List Point}
      (htask : state.tasks[index]? = some task)
      (hrest : task.rest = .unlock :: rest) :
      Stepped runtime state (.advance index) { state with
        lock := state.lock.release index
        tasks := state.tasks.set index ⟨task.call, rest, false⟩ }
  | passed {index : Nat} {task : Task κ} {point : Point} {rest : List Point}
      {stored : Bool} (htask : state.tasks[index]? = some task)
      (hrest : task.rest = point :: rest)
      (hlock : ∀ mode, point ≠ .lock mode) (hunlock : point ≠ .unlock)
      (hanswered : point = .send true → task.awaiting = true) :
      Stepped runtime state (.advance index) { state with
        stored := stored
        tasks := state.tasks.set index ⟨task.call, rest, false⟩ }
  | sent {index : Nat} {task : Task κ} {rest : List Point}
      (htask : state.tasks[index]? = some task)
      (hrest : task.rest = .send true :: rest)
      (hawaiting : task.awaiting = false) :
      Stepped runtime state (.advance index) { state with
        tasks := state.tasks.set index ⟨task.call, task.rest, true⟩ }
  | stale {index : Nat} {task : Task κ} {rest : List Point}
      (htask : state.tasks[index]? = some task)
      (hrest : task.rest = .live :: rest) :
      Stepped runtime state (.stale index) (state.goOn index task
        (.unlock :: .notified :: .lock .read :: .live :: rest))
  | missing {index : Nat} {task : Task κ} {rest : List Point}
      (htask : state.tasks[index]? = some task)
      (hrest : task.rest = .get :: rest) :
      Stepped runtime state (.advance index) (state.giveUp index task)
  | dropped {index : Nat} {task : Task κ}
      (htask : state.tasks[index]? = some task) :
      Stepped runtime state (.drop index) (state.giveUp index task)

variable {runtime : Runtime κ} {state : State κ} {index : Nat}

variable {task : Task κ} {next : State κ}

theorem advance_cases (htask : state.tasks[index]? = some task)
    (hstep : advance state index task = some next) :
    Stepped runtime state (.advance index) next := by
  cases hrest : task.rest with
  | nil =>
    simp only [advance, hrest] at hstep
    cases hstep
  | cons point rest =>
    cases point with
    | lock mode =>
      simp only [advance, hrest] at hstep
      split at hstep
      · cases hstep
      · cases hstep
        exact .queued htask hrest
    | unlock =>
      simp only [advance, hrest] at hstep
      cases hstep
      exact .unlocked htask hrest
    | get =>
      simp only [advance, hrest] at hstep
      split at hstep
      · cases hstep
        exact .passed htask hrest (by simp) (by simp) (by simp)
      · cases hstep
        exact .missing htask hrest
    | store | take =>
      simp only [advance, hrest] at hstep
      cases hstep
      exact .passed htask hrest (by simp) (by simp) (by simp)
    | live =>
      simp only [advance, hrest] at hstep
      split at hstep
      · cases hstep
        exact .passed htask hrest (by simp) (by simp) (by simp)
      · cases hstep
    | notified | transport =>
      simp only [advance, hrest] at hstep
      cases hstep
      exact .passed htask hrest (by simp) (by simp) (by simp)
    | send request =>
      simp only [advance, hrest] at hstep
      split at hstep
      · rename_i hsends
        obtain ⟨rfl, hawaiting⟩ := hsends
        rw [← hrest] at hstep
        cases hstep
        exact .sent htask hrest hawaiting
      · rename_i hsends
        cases hstep
        refine .passed htask hrest (by simp) (by simp) ?_
        intro hrequest
        cases hrequest
        simpa using hsends

theorem step_cases {action : Action κ} (hstep : step runtime state action = some next) :
    Stepped runtime state action next := by
  cases action with
  | call call =>
    cases hstep
    exact .called call
  | advance index =>
    simp only [step] at hstep
    split at hstep
    · rename_i task htask
      exact advance_cases htask hstep
    · cases hstep
  | stale index =>
    simp only [step] at hstep
    split at hstep
    · rename_i task htask
      split at hstep
      · rename_i rest hrest
        cases hstep
        exact .stale htask hrest
      · cases hstep
    · cases hstep
  | grant =>
    simp only [step] at hstep
    split at hstep
    · rename_i index lock hgrant
      split at hstep
      · rename_i task htask
        split at hstep
        · rename_i mode rest hrest
          cases hstep
          exact .granted hgrant htask hrest
        · cases hstep
      · cases hstep
    · cases hstep
  | drop index =>
    simp only [step] at hstep
    split at hstep
    · rename_i task htask
      cases hstep
      exact .dropped htask
    · cases hstep

theorem Follows.pass {keeps : Bool} {guards : Nat} {point : Point} {rest : List Point}
    (hfollows : Follows keeps guards (point :: rest)) (hlock : ∀ mode, point ≠ .lock mode)
    (hunlock : point ≠ .unlock) : Follows keeps guards rest := by
  cases point with
  | lock mode => exact absurd rfl (hlock mode)
  | unlock => exact absurd rfl hunlock
  | live | send => exact hfollows.2
  | get | store | take | notified | transport => exact hfollows

/-- The lock counts the guards of the points, and who waits has written a request. -/
structure Sound (runtime : Runtime κ) (state : State κ) : Prop where
  follows : ∀ {index : Nat} {task : Task κ},
    state.tasks[index]? = some task →
      Follows (runtime.keepsGuard task.call) (state.lock.guards index) task.rest
  awaiting : ∀ {index : Nat} {task : Task κ},
    state.tasks[index]? = some task → task.awaiting = true → ∃ rest, task.rest = .send true :: rest
  absent : ∀ {index : Nat}, state.tasks.length ≤ index → state.lock.guards index = 0

theorem initial_sound (runtime : Runtime κ) (stored : Bool) : Sound runtime (initial stored) := by
  refine ⟨?_, ?_, fun _ => rfl⟩
  · intro index task htask
    cases htask
  · intro index task htask
    cases htask

variable {stored : Bool} {lock : Lock Nat}

theorem Sound.change {old : Task κ} (hstate : Sound runtime state)
    (hold : state.tasks[index]? = some old)
    (hothers : ∀ other, other ≠ index → lock.guards other = state.lock.guards other)
    (hfollows : Follows (runtime.keepsGuard task.call) (lock.guards index) task.rest)
    (hawaiting : task.awaiting = true → ∃ rest, task.rest = .send true :: rest) :
    Sound runtime ⟨stored, lock, state.tasks.set index task⟩ := by
  refine ⟨?_, ?_, ?_⟩
  · intro other found hfound
    rw [CallList.getElem?_set_of_some hold] at hfound
    by_cases heq : other = index
    · rw [if_pos heq] at hfound
      cases hfound
      rw [heq]
      exact hfollows
    · rw [if_neg heq] at hfound
      change Follows _ (lock.guards other) _
      rw [hothers other heq]
      exact hstate.follows hfound
  · intro other found hfound
    rw [CallList.getElem?_set_of_some hold] at hfound
    by_cases heq : other = index
    · rw [if_pos heq] at hfound
      cases hfound
      exact hawaiting
    · rw [if_neg heq] at hfound
      exact hstate.awaiting hfound
  · intro other hother
    rw [List.length_set] at hother
    have hne : other ≠ index := by
      rintro rfl
      rw [List.getElem?_eq_none hother] at hold
      cases hold
    exact (hothers other hne).trans (hstate.absent hother)

/-- Who waits with a guard in hand is then the task that went on, if anyone. -/
theorem unheld_change_iff {old : Task κ} (hunheld : Unheld state)
    (hold : state.tasks[index]? = some old)
    (hothers : ∀ other, other ≠ index → lock.guards other = state.lock.guards other) :
    Unheld ⟨stored, lock, state.tasks.set index task⟩ ↔
      (task.awaiting = true → lock.guards index = 0) := by
  constructor
  · intro hnext hawaiting
    refine hnext index task ?_ hawaiting
    rw [CallList.getElem?_set_of_some hold, if_pos rfl]
  · intro htask other found hfound hawaiting
    rw [CallList.getElem?_set_of_some hold] at hfound
    by_cases heq : other = index
    · rw [if_pos heq] at hfound
      cases hfound
      rw [heq]
      exact htask hawaiting
    · rw [if_neg heq] at hfound
      exact (hothers other heq).trans (hunheld other found hfound hawaiting)

theorem guards_of_grant {next : Lock Nat} (hgrant : lock.grant = some (index, next)) :
    next.guards index = lock.guards index + 1 ∧
      ∀ other, other ≠ index → next.guards other = lock.guards other := by
  obtain ⟨-, -, -, -, -, hguards⟩ := RwLock.grant_cases hgrant
  refine ⟨?_, ?_⟩
  · rw [hguards, if_pos rfl]
  · intro other hne
    rw [hguards, if_neg hne, Nat.add_zero]

theorem guards_release_of_ne (lock : Lock Nat) {other : Nat} (hne : other ≠ index) :
    (lock.release index).guards other = lock.guards other := by
  rw [RwLock.guards_release, if_neg hne, Nat.sub_zero]

/-- A step keeps the count of the guards. -/
theorem Sound.step {state next : State κ} {action : Action κ} (hstate : Sound runtime state)
    (hstep : Stepped runtime state action next) : Sound runtime next := by
  cases hstep with
  | called call =>
    refine ⟨?_, ?_, ?_⟩
    · intro index task htask
      rcases CallList.getElem?_concat_cases htask with ⟨rfl, rfl⟩ | hearlier
      · change Follows _ (state.lock.guards _) _
        rw [hstate.absent (Nat.le_refl _)]
        exact runtime.follows call
      · exact hstate.follows hearlier
    · intro index task htask hawaiting
      rcases CallList.getElem?_concat_cases htask with ⟨rfl, rfl⟩ | hearlier
      · cases hawaiting
      · exact hstate.awaiting hearlier hawaiting
    · intro index hindex
      rw [List.length_append] at hindex
      exact hstate.absent (Nat.le_of_add_right_le hindex)
  | queued htask hrest =>
    exact ⟨hstate.follows, hstate.awaiting, hstate.absent⟩
  | granted hgrant htask hrest =>
    obtain ⟨hown, hothers⟩ := guards_of_grant hgrant
    have hfollows := hstate.follows htask
    rw [hrest] at hfollows
    refine hstate.change htask hothers ?_ (by simp)
    rw [hown]
    exact hfollows
  | unlocked htask hrest =>
    have hfollows := hstate.follows htask
    rw [hrest] at hfollows
    refine hstate.change htask (fun other hne => guards_release_of_ne state.lock hne) ?_ (by simp)
    rw [RwLock.guards_release, if_pos rfl]
    exact hfollows
  | passed htask hrest hlock hunlock hanswered =>
    have hfollows := hstate.follows htask
    rw [hrest] at hfollows
    exact hstate.change htask (fun _ _ => rfl) (hfollows.pass hlock hunlock) (by simp)
  | sent htask hrest hawaiting =>
    have hfollows := hstate.follows htask
    exact hstate.change htask (fun _ _ => rfl) hfollows (fun _ => ⟨_, hrest⟩)
  | stale htask hrest =>
    have hfollows := hstate.follows htask
    rw [hrest] at hfollows
    refine hstate.change htask (fun _ _ => rfl) ?_ (by simp)
    -- the guard that is dropped is taken again before the next look
    have hcount : state.lock.guards _ - 1 + 1 = state.lock.guards _ := Nat.sub_add_cancel hfollows.1
    simp only [Follows]
    rw [hcount]
    exact hfollows
  | missing htask hrest | dropped htask =>
    exact hstate.change htask (fun other hne => RwLock.guards_leave_of_ne state.lock hne) trivial
      (by simp)

theorem Unheld.change {old : Task κ} {call : κ} {rest : List Point}
    (hunheld : Unheld state) (hold : state.tasks[index]? = some old)
    (hothers : ∀ other, other ≠ index → lock.guards other = state.lock.guards other) :
    Unheld ⟨stored, lock, state.tasks.set index ⟨call, rest, false⟩⟩ := by
  refine (unheld_change_iff hunheld hold hothers).mpr ?_
  intro hawaiting
  cases hawaiting

theorem releases_advance (runtime : Runtime κ) (htask : state.tasks[index]? = some task)
    (hwritten : task.rest.head? = some (.send true) → task.awaiting = true) :
    Releases runtime state (.advance index) := by
  intro found hfound hhead hawaiting
  cases htask.symm.trans hfound
  cases (hwritten hhead).symm.trans hawaiting

theorem unheld_step_iff {action : Action κ} (hstate : Sound runtime state) (hunheld : Unheld state)
    (hstep : Stepped runtime state action next) : Unheld next ↔ Releases runtime state action := by
  cases hstep with
  | called call =>
    refine iff_of_true ?_ trivial
    intro index task htask hawaiting
    rcases CallList.getElem?_concat_cases htask with ⟨rfl, rfl⟩ | hearlier
    · cases hawaiting
    · exact hunheld index task hearlier hawaiting
  | queued htask hrest =>
    exact iff_of_true hunheld (releases_advance runtime htask (by simp [hrest]))
  | granted hgrant htask hrest =>
    exact iff_of_true (hunheld.change htask (guards_of_grant hgrant).2) trivial
  | unlocked htask hrest =>
    exact iff_of_true (hunheld.change htask fun _ hne => guards_release_of_ne state.lock hne)
      (releases_advance runtime htask (by simp [hrest]))
  | passed htask hrest hlock hunlock hanswered =>
    refine iff_of_true (hunheld.change htask fun _ _ => rfl) (releases_advance runtime htask ?_)
    intro hhead
    rw [hrest] at hhead
    exact hanswered (Option.some.inj hhead)
  | @sent index task rest htask hrest hawaiting =>
    have hfollows := hstate.follows htask
    rw [hrest] at hfollows
    have hkeeps := hfollows.1 rfl
    rw [unheld_change_iff hunheld htask fun _ _ => rfl]
    constructor
    · intro hfree other htask' hhead hawaiting'
      cases htask.symm.trans htask'
      have hnone : state.lock.guards index = 0 := hfree rfl
      rw [hnone] at hkeeps
      simpa using hkeeps
    · intro hreleases hawaited
      have hnot := hreleases task htask (congrArg List.head? hrest) hawaiting
      rw [hnot] at hkeeps
      simpa using hkeeps
  | stale htask hrest =>
    exact iff_of_true (hunheld.change htask fun _ _ => rfl) trivial
  | missing htask hrest =>
    exact iff_of_true
      (hunheld.change htask fun _ hne =>
        RwLock.guards_leave_of_ne state.lock hne)
      (releases_advance runtime htask (by simp [hrest]))
  | dropped htask =>
    exact iff_of_true
      (hunheld.change htask fun _ hne =>
        RwLock.guards_leave_of_ne state.lock hne) trivial

/-- Where no task waits with a guard in hand, neither does the queue. -/
theorem Unheld.not_delayed (hunheld : Unheld state) (waiter : Nat) : ¬ Delayed state waiter := by
  rintro ⟨-, holder, task, htask, hawaiting, hholds⟩
  rw [hunheld holder task htask hawaiting] at hholds
  cases hholds

/-- No task ever waits for the peer with a guard in hand, nor the queue for an answer. -/
def NeverHeld (runtime : Runtime κ) (stored : Bool) (actions : List (Action κ)) : Prop :=
  ∀ before after middle, before ++ after = actions →
    Lts.run (step runtime) (initial stored) before = some middle →
      Unheld middle ∧ ∀ waiter, ¬ Delayed middle waiter

theorem neverHeld_iff {actions : List (Action κ)} {final : State κ}
    (hrun : Lts.run (step runtime) (initial stored) actions = some final) :
    NeverHeld runtime stored actions ↔ Lts.Along (step runtime) (Releases runtime) (initial stored)
        actions := by
  have hinitial : Unheld (initial stored : State κ) := by
    intro index task htask
    cases htask
  have hstates := Lts.forall_states_iff_along
    (fun hstate hstep => Sound.step hstate (step_cases hstep))
    (fun _ _ => trivial)
    (fun hstate hunheld _ hstep =>
      unheld_step_iff hstate hunheld (step_cases hstep))
    (initial_sound runtime stored) hinitial hrun trivial
  rw [← hstates]
  constructor
  · intro hnever before after middle happend hbefore
    exact (hnever before after middle happend hbefore).1
  · intro hall before after middle happend hbefore
    have hunheld := hall before after middle happend hbefore
    exact ⟨hunheld, hunheld.not_delayed⟩

inductive MessageKind where
  | request
  | notification
  /-- A result or an error that answers a request. -/
  | answer
deriving Repr, DecidableEq

def hasRequest (messages : List MessageKind) : Bool :=
  messages.any (· = .request)

/-- The functions of `ServerRuntime` that use `transport_map`. -/
inductive ServerCall where
  /-- A notification in a request goes to the transport of the request. -/
  | send (message : MessageKind) (activeRequest : Bool)
  | sendBatch (messages : List MessageKind)
  | storeTransport (defaultStream : Bool)
  | removeTransport (defaultStream : Bool)
  | consumePayloadString
  | shutdown
  | start
  | stderrMessage
  | waitForTransportReady
  | defaultStreamExists
deriving Repr, DecidableEq

def waitForLiveDefaultTransport : List Point :=
  [.lock .read, .live, .unlock]

def ServerCall.points : ServerCall → List Point
  | .send .notification true => [.send false]
  | .send .notification false => [.lock .read, .get, .unlock, .send false]
  | .send message _ =>
    waitForLiveDefaultTransport ++ [.send (hasRequest [message])]
  | .sendBatch messages =>
    [.lock .read, .get, .send (hasRequest messages), .unlock]
  | .storeTransport defaultStream =>
    if defaultStream then [.lock .write, .store, .unlock] else []
  | .removeTransport defaultStream =>
    if defaultStream then [.lock .read, .transport, .unlock] else []
  | .consumePayloadString => [.lock .read, .get, .transport, .unlock]
  | .shutdown => [.lock .write, .take, .unlock, .transport]
  -- the message loop runs under the guard
  | .start => [.lock .read, .get, .transport, .unlock]
  | .stderrMessage => [.lock .read, .get, .transport, .unlock]
  | .waitForTransportReady => waitForLiveDefaultTransport
  | .defaultStreamExists => [.lock .read, .transport, .unlock]

def ServerCall.keepsGuard : ServerCall → Bool
  | .sendBatch messages => hasRequest messages
  | _ => false

def serverRuntime : Runtime ServerCall where
  points := ServerCall.points
  keepsGuard := ServerCall.keepsGuard
  follows := by
    intro call
    cases call with
    | send message activeRequest =>
      cases message with
      | request => simp [ServerCall.points, ServerCall.keepsGuard,
          waitForLiveDefaultTransport, Follows]
      | notification =>
        cases activeRequest with
        | true => simp [ServerCall.points, Follows]
        | false => simp [ServerCall.points, Follows]
      | answer => simp [ServerCall.points, waitForLiveDefaultTransport,
          Follows, hasRequest]
    | sendBatch messages =>
      simp [ServerCall.points, ServerCall.keepsGuard, Follows]
    | storeTransport defaultStream =>
      cases defaultStream with
      | true => simp [ServerCall.points, Follows]
      | false => simp [ServerCall.points, Follows]
    | removeTransport defaultStream =>
      cases defaultStream with
      | true => simp [ServerCall.points, Follows]
      | false => simp [ServerCall.points, Follows]
    | consumePayloadString => simp [ServerCall.points, Follows]
    | shutdown => simp [ServerCall.points, Follows]
    | start => simp [ServerCall.points, Follows]
    | stderrMessage => simp [ServerCall.points, Follows]
    | waitForTransportReady => simp [ServerCall.points,
        waitForLiveDefaultTransport, Follows]
    | defaultStreamExists => simp [ServerCall.points, Follows]

/-- The functions of `ClientRuntime` that use `transport_map`. -/
inductive ClientCall where
  | send (message : MessageKind)
  | sendBatch (messages : List MessageKind)
  | start
  | storeTransport
  | shutDown
deriving Repr, DecidableEq

/-- With transport options messages go out on a stream that is not in the map. -/
def ClientCall.sendPoints (transportOptions : Bool) (messages : List MessageKind) : List Point :=
  if transportOptions then [.transport, .send (hasRequest messages)]
  else [.lock .read, .get, .send (hasRequest messages), .unlock]

/-- The request to initialize, and the notification behind its answer. -/
def ClientCall.initializeRequest (transportOptions : Bool) : List Point :=
  sendPoints transportOptions [.request] ++ sendPoints transportOptions [.notification]

def ClientCall.points (transportOptions : Bool) : ClientCall → List Point
  | .send message => sendPoints transportOptions [message]
  | .sendBatch messages => sendPoints transportOptions messages
  | .start =>
    if transportOptions then initializeRequest transportOptions
    else
      -- `start_standalone` has a guard of its own until it returns
      [.lock .read, .get, .transport] ++ initializeRequest transportOptions ++ [.unlock]
  | .storeTransport => [.lock .write, .store, .unlock]
  | .shutDown => [.lock .write, .take, .unlock, .transport]

def ClientCall.keepsGuard (transportOptions : Bool) : ClientCall → Bool
  | .send message => !transportOptions && hasRequest [message]
  | .sendBatch messages => !transportOptions && hasRequest messages
  | .start => !transportOptions
  | _ => false

def clientRuntime (transportOptions : Bool) : Runtime ClientCall where
  points := ClientCall.points transportOptions
  keepsGuard := ClientCall.keepsGuard transportOptions
  follows := by
    intro call
    cases transportOptions with
    | true =>
      cases call with
      | send message => simp [ClientCall.points, ClientCall.sendPoints,
          ClientCall.keepsGuard, Follows]
      | sendBatch messages => simp [ClientCall.points,
          ClientCall.sendPoints, ClientCall.keepsGuard, Follows]
      | start => simp [ClientCall.points, ClientCall.initializeRequest,
          ClientCall.sendPoints, ClientCall.keepsGuard, Follows]
      | storeTransport => simp [ClientCall.points, Follows]
      | shutDown => simp [ClientCall.points, Follows]
    | false =>
      cases call with
      | send message => simp [ClientCall.points, ClientCall.sendPoints,
          ClientCall.keepsGuard, Follows]
      | sendBatch messages => simp [ClientCall.points,
          ClientCall.sendPoints, ClientCall.keepsGuard, Follows]
      | start => simp [ClientCall.points, ClientCall.initializeRequest,
          ClientCall.sendPoints, ClientCall.keepsGuard, Follows, hasRequest]
      | storeTransport => simp [ClientCall.points, Follows]
      | shutDown => simp [ClientCall.points, Follows]

/-- In every run of either runtime, no task waits for the peer with a guard of
`transport_map`, and nothing that needs the lock waits for an answer, exactly
when no call that writes a request keeps its guard: `send_batch` of the server,
every request of a client without transport options. -/
theorem transportMap_neverHeld_iff (transportOptions stored : Bool) :
    (∀ actions final, Lts.run (step serverRuntime) (initial stored) actions = some final →
          (NeverHeld serverRuntime stored actions ↔
            Lts.Along (step serverRuntime) (Releases serverRuntime) (initial stored) actions)) ∧
      ∀ actions final, Lts.run (step (clientRuntime transportOptions)) (initial stored)
            actions = some final → (NeverHeld (clientRuntime transportOptions) stored actions ↔
            Lts.Along (step (clientRuntime transportOptions))
              (Releases (clientRuntime transportOptions)) (initial stored) actions) :=
  ⟨fun _ _ hrun => neverHeld_iff hrun, fun _ _ hrun => neverHeld_iff hrun⟩

namespace TransportLockWitness

/-- A call asks the peer while a transport is to be stored. -/
def asking {κ : Type u} (request store : κ) (points : Nat) : List (Action κ) :=
  [.call request, .advance 0, .grant] ++
    List.replicate points (.advance 0) ++ [.call store, .advance 1]

/-- Who waits, the guards of the first task, the queue, and whether it moves. -/
def reading {κ : Type u} (runtime : Runtime κ) (state : State κ) :
    List Bool × Nat × List (Nat × Mode) × Bool :=
  (state.tasks.map Task.awaiting, state.lock.guards 0, state.lock.queue,
    (step runtime state .grant).isSome)

/-- A batch of the server, and a request of a client without options. -/
theorem transportMap_held :
    (Lts.run (step serverRuntime) (initial true)
        (asking (.sendBatch [.request]) (.storeTransport true) 2)).map (reading serverRuntime) =
      some ([true, false], 1, [(1, .write)], false) ∧
    (Lts.run (step (clientRuntime false)) (initial true) (asking (.send .request) .shutDown 2)).map
        (reading (clientRuntime false)) = some ([true, false], 1, [(1, .write)], false) := by
  constructor
  · decide +kernel
  · decide +kernel

/-- A single request of the server gives its guard back first. -/
theorem transportMap_neverHeld_send :
    (Lts.run (step serverRuntime) (initial true)
        (asking (.send .request false) (.storeTransport true) 3)).map (reading serverRuntime) =
      some ([true, false], 0, [(1, .write)], true) ∧ NeverHeld serverRuntime true
      (asking (.send .request false) (.storeTransport true) 3) := by
  have hread : (Lts.run (step serverRuntime) (initial true)
      (asking (.send .request false) (.storeTransport true) 3)).map
      (reading serverRuntime) =
        some ([true, false], 0, [(1, .write)], true) := by
    decide +kernel
  obtain ⟨final, hrun, -⟩ := Option.map_eq_some_iff.mp hread
  exact ⟨hread, ((transportMap_neverHeld_iff false true).1 _ final hrun).mpr (by decide +kernel)⟩

end TransportLockWitness

end McpSdk.TransportLock
