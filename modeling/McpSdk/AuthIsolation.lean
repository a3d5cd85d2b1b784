/-
Concurrent requests on one session, whose token is one cell. `update_auth_info`
compares it under a read lock and writes it under a write lock, and a handler
reads it later; other requests run in between.
-/
import McpSdk.AuthPropagation
import McpSdk.Lts

namespace McpSdk.AuthIsolation

open List
open AuthPropagation (shouldUpdate ServerRuntime)

universe u

variable {γ : Type u}

/-- Where a request is with respect to `update_auth_info` and its handler. -/
inductive Phase where
  | arrived
  | writing
  | updated
  | handling
  | finished
deriving Repr, DecidableEq

/-- What calls `update_auth_info`: a GET, which runs no handler, and a POST. -/
inductive Kind where
  | get
  | post
deriving Repr, DecidableEq

def Kind.behind : Kind → Phase
  | .get => .finished
  | .post => .updated

structure Request (γ : Type u) where
  kind : Kind
  authInfo : Option (AuthInfo γ)
  phase : Phase
deriving Repr, DecidableEq

/-- The cell, its requests, and what handlers have read, with their own tokens. -/
structure State (γ : Type u) where
  authInfo : Option (AuthInfo γ)
  requests : List (Request γ)
  reads : List (Option (AuthInfo γ) × Option (AuthInfo γ))

/-- What a request on the session does next. -/
inductive Action (γ : Type u) where
  | arrive (kind : Kind) (authInfo : Option (AuthInfo γ))
  | compare (index : Nat)
  | write (index : Nat)
  | handle (index : Nat)
  | read (index : Nat)
  | finish (index : Nat)
deriving Repr, DecidableEq

/-- A new session, in which the POST that made it is still to be handled. -/
def initial (authInfo : Option (AuthInfo γ)) : State γ :=
  ⟨authInfo, [⟨.post, authInfo, .updated⟩], []⟩

def State.enter (self : State γ) (index : Nat) (request : Request γ) (phase : Phase) : State γ :=
  { self with requests := self.requests.set index { request with phase } }

/-- One request takes one step. -/
def step (state : State γ) : Action γ → Option (State γ)
  | .arrive kind authInfo =>
    some { state with requests := state.requests ++ [⟨kind, authInfo, .arrived⟩] }
  | .compare index =>
    match state.requests[index]? with
    | some ⟨kind, authInfo, .arrived⟩ =>
      if shouldUpdate state.authInfo authInfo then
        some (state.enter index ⟨kind, authInfo, .arrived⟩ .writing)
      else some (state.enter index ⟨kind, authInfo, .arrived⟩ kind.behind)
    | _ => none
  | .write index =>
    match state.requests[index]? with
    | some ⟨kind, authInfo, .writing⟩ =>
      some { state.enter index ⟨kind, authInfo, .writing⟩ kind.behind with authInfo }
    | _ => none
  | .handle index =>
    match state.requests[index]? with
    | some ⟨kind, authInfo, .updated⟩ =>
      some (state.enter index ⟨kind, authInfo, .updated⟩ .handling)
    | _ => none
  | .read index =>
    match state.requests[index]? with
    | some ⟨_, authInfo, .handling⟩ =>
      some { state with
        reads := state.reads ++ [(authInfo, state.authInfo)] }
    | _ => none
  | .finish index =>
    match state.requests[index]? with
    | some ⟨kind, authInfo, .updated⟩ =>
      some (state.enter index ⟨kind, authInfo, .updated⟩ .finished)
    | some ⟨kind, authInfo, .handling⟩ =>
      some (state.enter index ⟨kind, authInfo, .handling⟩ .finished)
    | _ => none

/-- Every handler has read the token of its own request. -/
def ReadsOwn (state : State γ) : Prop :=
  ∀ read ∈ state.reads, read.2 = read.1

/-- A POST that is behind `update_auth_info` and not done. -/
def Request.Live (self : Request γ) : Prop :=
  self.phase = .updated ∨ self.phase = .handling

instance (self : Request γ) : Decidable self.Live :=
  inferInstanceAs (Decidable (_ ∨ _))

/-- A token is written while no request with another one is live, and compared
with no other token of its unique id. -/
def Undisturbed (state : State γ) : Action γ → Prop
  | .compare index => ∀ request ∈ state.requests[index]?, ∀ old ∈ state.authInfo,
      ∀ new ∈ request.authInfo, old.tokenUniqueId = new.tokenUniqueId → old = new
  | .write index => ∀ request ∈ state.requests[index]?, ∀ other ∈ state.requests,
      other.Live → other.authInfo = request.authInfo
  | _ => True

instance [DecidableEq γ] (state : State γ) : DecidablePred (Undisturbed state)
  | .compare _ => inferInstanceAs (Decidable (∀ _ ∈ _, _))
  | .write _ => inferInstanceAs (Decidable (∀ _ ∈ _, _))
  | .arrive .. | .handle _ | .read _ | .finish _ => isTrue trivial

/-- The cell has the token of every live request. -/
structure Isolated (state : State γ) : Prop where
  live : ∀ request ∈ state.requests, request.Live → state.authInfo = request.authInfo
  reads : ReadsOwn state

theorem initial_isolated (authInfo : Option (AuthInfo γ)) : Isolated (initial authInfo) :=
  ⟨forall_mem_singleton.mpr fun _ => rfl, forall_mem_nil _⟩

variable {authInfo : Option (AuthInfo γ)}

theorem eq_of_shouldUpdate_eq_false {current : Option (AuthInfo γ)}
    (hsame : shouldUpdate current authInfo = false) (hunique : ∀ old ∈ current, ∀ new ∈ authInfo,
      old.tokenUniqueId = new.tokenUniqueId → old = new) : current = authInfo := by
  cases current with
  | none =>
    cases authInfo with
    | none => rfl
    | some new => cases hsame
  | some old =>
    cases authInfo with
    | none => cases hsame
    | some new => rw [hunique old rfl new rfl (by simpa [shouldUpdate] using hsame)]

variable {state : State γ}

theorem Isolated.enter (hstate : Isolated state) {index : Nat} {request : Request γ}
    {phase : Phase}
    (hlive : ({ request with phase } : Request γ).Live → state.authInfo = request.authInfo) :
    Isolated (state.enter index request phase) := by
  refine ⟨?_, hstate.reads⟩
  intro other hother hotherLive
  rcases mem_or_eq_of_mem_set hother with hold | rfl
  · exact hstate.live other hold hotherLive
  · exact hlive hotherLive

theorem not_live {request : Request γ} (hupdated : request.phase ≠ .updated)
    (hhandling : request.phase ≠ .handling) : ¬ request.Live :=
  fun hlive => hlive.elim hupdated hhandling

/-- A step that is not disturbed keeps the cell isolated. -/
theorem Isolated.step {next : State γ} {action : Action γ} (hstate : Isolated state)
    (hundisturbed : Undisturbed state action)
    (hstep : AuthIsolation.step state action = some next) : Isolated next := by
  cases action with
  | arrive kind authInfo =>
    cases hstep
    refine ⟨forall_mem_append.mpr ⟨hstate.live, forall_mem_singleton.mpr ?_⟩, hstate.reads⟩
    exact fun hlive => absurd hlive (not_live nofun nofun)
  | compare index =>
    simp only [AuthIsolation.step] at hstep
    split at hstep
    · next hrequest =>
      split at hstep
      · cases hstep
        exact hstate.enter fun hlive => absurd hlive (not_live nofun nofun)
      · next hsame =>
        cases hstep
        refine hstate.enter fun _ => ?_
        exact eq_of_shouldUpdate_eq_false (Bool.eq_false_iff.mpr hsame) (hundisturbed _ hrequest)
    · cases hstep
  | write index =>
    simp only [AuthIsolation.step] at hstep
    split at hstep
    · next hrequest =>
      cases hstep
      refine ⟨?_, hstate.reads⟩
      intro other hother hlive
      rcases mem_or_eq_of_mem_set hother with hold | rfl
      · exact (hundisturbed _ hrequest other hold hlive).symm
      · rfl
    · cases hstep
  | handle index =>
    simp only [AuthIsolation.step] at hstep
    split at hstep
    · next hrequest =>
      cases hstep
      exact hstate.enter fun _ => hstate.live _ (mem_of_getElem? hrequest) (.inl rfl)
    · cases hstep
  | read index =>
    simp only [AuthIsolation.step] at hstep
    split at hstep
    · next hrequest =>
      cases hstep
      refine ⟨hstate.live, forall_mem_append.mpr ⟨hstate.reads, forall_mem_singleton.mpr ?_⟩⟩
      exact hstate.live _ (mem_of_getElem? hrequest) (.inr rfl)
    · cases hstep
  | finish index =>
    simp only [AuthIsolation.step] at hstep
    split at hstep
    · cases hstep
      exact hstate.enter fun hlive => absurd hlive (not_live nofun nofun)
    · cases hstep
      exact hstate.enter fun hlive => absurd hlive (not_live nofun nofun)
    · cases hstep

/-- With no other request in between, the two locks are `update_auth_info`. -/
theorem run_updateAuthInfo {index : Nat} {kind : Kind}
    (hrequest : state.requests[index]? = some ⟨kind, authInfo, .arrived⟩) :
    ∃ actions next, Lts.run step state (.compare index :: actions) = some next ∧
        next.requests[index]? = some ⟨kind, authInfo, kind.behind⟩ ∧
        next.authInfo = ((⟨state.authInfo⟩ : ServerRuntime γ).updateAuthInfo authInfo).authInfo := by
  obtain ⟨hindex, -⟩ := List.getElem?_eq_some_iff.mp hrequest
  cases hupdate : shouldUpdate state.authInfo authInfo with
  | true =>
    have hcompare : step state (.compare index) =
        some (state.enter index ⟨kind, authInfo, .arrived⟩ .writing) := by
      simp only [step, hrequest, hupdate, if_true]
    have hwrite : step (state.enter index ⟨kind, authInfo, .arrived⟩ .writing) (.write index) =
        some { state.enter index ⟨kind, authInfo, .writing⟩ kind.behind with authInfo } := by
      simp [step, State.enter, hindex]
    refine ⟨[.write index], _,
      Lts.run_cons_eq_some.mpr ⟨_, hcompare, Lts.run_cons_eq_some.mpr ⟨_, hwrite, rfl⟩⟩, ?_, ?_⟩
    · simp [State.enter, hindex]
    · simp [ServerRuntime.updateAuthInfo, hupdate]
  | false =>
    have hcompare : step state (.compare index) =
        some (state.enter index ⟨kind, authInfo, .arrived⟩ kind.behind) := by
      simp only [step, hrequest, hupdate, Bool.false_eq_true, if_false]
    refine ⟨[], _, Lts.run_cons_eq_some.mpr ⟨_, hcompare, rfl⟩, ?_, ?_⟩
    · simp [State.enter, hindex]
    · simp [ServerRuntime.updateAuthInfo, hupdate, State.enter]

/-- In every interleaving in which tokens are written undisturbed, a handler
that reads the token of its runtime gets that of its own request. -/
theorem run_readsOwn (authInfo : Option (AuthInfo γ)) {actions : List (Action γ)}
    {final : State γ} (hundisturbed : Lts.Along step Undisturbed (initial authInfo) actions)
    (hrun : Lts.run step (initial authInfo) actions = some final) : ReadsOwn final :=
  (Lts.run_invariant (fun hstate hcondition hstep =>
    Isolated.step hstate hcondition hstep) (initial_isolated authInfo)
    hundisturbed hrun).reads

namespace AuthIsolationWitness

def token (id : Str) : AuthInfo Unit :=
  ⟨id, none, some 100, ()⟩

/-- The third request writes its token while the second is in its handler. -/
def overlapping : List (Action Unit) :=
  [.finish 0, .arrive .post (token "a"), .arrive .post (token "b"), .compare 1, .write 1,
    .handle 1, .compare 2, .write 2, .read 1]

/-- The second request writes its token before the handler of the first reads. -/
def early : List (Action Unit) :=
  [.arrive .post (token "b"), .compare 1, .write 1, .handle 0, .read 0]

theorem overlapping_not_readsOwn :
    (∃ final, Lts.run step (initial (some (token "c"))) overlapping = some final ∧
        ¬ ReadsOwn final) ∧
      ∃ final, Lts.run step (initial (some (token "a"))) early = some final ∧
        ¬ ReadsOwn final := by
  have hoverlapping : Lts.run step (initial (some (token "c"))) overlapping = some _ := rfl
  have hearly : Lts.run step (initial (some (token "a"))) early = some _ := rfl
  refine ⟨⟨_, hoverlapping, fun hreads => ?_⟩, ⟨_, hearly, fun hreads => ?_⟩⟩
  · cases hreads _ (mem_singleton_self _)
  · cases hreads _ (mem_singleton_self _)

/-- The second request arrives early and writes after the first is done. -/
def serial : List (Action Unit) :=
  [.handle 0, .arrive .post (token "b"), .arrive .get (token "a"), .compare 1, .compare 2,
    .read 0, .finish 0, .write 1, .handle 1, .read 1]

theorem serial_readsOwn :
    ∃ final, Lts.run step (initial (some (token "a"))) serial = some final ∧
      ReadsOwn final := by
  have hrun : Lts.run step (initial (some (token "a"))) serial = some _ := rfl
  exact ⟨_, hrun, run_readsOwn (some (token "a")) (by decide) hrun⟩

end AuthIsolationWitness

end McpSdk.AuthIsolation
