/-
`CancellationTokenSource` and `CancellationToken`: a watch channel of one flag.
Tokens come and go, and any number of calls of `cancelled` wait at the same
time.
-/
import McpSdk.CallList
import McpSdk.Watch

namespace McpSdk.Cancellation

open List

inductive CancellationError where
  | channelClosed
deriving Repr, DecidableEq

/-- A call of `cancelled`, by its next operation and the version it has seen. -/
inductive Call where
  | check (seen : Nat)
  | changed (seen : Nat)
  | returned (result : Except CancellationError Unit)
  | dropped
deriving DecidableEq

def Call.isPending : Call → Bool
  | .check _ => true
  | .changed _ => true
  | _ => false

def Call.advance (channel : Watch Bool) : Call → Option Call
  | .check seen => some (if channel.value then .returned (.ok ()) else .changed seen)
  | .changed seen =>
    (channel.changed seen).map fun
      | .ok version => .check version
      | .error () => .returned (.error .channelClosed)
  | _ => none

/-- The channel, its receivers, and the calls of `cancelled`. -/
structure State where
  channel : Watch Bool
  /-- What the receiver of each token has seen, until the token is dropped. -/
  tokens : List (Option Nat)
  calls : List Call
deriving DecidableEq

def State.new : State :=
  ⟨.new false, [some 0], []⟩

def State.receivers (state : State) : Nat :=
  state.tokens.countP Option.isSome + state.calls.countP Call.isPending

def State.cancel (state : State) : Except CancellationError Unit × State :=
  match state.channel.send state.receivers true with
  | some channel => (.ok (), { state with channel })
  | none => (.error .channelClosed, state)

/-- What the source and the holders of tokens can do. -/
inductive Action where
  | cancel
  | dropSource
  | token
  | clone (token : Nat)
  | dropToken (token : Nat)
  | cancelled (token : Nat)
  | advance (call : Nat)
  | dropCall (call : Nat)
deriving Repr, DecidableEq

/-- One use of the source or of a token. -/
def step (state : State) : Action → Option State
  | .cancel => if !state.channel.closed then some state.cancel.2 else none
  | .dropSource =>
    if !state.channel.closed then
      some { state with channel := { state.channel with closed := true } }
    else none
  | .token =>
    if !state.channel.closed then
      some { state with tokens := state.tokens ++ [some state.channel.version] }
    else none
  | .clone token =>
    state.tokens[token]?.join.map fun seen =>
      { state with tokens := state.tokens ++ [some seen] }
  | .dropToken token =>
    state.tokens[token]?.join.map fun _ => { state with tokens := state.tokens.set token none }
  | .cancelled token =>
    state.tokens[token]?.join.map fun seen => { state with calls := state.calls ++ [.check seen] }
  | .advance call =>
    (state.calls[call]?.bind (·.advance state.channel)).map fun next =>
      { state with calls := state.calls.set call next }
  | .dropCall call =>
    if state.calls[call]?.any Call.isPending then
      some { state with calls := state.calls.set call .dropped }
    else none

/-- What a call knows about the channel. -/
def Call.Right (channel : Watch Bool) : Call → Prop
  | .check seen => seen ≤ channel.version
  | .changed seen => channel.Awaits id seen
  | .returned (.ok ()) => channel.value = true
  | .returned (.error _) => channel.closed = true ∧ channel.value = false
  | .dropped => True

/-- Tokens and calls are in line with the channel. -/
structure Sound (state : State) : Prop where
  tokens : ∀ seen, some seen ∈ state.tokens → seen ≤ state.channel.version
  calls : ∀ call ∈ state.calls, call.Right state.channel

variable {channel : Watch Bool} {call next : Call} {state : State}

theorem Call.Right.advance (hcall : call.Right channel)
    (hadvance : call.advance channel = some next) : next.Right channel := by
  cases call with
  | check seen =>
    cases hvalue : channel.value with
    | true =>
      simp only [Call.advance, hvalue, if_true, Option.some.injEq] at hadvance
      subst hadvance
      exact hvalue
    | false =>
      simp only [Call.advance, hvalue, Bool.false_eq_true, if_false, Option.some.injEq] at hadvance
      subst hadvance
      exact .of_unwanted hcall hvalue
  | changed seen =>
    obtain ⟨answer, hanswer, rfl⟩ := Option.map_eq_some_iff.mp hadvance
    cases answer with
    | ok version =>
      unfold Watch.changed at hanswer
      change version ≤ channel.version
      grind
    | error =>
      obtain ⟨hseen, hclosed⟩ := Watch.changed_error hanswer
      exact ⟨hclosed, hcall.unwanted hseen⟩
  | returned | dropped => cases hadvance

theorem Call.Right.send {after : Watch Bool} {receivers : Nat} (hcall : call.Right channel)
    (hopen : channel.closed = false) (hsend : channel.send receivers true = some after) :
    call.Right after := by
  obtain ⟨-, hafter⟩ := Option.ite_none_right_eq_some.mp hsend
  match call with
  | .check _ =>
    cases hafter
    exact Nat.le_succ_of_le hcall
  | .changed _ => exact Watch.Awaits.send hcall hsend
  | .returned (.ok ()) =>
    cases hafter
    rfl
  | .returned (.error _) =>
    rw [hcall.1] at hopen
    cases hopen
  | .dropped => trivial

theorem Call.Right.close (hcall : call.Right channel) :
    call.Right { channel with closed := true } := by
  match call with
  | .check _ | .returned (.ok ()) | .dropped => exact hcall
  | .changed _ => exact ⟨hcall.le, hcall.unwanted⟩
  | .returned (.error _) => exact ⟨rfl, hcall.2⟩

theorem Sound.seen_le {token seen : Nat} (hstate : Sound state)
    (hseen : state.tokens[token]?.join = some seen) : seen ≤ state.channel.version :=
  hstate.tokens seen (mem_of_getElem? (Option.join_eq_some_iff.mp hseen))

theorem Sound.concat_tokens {seen : Nat} (hstate : Sound state)
    (hseen : seen ≤ state.channel.version) :
    ∀ other, some other ∈ state.tokens ++ [some seen] → other ≤ state.channel.version := by
  intro other hother
  rcases mem_append.mp hother with hmem | hmem
  · exact hstate.tokens other hmem
  · cases mem_singleton.mp hmem
    exact hseen

/-- A step keeps every call and token right. -/
theorem Sound.step {after : State} {action : Action} (hstate : Sound state)
    (hstep : step state action = some after) : Sound after := by
  cases action with
  | cancel =>
    obtain ⟨hopen, ⟨⟩⟩ := Lts.of_guard hstep
    rw [Bool.not_eq_true'] at hopen
    unfold State.cancel
    split
    · next channel hsend =>
      refine ⟨fun seen hseen => ?_, fun call hcall => (hstate.calls call hcall).send hopen hsend⟩
      obtain ⟨-, hchannel⟩ := Option.ite_none_right_eq_some.mp hsend
      cases hchannel
      exact Nat.le_succ_of_le (hstate.tokens seen hseen)
    · exact hstate
  | dropSource =>
    obtain ⟨-, ⟨⟩⟩ := Lts.of_guard hstep
    exact ⟨hstate.tokens, fun call hcall => (hstate.calls call hcall).close⟩
  | token =>
    obtain ⟨-, ⟨⟩⟩ := Lts.of_guard hstep
    exact ⟨hstate.concat_tokens (Nat.le_refl _), hstate.calls⟩
  | clone token =>
    obtain ⟨seen, hseen, rfl⟩ := Option.map_eq_some_iff.mp hstep
    exact ⟨hstate.concat_tokens (hstate.seen_le hseen), hstate.calls⟩
  | dropToken token =>
    obtain ⟨seen, -, rfl⟩ := Option.map_eq_some_iff.mp hstep
    refine ⟨fun other hother => ?_, hstate.calls⟩
    rcases mem_or_eq_of_mem_set hother with hmem | heq
    · exact hstate.tokens other hmem
    · cases heq
  | cancelled token =>
    obtain ⟨seen, hseen, rfl⟩ := Option.map_eq_some_iff.mp hstep
    exact ⟨hstate.tokens,
      forall_mem_append.mpr ⟨hstate.calls, forall_mem_singleton.mpr (hstate.seen_le hseen)⟩⟩
  | advance index =>
    obtain ⟨next, hnext, rfl⟩ := Option.map_eq_some_iff.mp hstep
    obtain ⟨call, hcall, hadvance⟩ := Option.bind_eq_some_iff.mp hnext
    have hright := (hstate.calls call (mem_of_getElem? hcall)).advance hadvance
    exact ⟨hstate.tokens, CallList.forall_mem_set hstate.calls hright index⟩
  | dropCall index =>
    obtain ⟨-, ⟨⟩⟩ := Lts.of_guard hstep
    exact ⟨hstate.tokens, CallList.forall_mem_set hstate.calls (by trivial) index⟩

/-- How many operations a call has before it, at most. -/
def Call.rank (channel : Watch Bool) : Call → Nat
  | .check seen => if channel.value then 1 else if seen = channel.version then 2 else 4
  | .changed seen => if channel.value then 2 else if seen = channel.version then 1 else 3
  | _ => 0

theorem Call.rank_advance (hadvance : call.advance channel = some next) :
    next.rank channel < call.rank channel := by
  cases call with
  | check seen =>
    cases hadvance
    cases hvalue : channel.value <;> simp only [Call.rank, hvalue] <;> grind
  | changed seen =>
    obtain ⟨answer, hanswer, rfl⟩ := Option.map_eq_some_iff.mp hadvance
    unfold Watch.changed at hanswer
    cases answer <;> simp only [Call.rank] <;> grind
  | returned | dropped => cases hadvance

/-- Once the flag is set or the source is gone, no call waits for ever. -/
theorem Call.Right.finished (hcall : call.Right channel)
    (hdecided : channel.value = true ∨ channel.closed = true)
    (hnone : call.advance channel = none) :
    call = .dropped ∨
      call = .returned (if channel.value then .ok () else .error .channelClosed) := by
  match call with
  | .check _ => cases hnone
  | .changed seen =>
    rw [Call.advance, Option.map_eq_none_iff] at hnone
    rcases hdecided with hvalue | hclosed
    · rw [hcall.changed_of_wanted hvalue] at hnone
      cases hnone
    · unfold Watch.changed at hnone
      grind
  | .returned (.ok ()) =>
    have hvalue : channel.value = true := hcall
    exact .inr (by rw [if_pos hvalue])
  | .returned (.error .channelClosed) => exact .inr (by simp [hcall.2])
  | .dropped => exact .inl rfl

/-- Once a cancellation is sent, or the source is dropped without one, every
call of `cancelled` that is not dropped returns and says which it was. -/
theorem cancelled_inevitable {actions : List Action} {final : State}
    (hrun : Lts.run step .new actions = some final)
    (hdecided : final.channel.value = true ∨ final.channel.closed = true) :
    Lts.Inevitable (fun state call => step state (.advance call)) final fun state =>
      ∀ call ∈ state.calls, call = .dropped ∨
        call = .returned (if final.channel.value then .ok () else .error .channelClosed) := by
  have hnew : Sound .new := ⟨by simp [State.new, Watch.new], by simp [State.new]⟩
  have hfinal := Lts.run_keeps Sound.step hnew hrun
  refine @CallList.inevitable_of_rank _ final.calls _
    (fun state call => step state (.advance call)) (fun calls => { final with calls }) State.calls
    (Call.advance final.channel) (Call.rank final.channel) (Call.Right final.channel) _ _
    (fun _ => rfl) (fun _ _ => rfl)
    (fun hcall hadvance => ⟨hcall.advance hadvance, Call.rank_advance hadvance⟩)
    (fun hcall hnone => hcall.finished hdecided hnone) (fun hended => ?_) hfinal.calls
  exact hended

namespace CancellationWitness

/-- A clone waits, and the first token is dropped before the cancellation. -/
def awaited : List Action :=
  [.clone 0, .cancelled 1, .advance 0, .dropToken 0, .cancel, .dropSource]

theorem awaited_cancelled :
    ∃ final, Lts.run step .new awaited = some final ∧
      Lts.Inevitable (fun state call => step state (.advance call)) final fun state =>
        ∀ call ∈ state.calls, call = .dropped ∨
          call = .returned (if final.channel.value then .ok () else .error .channelClosed) :=
  ⟨⟨⟨true, 1, true⟩, [none, some 0], [.changed 0]⟩, by decide,
    @cancelled_inevitable awaited _ (by decide) (.inl rfl)⟩

end CancellationWitness

end McpSdk.Cancellation
