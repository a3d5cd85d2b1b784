/-
How often the loops of the streamable HTTP stream take up a lost stream again.
The standalone loop counts; the loop behind a POST does not, so that a server
can make it reconnect for ever.
-/
import McpSdk.HttpStream

namespace McpSdk.HttpStream

open Option
open StartStream (TransportError validateResponseType)

def State.reading (state : State) : Bool :=
  state.call.any fun call => call.phase = .reading

/-- A stream, and how many were opened since the last chunk, if any came. -/
structure Watched where
  state : State
  opened : Option Nat
deriving DecidableEq

def Watched.start (sessionId : Option Str) : Watched :=
  ⟨.start sessionId, none⟩

def openedAfter (opened : Option Nat) (action : Action) (next : State) : Option Nat :=
  match action with
  | .post _ => if next.reading then some 0 else none
  | .connect => none
  | .get _ => if next.reading then some (opened.elim 0 (· + 1)) else opened
  | .chunk _ _ => some 0
  | _ => opened

/-- A step of the stream, with its reconnections counted. -/
def Watched.step (client : Client) (watched : Watched) (action : Action) : Option Watched :=
  (HttpStream.step client watched.state action).map fun next =>
    ⟨next, openedAfter watched.opened action next⟩

def State.failed (state : State) : Prop :=
  ∃ call error, state.call = some call ∧ call.phase = .returned (.error error)

/-- No more than `max_retries` streams were opened without a chunk, and after
that many the loop returns an error. -/
structure Bounded (client : Client) (watched : Watched) : Prop where
  opened_le : ∀ count, watched.opened = some count → count ≤ client.maxRetries
  gives_up : watched.opened = some client.maxRetries →
    ∀ {action : Action} {next : Watched},
      (action = .ended ∨ ∃ error, action = .broken error) →
        watched.step client action = some next → next.state.failed

/-- The count of attempts bounds the streams opened. -/
def Counted (client : Client) (call : Call) (opened : Option Nat) : Prop :=
  match call.phase with
  | .reading => call.retryCount ≤ client.maxRetries ∧
      opened = some call.retryCount
  | .sleeping _ => call.retryCount ≤ client.maxRetries ∧
      opened.map (· + 1) = some call.retryCount
  | .connecting _ _ _ => call.retryCount ≤ client.maxRetries ∧
      opened.elim 0 (· + 1) = call.retryCount
  | _ => ∀ count, opened = some count → count ≤ client.maxRetries

variable {client : Client} {call : Call} {opened : Option Nat}

theorem Counted.opened_le (hcounted : Counted client call opened) {count : Nat}
    (hopened : opened = some count) : count ≤ client.maxRetries := by
  subst hopened
  unfold Counted at hcounted
  split at hcounted
  · obtain ⟨hle, hcount⟩ := hcounted
    rw [some.injEq] at hcount
    omega
  · obtain ⟨hle, hcount⟩ := hcounted
    rw [map_some, some.injEq] at hcount
    omega
  · obtain ⟨hle, hcount⟩ := hcounted
    rw [elim_some] at hcount
    omega
  · exact hcounted count rfl

theorem Counted.of_not_open (hopened : ∀ count, opened = some count → count ≤ client.maxRetries)
    (hphase : ¬ call.phase.Open) : Counted client call opened := by
  unfold Counted
  split
  · next hreading => exact absurd (hreading ▸ trivial) hphase
  · next hsleeping => exact absurd (hsleeping ▸ trivial) hphase
  · next hconnecting => exact absurd (hconnecting ▸ trivial) hphase
  · exact hopened

theorem Counted.retry (hcounted : Counted client call opened) (hphase : call.phase = .reading)
    (error : TransportError) : Counted client (call.retry client error) opened := by
  have hreading := hcounted
  rw [Counted, hphase] at hreading
  obtain ⟨hle, hopened⟩ := hreading
  unfold Call.retry
  split
  · exact Counted.of_not_open (fun _ => hcounted.opened_le) id
  · next hleft =>
    refine ⟨Nat.lt_of_not_ge hleft, ?_⟩
    rw [hopened]
    rfl

theorem callStep_loop {sessionId : Option Str} {next : Call} {action : Action}
    (hstep : callStep client sessionId call action = some next) : next.loop = call.loop := by
  by_cases hchunk : ∃ bytes accepted, action = .chunk bytes accepted
  · obtain ⟨bytes, accepted, rfl⟩ := hchunk
    cases callStep_sound hstep with
    | chunk hphase => exact (call.readChunk_spec bytes accepted).loop
  · exact (callStep_sameStream (fun bytes accepted heq => hchunk ⟨bytes, accepted, heq⟩) hstep).loop

theorem Call.streamEnded_standalone (client : Client) (hloop : call.loop = .runStandalone) :
    call.streamEnded client = call.retry client (.internal
      "Stream has ended; max reconnect retries reached") := by
  rw [Call.streamEnded, hloop]

theorem Call.streamBroken_standalone (client : Client) (hloop : call.loop = .runStandalone)
    (error : Str) : call.streamBroken client error = call.retry client (.httpConnection error) := by
  rw [Call.streamBroken, hloop]

theorem Counted.callStep {sessionId : Option Str} {next : Call} {action : Action}
    (hcounted : Counted client call opened) (hloop : call.loop = .runStandalone)
    (hstep : HttpStream.callStep client sessionId call action = some next) (state : State) :
    Counted client next (openedAfter opened action state) := by
  cases callStep_sound hstep with
  | chunk hphase bytes accepted =>
    rcases (call.readChunk_spec bytes accepted).phase hphase with
      hend | ⟨hreading, -, hzero⟩
    · refine Counted.of_not_open ?_ hend
      rintro count ⟨⟩
      exact Nat.zero_le _
    · rw [Counted, hreading]
      exact ⟨(hzero hloop).symm ▸ Nat.zero_le _, by rw [hzero hloop]; rfl⟩
  | ended hphase =>
    rw [Call.streamEnded_standalone client hloop]
    exact hcounted.retry hphase _
  | broken hphase error =>
    rw [Call.streamBroken_standalone client hloop]
    exact hcounted.retry hphase _
  | wake hphase =>
    -- the retry was counted when the stream was lost, the stream is when it
    -- is opened
    rw [Counted, hphase] at hcounted
    obtain ⟨hle, hopened⟩ := hcounted
    refine ⟨hle, ?_⟩
    change opened.elim 0 (· + 1) = call.retryCount
    cases opened with
    | none => cases hopened
    | some count => exact Option.some.inj hopened
  | cancel | panic => exact Counted.of_not_open (fun _ => hcounted.opened_le) id

theorem getPhase_cases (client : Client) (sessionId : Option Str) (headers : Option HeaderList)
    (retryCount : Nat) (reply : Except Str Response) :
    let phase := getPhase client sessionId headers retryCount reply
    phase = .reading ∨ (∃ count, phase = .connecting sessionId headers count) ∨
      ∃ error, phase = .returned (.error error) := by
  intro phase
  change getPhase client sessionId headers retryCount reply = .reading ∨
    (∃ count, getPhase client sessionId headers retryCount reply =
      .connecting sessionId headers count) ∨
    ∃ error, getPhase client sessionId headers retryCount reply = .returned (.error error)
  unfold getPhase
  simp only
  split
  · split
    · exact Or.inl rfl
    · exact Or.inr (Or.inr ⟨_, rfl⟩)
  · split
    · exact Or.inr (Or.inr ⟨_, rfl⟩)
    · exact Or.inr (Or.inl ⟨_, rfl⟩)
  · split
    · exact Or.inr (Or.inr ⟨_, rfl⟩)
    · split
      · exact Or.inr (Or.inr ⟨_, rfl⟩)
      · exact Or.inr (Or.inl ⟨_, rfl⟩)
  · exact Or.inr (Or.inr ⟨_, rfl⟩)

/-- The standalone loop is within its count. -/
def Watched.Counts (client : Client) (watched : Watched) : Prop :=
  ∀ {call : Call}, watched.state.call = some call →
    call.loop = .runStandalone → Counted client call watched.opened

/-- A step keeps the count of the attempts. -/
theorem Watched.Counts.step {watched next : Watched} {action : Action}
    (hcounts : watched.Counts client)
    (hstep : watched.step client action = some next) : next.Counts client := by
  obtain ⟨state, hstate, rfl⟩ := map_eq_some_iff.mp hstep
  intro call hcall hloop
  rcases step_cases hstate with ⟨reply, headers, rfl, -, rfl⟩ |
    ⟨reply, before, sessionId, connection, retryCount, headers, rfl, hbefore,
      hphase, -, rfl⟩ | ⟨-, later, rfl, hlater⟩
  · obtain ⟨phase, hposted⟩ := watched.state.posted_call headers reply
    rw [hposted] at hcall
    cases hcall
    cases hloop
  · have hcounted := hcounts hbefore (by cases hcall; exact hloop)
    have hle := hcounted
    rw [Counted, hphase] at hle
    obtain ⟨hretries, hopened⟩ := hle
    cases hcall
    rcases getPhase_cases client sessionId connection retryCount reply with
      hreading | ⟨count, hconnecting⟩ | ⟨error, herror⟩
    · simp [Counted, openedAfter, State.reading, State.got, hreading, hretries, hopened]
    · simp [Counted, openedAfter, State.reading, State.got, hconnecting, hretries, hopened]
    · simp only [openedAfter, State.reading, State.got, herror]
      exact Counted.of_not_open (fun _ => hcounted.opened_le) id
  · cases hcall
    rcases hlater with ⟨rfl, rfl⟩ | ⟨before, hbefore, hnext⟩
    · exact ⟨Nat.zero_le _, rfl⟩
    · exact (hcounts hbefore ((callStep_loop hnext).symm.trans hloop)).callStep
        ((callStep_loop hnext).symm.trans hloop) hnext _

theorem Call.retry_failed (hretries : client.maxRetries ≤ call.retryCount)
    (error : TransportError) : (call.retry client error).phase = .returned (.error error) := by
  rw [Call.retry, if_pos hretries]

theorem Watched.Counts.bounded {watched : Watched}
    (hcounts : watched.Counts client) (hcall : watched.state.call = some call)
    (hloop : call.loop = .runStandalone) : Bounded client watched where
  opened_le := fun _ => (hcounts hcall hloop).opened_le
  gives_up := by
    intro hopened action next haction hstep
    obtain ⟨state, hstate, rfl⟩ := map_eq_some_iff.mp hstep
    have hretries : call.phase = .reading →
        client.maxRetries ≤ call.retryCount := by
      intro hphase
      have hcounted := hcounts hcall hloop
      rw [Counted, hphase, hopened, some.injEq] at hcounted
      exact Nat.le_of_eq hcounted.2
    rcases step_cases hstate with ⟨reply, headers, rfl, -⟩ |
      ⟨reply, before, sessionId, connection, retryCount, headers, rfl, -⟩ |
      ⟨-, later, rfl, ⟨rfl, -⟩ | ⟨before, hbefore, hlater⟩⟩
    · simp at haction
    · simp at haction
    · simp at haction
    · cases hcall.symm.trans hbefore
      rcases haction with rfl | ⟨error, rfl⟩
      · cases callStep_sound hlater with
        | ended hphase =>
          have hend := congrArg Call.phase (Call.streamEnded_standalone client hloop)
          exact ⟨_, _, rfl, hend.trans (Call.retry_failed (hretries hphase) _)⟩
      · cases callStep_sound hlater with
        | broken hphase =>
          have hend := congrArg Call.phase (Call.streamBroken_standalone client hloop error)
          exact ⟨_, _, rfl, hend.trans (Call.retry_failed (hretries hphase) _)⟩

def eventStreamType : Bytes :=
  Utf8.encode "text/event-stream"

def streamReply : Except Str Response :=
  .ok ⟨200, some eventStreamType, none⟩

def primingChunk : Bytes :=
  Utf8.encode "id: 1\n\n"

/-- The server closes the stream, and opens the one that the loop asks for. -/
def reopening : List Action :=
  [.ended, .wake, .get streamReply]

theorem validateResponseType_eventStreamType :
    validateResponseType (some eventStreamType) = .ok .eventStream := by
  decide +kernel

theorem getPhase_streamReply (client : Client) (sessionId : Option Str)
    (headers : Option HeaderList) (retryCount : Nat) :
    getPhase client sessionId headers retryCount streamReply = .reading := by
  simp [getPhase, httpReply, streamReply, validateResponseType_eventStreamType]

/-- `run` has seen an id and no data, and opened so many streams since. -/
structure Watched.Primed (watched : Watched) (count : Nat) : Prop where
  sessionId : watched.state.sessionId = none
  opened : watched.opened = some count
  call : ∃ call, watched.state.call = some call ∧ call.loop = .run ∧
    call.phase = .reading ∧ call.hasPrimingEvent = true ∧
    call.receivedResponse = false

theorem Watched.Primed.reopening {watched : Watched} {count : Nat}
    (hprimed : watched.Primed count) :
    ∃ next, Lts.run (Watched.step client) watched reopening = some next ∧
      next.Primed (count + 1) := by
  obtain ⟨⟨sessionId, known, _, requests⟩, opened⟩ := watched
  obtain ⟨hsession, hopened, call, hcall, hloop, hphase, hpriming, hreceived⟩ := hprimed
  cases hsession
  cases hopened
  cases hcall
  let asleep : Call := { call with phase := .sleeping (call.sseRetryDelay.getD client.retryDelay) }
  let headers := connectionHeaders client call.lastEventId
  let connecting : Call := { call with phase := .connecting none headers 0 }
  let request := headers.elim baseHeaders baseHeaders.replace
  let reopened := (⟨none, known, some connecting, requests⟩ : State).got
    connecting request streamReply .reading
  have hended : Watched.step client ⟨⟨none, known, some call, requests⟩,
      some count⟩ .ended =
        some ⟨⟨none, known, some asleep, requests⟩, some count⟩ := by
    simp [Watched.step, HttpStream.step, callStep, hphase, Call.streamEnded,
      hloop, hpriming, hreceived, openedAfter, asleep]
  have hwake : Watched.step client ⟨⟨none, known, some asleep, requests⟩,
      some count⟩ .wake = some ⟨⟨none, known, some connecting, requests⟩, some count⟩ := rfl
  have hget : Watched.step client ⟨⟨none, known, some connecting, requests⟩,
      some count⟩ (.get streamReply) = some ⟨reopened, some (count + 1)⟩ := by
    have hopen : HttpStream.step client ⟨none, known, some connecting, requests⟩
        (.get streamReply) = some reopened := by
      change some (State.got _ _ _ _ _) = some reopened
      rw [getPhase_streamReply]
    rw [Watched.step, hopen]
    rfl
  refine ⟨⟨reopened, some (count + 1)⟩, ?_, rfl, rfl, _, rfl, hloop, rfl, hpriming, hreceived⟩
  simp only [HttpStream.reopening, Lts.run, hended, hwake, hget, bind_some]

/-- A POST that is answered with a stream, and an event with an id. -/
def priming : List Action :=
  [.post streamReply, .chunk primingChunk 0]

theorem Watched.primed_priming (client : Client) :
    ∃ primed, Lts.run (Watched.step client) (Watched.start none) priming =
        some primed ∧ primed.Primed 0 := by
  let request := client.customHeaders.elim baseHeaders baseHeaders.replace
  let posted := (State.start none).posted request streamReply
  let call := (Call.new .run .reading).readChunk primingChunk 0
  have hcall : call.loop = .run ∧ call.phase = .reading ∧
      call.hasPrimingEvent = true ∧ call.receivedResponse = false := by
    decide +kernel
  have hposted : posted = ⟨none, none, some (Call.new .run .reading),
      [⟨.run, false, request, none, []⟩]⟩ := by
    simp [posted, State.posted, State.start, streamReply, httpReply,
      knownAfter, Response.sessionId, postPhase, validateResponseType_eventStreamType]
  have hpost : Watched.step client (Watched.start none) (.post streamReply) =
      some ⟨posted, some 0⟩ := by
    have hstep : HttpStream.step client (State.start none) (.post streamReply) = some posted := rfl
    rw [Watched.step, Watched.start, hstep, hposted]
    rfl
  have hchunk : Watched.step client ⟨posted, some 0⟩ (.chunk primingChunk 0) =
      some ⟨{ posted with call := some call }, some 0⟩ := by
    rw [hposted]
    rfl
  refine ⟨⟨{ posted with call := some call }, some 0⟩, ?_, ?_, rfl, call, rfl, hcall⟩
  · simp only [priming, Lts.run, hpost, hchunk, bind_some]
  · rw [hposted]

theorem Watched.exists_primed (client : Client) (count : Nat) :
    ∃ actions watched, Lts.run (Watched.step client) (Watched.start none) actions =
        some watched ∧ watched.Primed count := by
  induction count with
  | zero => exact ⟨priming, Watched.primed_priming client⟩
  | succ count ih =>
    obtain ⟨actions, watched, hrun, hprimed⟩ := ih
    obtain ⟨next, hnext, hreopened⟩ := hprimed.reopening
    exact ⟨actions ++ reopening, next, Lts.run_append_eq_some.mpr ⟨watched, hrun, hnext⟩, hreopened⟩

/-- For every `max_retries`: in all runs no more streams are opened without a
chunk, and then an error is returned, exactly for the standalone loop. -/
theorem reconnects_bounded_iff (client : Client) (loop : Loop) :
    (∀ sessionId actions watched call,
        Lts.run (Watched.step client) (Watched.start sessionId) actions = some watched →
        watched.state.call = some call → call.loop = loop → Bounded client watched) ↔
      loop = .runStandalone := by
  constructor
  · intro hbounded
    cases loop with
    | run =>
      obtain ⟨actions, watched, hrun, -, hopened, call, hcall, hloop, -⟩ :=
        Watched.exists_primed client (client.maxRetries + 1)
      have hle := (hbounded none actions watched call hrun hcall hloop).opened_le _ hopened
      omega
    | runStandalone => rfl
  · rintro rfl sessionId actions watched call hrun hcall hloop
    have hstart : (Watched.start sessionId).Counts client := by
      intro call hcall
      cases hcall
    exact Watched.Counts.bounded (Lts.run_keeps Watched.Counts.step hstart hrun) hcall hloop

namespace ReconnectBoundWitness

/-- Without retries, three streams are opened after the first one. -/
def actions : List Action :=
  priming ++ reopening ++ reopening ++ reopening

theorem opened_without_retries :
    ∃ watched call, Lts.run (Watched.step ⟨⟨.ok, fun _ => .ok ()⟩, none, 0, 0⟩)
        (Watched.start none) actions = some watched ∧
      watched.state.call = some call ∧ call.loop = .run ∧ watched.opened = some 3 ∧
      ¬ Bounded ⟨⟨.ok, fun _ => .ok ()⟩, none, 0, 0⟩ watched := by
  have hrun : (Lts.run (Watched.step ⟨⟨.ok, fun _ => .ok ()⟩, none, 0, 0⟩)
      (Watched.start none) actions).any (fun watched =>
        watched.opened = some 3 ∧ watched.state.call.any (·.loop = .run)) =
      true := by
    decide +kernel
  obtain ⟨watched, hwatched, hopened⟩ := (any_eq_true _ _).mp hrun
  obtain ⟨hthree, hany⟩ := of_decide_eq_true hopened
  obtain ⟨call, hcall, hloop⟩ := (any_eq_true _ _).mp hany
  refine ⟨watched, call, hwatched, hcall, of_decide_eq_true hloop, hthree, ?_⟩
  intro hbounded
  exact absurd (hbounded.opened_le 3 hthree) (by decide)

end ReconnectBoundWitness

end McpSdk.HttpStream
