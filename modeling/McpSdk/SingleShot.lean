/-
A request in JSON mode. The body of the HTTP response is the first line on the
transport of the POST, written by the handler, the task that sends its result,
or the keep-alive task.
-/
import McpSdk.HandleMessage
import McpSdk.Lts

namespace McpSdk.SingleShot

open List
open HandleMessage

universe u v w

variable {ι : Type u} {β : Type v} {ε : Type w}

inductive Outgoing (ι : Type u) (β : Type v) (ε : Type w) where
  | notification (params : β)
  | reply (message : ServerMessage ι β ε)
deriving Repr, DecidableEq

/-- Messages as JSON texts, which are on one line and tell them apart. -/
structure Serializer (ι : Type u) (β : Type v) (ε : Type w) where
  toText : Outgoing ι β ε → Str
  injective : Function.Injective toText
  newline_not_mem : ∀ message, '\n' ∉ toText message
  ne_nil : ∀ message, toText message ≠ []

/-- A POST of one request: what its handler sends before it returns, and the
pings in that time. -/
structure Shot (ι : Type u) (β : Type v) (ε : Type w) where
  serializer : Serializer ι β ε
  runtime : Runtime ι β ε
  id : ι
  params : β
  notifications : List β
  pings : Nat

/-- The handler runs, its result is dealt with, or the stream is closed. -/
inductive Phase where
  | handling
  | done
  | closed
deriving Repr, DecidableEq

structure HttpReply where
  status : Nat
  body : Str
deriving Repr, DecidableEq

/-- The handler, what is still to be written, and the body. -/
structure State (β : Type v) where
  phase : Phase
  notifications : List β
  pings : Nat
  /-- What has been written to the transport. -/
  wire : Str
  reply : Option HttpReply

/-- A write on the transport, its end, or the read of the body. -/
inductive Action where
  | notify
  | respond
  | ping
  | close
  | read
deriving Repr, DecidableEq

/-- The handler runs, and nothing has been written. -/
def initial (shot : Shot ι β ε) : State β :=
  ⟨.handling, shot.notifications, shot.pings, [], none⟩

/-- `write_str` on a transport that is not resumable. -/
def State.writeStr (self : State β) (payload : Str) : State β :=
  { self with wire := self.wire ++ (payload ++ ['\n']) }

/-- `read_line`, as soon as there is a line or the end of the stream. -/
def readLine (wire : Str) (closed : Bool) : Option (Option Str) :=
  match RustStr.splitOnce '\n' wire with
  | some (line, _) => some (some (line ++ ['\n']))
  | none =>
    if closed then some (if wire.isEmpty then none else some wire) else none

theorem readLine_closed (wire : Str) : ∃ line, readLine wire true = some line := by
  unfold readLine
  split
  · exact ⟨_, rfl⟩
  · exact ⟨_, rfl⟩

def httpReply : Option Str → HttpReply
  | some line => ⟨200, RustStr.trimEndMatches '\n' line⟩
  | none => ⟨422, "End of the transport stream reached."⟩

/-- A response with status 200 is the response or error of the request. -/
def Sound (shot : Shot ι β ε) (reply : HttpReply) : Prop :=
  reply.status = 200 → ∃ message : ServerMessage ι β ε,
    message.requestId = shot.id ∧ reply.body = shot.serializer.toText (.reply message)

/-- A ping is not the first that is written. -/
def PingNotFirst (state : State β) (action : Action) : Prop :=
  action = .ping → state.wire ≠ []

instance [DecidableEq β] (state : State β) (action : Action) :
    Decidable (PingNotFirst state action) :=
  inferInstanceAs (Decidable (_ → _))

variable {action : Action}

theorem pingNotFirst_of_ne (hne : action ≠ .ping) (state : State β) : PingNotFirst state action :=
  fun hping => absurd hping hne

theorem not_sound_empty (shot : Shot ι β ε) : ¬ Sound shot ⟨200, []⟩ := by
  intro hsound
  obtain ⟨message, -, hbody⟩ := hsound rfl
  exact shot.serializer.ne_nil _ hbody.symm

theorem not_sound_notification (shot : Shot ι β ε) (params : β) :
    ¬ Sound shot ⟨200, shot.serializer.toText (.notification params)⟩ := by
  intro hsound
  obtain ⟨message, -, hbody⟩ := hsound rfl
  cases shot.serializer.injective hbody

variable [DecidableEq ι]

def handled (shot : Shot ι β ε) : Except (SdkError ι β ε) (Option (ServerMessage ι β ε)) :=
  (shot.runtime.handleMessage .new (.request shot.id shot.params)).1

/-- One writer takes its turn. -/
def step (shot : Shot ι β ε) (state : State β) : Action → Option (State β)
  | .notify =>
    match state.phase, state.notifications with
    | .handling, params :: rest =>
      some ({ state with notifications := rest }.writeStr
        (shot.serializer.toText (.notification params)))
    | _, _ => none
  | .respond =>
    match state.phase, state.notifications with
    | .handling, [] =>
      match handled shot with
      | .ok (some message) =>
        some ({ state with phase := .done }.writeStr (shot.serializer.toText (.reply message)))
      | _ => some { state with phase := .done }
    | _, _ => none
  | .ping =>
    if state.phase = .closed then none
    else match state.pings with
    | 0 => none
    | pings + 1 => some ({ state with pings }.writeStr ['\n'])
  | .close =>
    match state.phase with
    | .done => some { state with phase := .closed }
    | _ => none
  | .read =>
    match state.reply, readLine state.wire (state.phase = .closed) with
    | none, some line => some { state with reply := some (httpReply line) }
    | _, _ => none

/-- What a step can do, with its guard. -/
inductive Step (shot : Shot ι β ε) (state : State β) :
    Action → State β → Prop where
  | notify {params : β} {rest : List β} (hphase : state.phase = .handling)
      (hpending : state.notifications = params :: rest) :
      Step shot state .notify ({ state with notifications := rest }.writeStr
        (shot.serializer.toText (.notification params)))
  | respond {message : ServerMessage ι β ε} (hphase : state.phase = .handling)
      (hpending : state.notifications = [])
      (hmessage : handled shot = .ok (some message)) :
      Step shot state .respond ({ state with phase := .done }.writeStr
        (shot.serializer.toText (.reply message)))
  | drop (hphase : state.phase = .handling)
      (hpending : state.notifications = [])
      (hnone : ∀ message, handled shot ≠ .ok (some message)) :
      Step shot state .respond { state with phase := .done }
  | ping {pings : Nat} (hphase : state.phase ≠ .closed)
      (hpings : state.pings = pings + 1) :
      Step shot state .ping ({ state with pings }.writeStr ['\n'])
  | close (hphase : state.phase = .done) :
      Step shot state .close { state with phase := .closed }
  | read {line : Option Str} (hreply : state.reply = none)
      (hline : readLine state.wire (state.phase = .closed) = some line) :
      Step shot state .read { state with reply := some (httpReply line) }

section

variable {state next : State β} {shot : Shot ι β ε}

theorem step_cases (hstep : step shot state action = some next) : Step shot state action next := by
  cases action with
  | notify =>
    simp only [step] at hstep
    split at hstep
    · next params rest hphase hpending =>
      cases hstep
      exact .notify hphase hpending
    · cases hstep
  | respond =>
    simp only [step] at hstep
    split at hstep
    · next hphase hpending =>
      split at hstep
      · next message hmessage =>
        cases hstep
        exact .respond hphase hpending hmessage
      · next hnone =>
        cases hstep
        exact .drop hphase hpending hnone
    · cases hstep
  | ping =>
    simp only [step] at hstep
    split at hstep
    · cases hstep
    · next hphase =>
      split at hstep
      · cases hstep
      · next pings hpings =>
        cases hstep
        exact .ping hphase hpings
  | close =>
    simp only [step] at hstep
    split at hstep
    · next hphase =>
      cases hstep
      exact .close hphase
    · cases hstep
  | read =>
    simp only [step] at hstep
    split at hstep
    · next line hreply hline =>
      cases hstep
      exact .read hreply hline
    · cases hstep

/-- The first line is written, and is all that the reader can get. -/
structure Settled (line : Str) (state : State β) : Prop where
  wire : ∃ rest, state.wire = line ++ '\n' :: rest
  reply : state.reply = none ∨ state.reply = some ⟨200, line⟩

theorem Settled.writeStr {line : Str} (hstate : Settled line state) (payload : Str)
    (hwire : next.wire = state.wire) (hreply : next.reply = state.reply) :
    Settled line (next.writeStr payload) := by
  obtain ⟨rest, hrest⟩ := hstate.wire
  refine ⟨⟨rest ++ (payload ++ ['\n']), ?_⟩, ?_⟩
  · change next.wire ++ _ = _
    rw [hwire, hrest, append_assoc, cons_append]
  · change next.reply = none ∨ next.reply = _
    rw [hreply]
    exact hstate.reply

theorem settled_writeStr (hwire : state.wire = []) (hreply : state.reply = none) (payload : Str) :
    Settled payload (state.writeStr payload) := by
  refine ⟨⟨[], ?_⟩, .inl hreply⟩
  change state.wire ++ _ = _
  rw [hwire, nil_append]

theorem settled_ping (hwire : state.wire = []) (hreply : state.reply = none) :
    Settled [] (state.writeStr ['\n']) := by
  refine ⟨⟨['\n'], ?_⟩, .inl hreply⟩
  change state.wire ++ _ = _
  rw [hwire]
  rfl

theorem readLine_of_settled {line : Str} (hstate : Settled line state) (hline : '\n' ∉ line)
    (closed : Bool) : readLine state.wire closed = some (some (line ++ ['\n'])) := by
  obtain ⟨rest, hrest⟩ := hstate.wire
  rw [readLine, hrest, RustStr.splitOnce_append hline]

/-- A step leaves the first line as it is. -/
theorem Settled.step {line : Str} (hline : '\n' ∉ line) {action : Action}
    (hstate : Settled line state) (hstep : SingleShot.step shot state action = some next) :
    PingNotFirst state action ∧ Settled line next := by
  refine ⟨fun _ hnil => ?_, ?_⟩
  · obtain ⟨rest, hrest⟩ := hstate.wire
    rw [hnil] at hrest
    exact append_ne_nil_of_right_ne_nil _ (cons_ne_nil _ _) hrest.symm
  cases step_cases hstep with
  | notify | respond => exact hstate.writeStr _ rfl rfl
  | drop => exact ⟨hstate.wire, hstate.reply⟩
  | ping => exact hstate.writeStr _ rfl rfl
  | close => exact ⟨hstate.wire, hstate.reply⟩
  | read hreply hread =>
    rw [readLine_of_settled hstate hline, Option.some.injEq] at hread
    subst hread
    refine ⟨hstate.wire, .inr ?_⟩
    change some (httpReply _) = _
    rw [httpReply, RustStr.trimEndMatches_concat_self hline]

variable {actions : List Action} {reply : HttpReply}

variable {final : State β}

/-- Once the first line is written, the body is that line. -/
theorem Settled.run {line : Str} (hline : '\n' ∉ line) (hstate : Settled line state)
    (hrun : Lts.run (SingleShot.step shot) state actions = some final)
    (hreply : final.reply = some reply) :
    Lts.Along (SingleShot.step shot) PingNotFirst state actions ∧ reply = ⟨200, line⟩ := by
  obtain ⟨halong, hfinal⟩ := Lts.run_along
    (fun hsettled hstep => Settled.step hline hsettled hstep) hstate hrun
  refine ⟨halong, ?_⟩
  rcases hfinal.reply with hnone | hsome
  · rw [hreply] at hnone
    cases hnone
  · rw [hreply] at hsome
    exact Option.some.inj hsome

/-- The stream has been closed with nothing written. -/
structure Ended (state : State β) : Prop where
  phase : state.phase = .closed
  wire : state.wire = []
  reply : state.reply = none ∨ state.reply = some (httpReply none)

theorem Ended.step {action : Action} (hstate : Ended state)
    (hstep : SingleShot.step shot state action = some next) :
    PingNotFirst state action ∧ Ended next := by
  have hclosed := hstate.phase
  cases step_cases hstep with
  | notify hphase | respond hphase | drop hphase =>
    cases hclosed.symm.trans hphase
  | ping hphase => exact absurd hclosed hphase
  | close hphase => cases hclosed.symm.trans hphase
  | read hreply hread =>
    refine ⟨pingNotFirst_of_ne (by decide) state, hclosed, hstate.wire, .inr ?_⟩
    rw [hstate.wire, hclosed] at hread
    cases hread
    rfl

theorem Ended.run (hstate : Ended state)
    (hrun : Lts.run (SingleShot.step shot) state actions = some final)
    (hreply : final.reply = some reply) :
    Lts.Along (SingleShot.step shot) PingNotFirst state actions ∧ reply = httpReply none := by
  obtain ⟨halong, hfinal⟩ := Lts.run_along (fun hended hstep => Ended.step hended hstep) hstate hrun
  refine ⟨halong, ?_⟩
  rcases hfinal.reply with hnone | hsome
  · rw [hreply] at hnone
    cases hnone
  · rw [hreply] at hsome
    exact Option.some.inj hsome

theorem sound_handled {message : ServerMessage ι β ε}
    (hmessage : handled shot = .ok (some message)) :
    Sound shot ⟨200, shot.serializer.toText (.reply message)⟩ := by
  intro _
  have hid := Runtime.handleMessage_reply hmessage
  exact ⟨message, Option.some.inj hid, rfl⟩

theorem run_sound_iff_of_dropped (hphase : state.phase = .done)
    (hwire : state.wire = []) (hnone : state.reply = none)
    (hrun : Lts.run (step shot) state actions = some final) (hreply : final.reply = some reply) :
    Sound shot reply ↔ Lts.Along (step shot) PingNotFirst state actions := by
  cases actions with
  | nil =>
    cases hrun
    rw [hnone] at hreply
    cases hreply
  | cons action actions =>
    obtain ⟨next, hnext, hrest⟩ := Lts.run_cons_eq_some.mp hrun
    rw [Lts.along_cons_of_some hnext]
    cases step_cases hnext with
    | notify hhandling | respond hhandling | drop hhandling =>
      cases hphase.symm.trans hhandling
    | @ping pings =>
      have hsettled : Settled [] ({ state with pings }.writeStr ['\n']) :=
        settled_ping hwire hnone
      obtain ⟨-, rfl⟩ := hsettled.run not_mem_nil hrest hreply
      exact iff_of_false (not_sound_empty shot) fun halong => halong.1 rfl hwire
    | close =>
      have hended : Ended { state with phase := .closed } := ⟨rfl, hwire, .inl hnone⟩
      obtain ⟨halong, rfl⟩ := hended.run hrest hreply
      refine iff_of_true (fun hstatus => ?_) ⟨pingNotFirst_of_ne (by decide) state, halong⟩
      cases hstatus
    | read _ hread =>
      rw [hwire, hphase] at hread
      cases hread

/-- When the body is the response, for any run. -/
theorem run_sound_iff (hrun : Lts.run (step shot) (initial shot) actions = some final)
    (hreply : final.reply = some reply) :
    Sound shot reply ↔ shot.notifications = [] ∧
      Lts.Along (step shot) PingNotFirst (initial shot) actions := by
  cases actions with
  | nil =>
    cases hrun
    cases hreply
  | cons action actions =>
    obtain ⟨next, hnext, hrest⟩ := Lts.run_cons_eq_some.mp hrun
    rw [Lts.along_cons_of_some hnext]
    cases step_cases hnext with
    | @notify params rest hphase hpending =>
      obtain ⟨-, rfl⟩ := (settled_writeStr rfl rfl _).run
        (shot.serializer.newline_not_mem _) hrest hreply
      refine iff_of_false (not_sound_notification shot params) ?_
      rintro ⟨hnone, -⟩
      cases hpending.symm.trans hnone
    | respond hphase hpending hmessage =>
      obtain ⟨halong, rfl⟩ := (settled_writeStr rfl rfl _).run
        (shot.serializer.newline_not_mem _) hrest hreply
      exact iff_of_true (sound_handled hmessage)
        ⟨hpending, pingNotFirst_of_ne (by decide) _, halong⟩
    | drop hphase hpending =>
      rw [run_sound_iff_of_dropped rfl rfl rfl hrest hreply]
      constructor
      · intro halong
        exact ⟨hpending, pingNotFirst_of_ne (by decide) _, halong⟩
      · rintro ⟨-, -, halong⟩
        exact halong
    | @ping pings =>
      have hsettled : Settled []
          ({ initial shot with pings }.writeStr ['\n']) :=
        settled_ping rfl rfl
      obtain ⟨-, rfl⟩ := hsettled.run not_mem_nil hrest hreply
      exact iff_of_false (not_sound_empty shot) fun hboth => hboth.2.1 rfl rfl
    | close hphase => cases hphase
    | read _ hread => cases hread

def Phase.rank : Phase → Nat
  | .handling => 2
  | .done => 1
  | .closed => 0

def work (state : State β) : Nat :=
  state.phase.rank + state.notifications.length + state.pings +
    if state.reply.isNone then 1 else 0

/-- Every step leaves less to do. -/
theorem step_work (hstep : step shot state action = some next) : work next < work state := by
  cases step_cases hstep with
  | notify hphase hpending => simp [work, State.writeStr, hpending]
  | respond hphase hpending =>
    simp [work, State.writeStr, hphase, hpending, Phase.rank]
  | drop hphase hpending => simp [work, hphase, hpending, Phase.rank]
  | ping hphase hpings => simp [work, State.writeStr, hpings]
  | close hphase => simp [work, hphase, Phase.rank]
  | read hreply hread => simp [work, hreply]

theorem reply_of_stop (hstop : ∀ action, step shot state action = none) :
    state.reply.isSome = true := by
  cases hphase : state.phase with
  | handling =>
    cases hpending : state.notifications with
    | nil =>
      have hrespond := hstop .respond
      simp only [step, hphase, hpending] at hrespond
      split at hrespond
      · cases hrespond
      · cases hrespond
    | cons params rest =>
      have hnotify := hstop .notify
      simp [step, hphase, hpending] at hnotify
  | done =>
    have hclose := hstop .close
    simp [step, hphase] at hclose
  | closed =>
    cases hreply : state.reply with
    | some reply => rfl
    | none =>
      have hread := hstop .read
      obtain ⟨line, hline⟩ := readLine_closed state.wire
      simp [step, hreply, hphase, hline] at hread

/-- Every POST of one request in JSON mode gets a response. One with status 200
has the response or error of the request as its body exactly when no
notification is sent and no ping is written first. -/
theorem singleShot_sound_iff (shot : Shot ι β ε) :
    Lts.Inevitable (step shot) (initial shot) (fun state => state.reply.isSome = true) ∧
      ∀ actions final reply, Lts.run (step shot) (initial shot) actions = some final →
        final.reply = some reply → (Sound shot reply ↔ shot.notifications = [] ∧
            Lts.Along (step shot) PingNotFirst (initial shot) actions) := by
  constructor
  · exact @Lts.inevitable_of_measure _ _ _ work (fun _ => True) _ _
      (fun _ hstep => ⟨trivial, step_work hstep⟩) (fun _ hstop => reply_of_stop hstop) trivial
  · intro actions final reply hrun hreply
    exact run_sound_iff hrun hreply

end

namespace SingleShotWitness

def toText : Outgoing Bool Unit Unit → Str
  | .notification _ => "n"
  | .reply (.response id _) => if id then "r1" else "r0"
  | .reply (.error id _) => if id then "e1" else "e0"

theorem toText_injective : Function.Injective toText := by
  intro left right heq
  rcases left with ⟨⟩ | ⟨⟨⟩ | ⟨⟩, ⟨⟩⟩ | ⟨⟨⟩ | ⟨⟩, ⟨⟩⟩ <;>
    rcases right with ⟨⟩ | ⟨⟨⟩ | ⟨⟩, ⟨⟩⟩ | ⟨⟨⟩ | ⟨⟩, ⟨⟩⟩ <;>
    first | rfl | cases heq

theorem toText_line (message : Outgoing Bool Unit Unit) :
    '\n' ∉ toText message ∧ toText message ≠ [] := by
  rcases message with ⟨⟨⟩⟩ | ⟨⟨⟩ | ⟨⟩, ⟨⟩⟩ | ⟨⟨⟩ | ⟨⟩, ⟨⟩⟩ <;> decide

def shot (notifications : List Unit) : Shot Bool Unit Unit where
  serializer := ⟨toText, toText_injective, fun message => (toText_line message).1,
    fun message => (toText_line message).2⟩
  runtime := ⟨fun _ _ => .ok (), fun _ => .ok (), fun _ => .ok (), true⟩
  id := true
  params := ()
  notifications
  pings := 1

/-- A notification of the handler, or a ping, becomes the body. -/
theorem not_sound_first_line :
    (∃ final, Lts.run (step (shot [()])) (initial (shot [()]))
        [.notify, .respond, .read] = some final ∧
      final.reply = some ⟨200, "n"⟩ ∧
      ¬ Sound (shot [()]) ⟨200, "n"⟩) ∧
    ∃ final, Lts.run (step (shot [])) (initial (shot []))
        [.ping, .respond, .read] = some final ∧
      final.reply = some ⟨200, []⟩ ∧ ¬ Sound (shot []) ⟨200, []⟩ :=
  ⟨⟨_, rfl, rfl, not_sound_notification (shot [()]) ()⟩, ⟨_, rfl, rfl, not_sound_empty (shot [])⟩⟩

theorem sound_response :
    ∃ final reply, Lts.run (step (shot [])) (initial (shot []))
        [.respond, .ping, .read] = some final ∧ final.reply = some reply ∧
      Sound (shot []) reply := by
  have hrun : Lts.run (step (shot [])) (initial (shot [])) [.respond, .ping, .read] = some _ := rfl
  exact ⟨_, _, hrun, rfl, ((singleShot_sound_iff (shot [])).2 _ _ _ hrun rfl).mpr ⟨rfl, by decide⟩⟩

end SingleShotWitness

end McpSdk.SingleShot
