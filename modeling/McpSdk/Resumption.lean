/-
A client that loses its standalone stream and resumes it. Messages are stored
and then written, and a replay task asks the event store once. Every message
carries the id it was stored under as a label.
-/
import McpSdk.Lts
import McpSdk.StandaloneStream

namespace McpSdk.Resumption

open List Option
open MessageDispatcher (lineBytes)

/-- A line on the way to the client, and the id its message was stored under. -/
structure WireLine where
  storedId : Option Str
  bytes : Bytes
deriving Repr, DecidableEq

/-- A data event that reached the client, and the id of its message. -/
structure Delivery where
  storedId : Option Str
  event : SseEvent
deriving Repr, DecidableEq

/-- The store, the wire, and what the client has seen. -/
structure State where
  /-- The event store; messages are pairs of their id and their text. -/
  store : InMemoryEventStore (Str × Str)
  /-- Calls of `write_str` that have stored their message and not written it. -/
  writes : List (Str × Str)
  /-- The position from which a replay task will ask the store. -/
  replayFrom : Option Str
  /-- Messages that the replay task still has to write. -/
  replaying : List (Str × Str)
  connected : Bool
  wire : List WireLine
  /-- The parser that reads the current stream. -/
  parser : SseParser
  /-- The last id the client has seen. -/
  lastEventId : Option Str
  delivered : List Delivery

/-- A first connection, on which nothing has been sent. -/
def initial (maxEventsPerSession : Option Nat) : State :=
  ⟨.new maxEventsPerSession, [], none, [], true, [], .new, none, []⟩

/-- The server sends or replays, or the client reads or resumes. -/
inductive Action where
  /-- `write_str` stores a message. -/
  | store (now : Nat) (payload : Str)
  /-- `write_str` writes a message that it has stored. -/
  | write (index : Nat)
  /-- The keep-alive task writes an empty line. -/
  | keepAlive
  /-- Another stream or session uses the store. -/
  | other (op : InMemoryEventStore.StoreOp (Str × Str))
  /-- The next line reaches the client as a frame. -/
  | deliver
  | disconnect
  /-- The client opens the stream again, with the last id it has seen. -/
  | resume
  /-- The replay task asks the event store. -/
  | lookup
  /-- The replay task writes its next message, without storing it. -/
  | replay

instance (payload : Str) : Decidable (IsPayload payload) :=
  decidable_of_iff ('\n' ∉ payload ∧ RustStr.trim payload ≠ [] ∧ RustStr.trim payload ≠ [':'])
    ⟨fun h => ⟨h.1, h.2.1, h.2.2⟩, fun h => ⟨h.line, h.ne_blank, h.ne_colon⟩⟩

/-- What the client makes of a frame: the data events, and their last id. -/
def receive (lastEventId : Option Str) (events : List SseEvent) : Option Str :=
  events.foldl (fun last event =>
    if event.data.isSome ∧ event.id.isSome then event.id else last) lastEventId

def frames (bytes : Bytes) : Bytes :=
  ((messageStream true bytes).map (·.getD [])).flatten

/-- A line that is written while nobody reads is lost. -/
def push (self : State) (line : WireLine) : List WireLine :=
  if self.connected then self.wire ++ [line] else self.wire

/-- One step of the server or of the client. -/
def step (sessionId streamId : Str) (self : State) : Action → Option State
  | .store now payload =>
    if IsPayload payload then
      let id := InMemoryEventStore.generateEventId sessionId streamId now
      some { self with
        store := (self.store.storeEvent sessionId streamId now (id, payload)).2
        writes := self.writes ++ [(id, payload)] }
    else none
  | .write index =>
    match self.writes[index]? with
    | none => none
    | some (id, payload) =>
      some { self with
        writes := self.writes.eraseIdx index
        wire := push self ⟨some id, lineBytes (some id) payload⟩ }
  | .keepAlive =>
    some { self with
      wire := push self ⟨none, lineBytes none ['\n']⟩ }
  | .other op => some { self with store := self.store.apply op }
  | .deliver =>
    match self.wire with
    | [] => none
    | line :: wire =>
      let result := self.parser.processNewChunk (frames line.bytes)
      some { self with
        wire := wire
        parser := result.2
        lastEventId := receive self.lastEventId result.1
        delivered := self.delivered ++ (result.1.filter (·.data.isSome)).map (⟨line.storedId, ·⟩) }
  | .disconnect => some { self with connected := false, wire := [] }
  | .resume =>
    if self.connected then none
    else some { self with
      connected := true
      writes := []
      replayFrom := self.lastEventId
      replaying := []
      wire := []
      parser := .new }
  | .lookup =>
    match self.replayFrom with
    | none => none
    | some lastEventId =>
      some { self with
        replayFrom := none
        replaying := replayedMessages (some self.store) (some lastEventId) }
  | .replay =>
    match self.replaying with
    | [] => none
    | (id, payload) :: replaying =>
      some { self with
        replaying := replaying
        wire := push self ⟨some id, lineBytes none payload⟩ }

/-- Every data event carries the id of its message, and the last id seen is that
of the last message. -/
def Current (self : State) : Prop :=
  (∀ delivery ∈ self.delivered,
    delivery.storedId.isSome ∧ delivery.event.id = delivery.storedId) ∧
    self.lastEventId = self.delivered.getLast?.bind (·.storedId)

/-- Ids are clean, and no replay task finds a message to replay. -/
def Clean (sessionId streamId : Str) (self : State) : Action → Prop
  | .store now _ =>
    CleanId (InMemoryEventStore.generateEventId sessionId streamId now)
  | .lookup => ∀ lastEventId, self.replayFrom = some lastEventId →
      replayedMessages (some self.store) (some lastEventId) = []
  | _ => True

/-- The lines of the live stream: keep-alives, and messages behind their id. -/
def Sound (line : WireLine) : Prop :=
  line = ⟨none, lineBytes none ['\n']⟩ ∨
    ∃ id payload, CleanId id ∧ IsPayload payload ∧
      line = ⟨some id, lineBytes (some id) payload⟩

variable {parser : SseParser}

theorem processNewChunk_keepAlive (hparser : parser.AtBoundary) :
    parser.processNewChunk (frames (lineBytes none ['\n'])) = ([], ⟨[newline]⟩) := by
  have hempty : ∀ {parser : SseParser}, parser.AtBoundary →
      parser.processNewChunk [newline] = ([], ⟨[newline]⟩) := by
    intro parser hparser
    have hnone : ∀ line ∈ ([] : List Bytes), line ≠ [newline] := by simp
    exact hparser.processNewChunk (by simp) hnone
  have hframes : frames (lineBytes none ['\n']) = [newline] ++ [newline] := by decide
  rw [hframes, SseParser.processNewChunk_append, hempty hparser, hempty (.inr rfl)]
  rfl

theorem processNewChunk_live (hparser : parser.AtBoundary) {id payload : Str}
    (hid : CleanId id) (hpayload : IsPayload payload) :
    parser.processNewChunk (frames (lineBytes (some id) payload)) =
      ([⟨none, some (Utf8.encode (payload ++ ['\n'])), some id, none⟩], ⟨[newline]⟩) := by
  have htext : lineText (some id) payload = id ++ idSeparator :: payload := by
    simp [lineText]
  have hline : '\n' ∉ lineText (some id) payload := by
    have hpipe : '\n' ≠ idSeparator := by decide
    simp [lineText, hid.line, hpayload.line, hpipe]
  have hne : payload ≠ [] := by
    rintro rfl
    exact hpayload.ne_blank rfl
  rw [frames, MessageDispatcher.lineBytes_eq_encode, processNewChunk_messageStream hparser hline
      (hpayload.lineText_full (some id)), htext, RustStr.splitOnce_append hid.no_separator]
  simp only [hne, ↓reduceIte, hid.trimmed]

variable {line : WireLine}

theorem Sound.processNewChunk (hline : Sound line) (hparser : parser.AtBoundary) :
    ∃ events, parser.processNewChunk (frames line.bytes) = (events, ⟨[newline]⟩) ∧
      (events = [] ∨ ∃ id data, line.storedId = some id ∧
        events = [⟨none, some data, some id, none⟩]) := by
  rcases hline with rfl | ⟨id, payload, hid, hpayload, rfl⟩
  · exact ⟨[], processNewChunk_keepAlive hparser, .inl rfl⟩
  · exact ⟨_, processNewChunk_live hparser hid hpayload, .inr ⟨id, _, rfl, rfl⟩⟩

/-- What holds as long as nothing is replayed. -/
structure Steady (state : State) : Prop where
  parser : state.parser.AtBoundary
  writes : ∀ write ∈ state.writes, CleanId write.1 ∧ IsPayload write.2
  replaying : state.replaying = []
  wire : ∀ line ∈ state.wire, Sound line
  current : Current state

theorem initial_steady (maxEventsPerSession : Option Nat) : Steady (initial maxEventsPerSession) :=
  ⟨.inl rfl, by simp [initial], rfl, by simp [initial], by simp [initial], rfl⟩

theorem Steady.push {self : State} (hself : Steady self) (hline : Sound line) :
    ∀ other ∈ push self line, Sound other := by
  intro other hother
  unfold Resumption.push at hother
  split at hother
  · rcases mem_append.mp hother with hother | hother
    · exact hself.wire other hother
    · rw [mem_singleton.mp hother]
      exact hline
  · exact hself.wire other hother

theorem Steady.deliver {self : State} (hself : Steady self)
    {wire : List WireLine} (hwire : self.wire = line :: wire) :
    Steady { self with
      wire := wire
      parser := (self.parser.processNewChunk (frames line.bytes)).2
      lastEventId := receive self.lastEventId
        (self.parser.processNewChunk (frames line.bytes)).1
      delivered := self.delivered ++
        ((self.parser.processNewChunk (frames line.bytes)).1.filter
          (·.data.isSome)).map (⟨line.storedId, ·⟩) } := by
  have hline : Sound line := hself.wire line (by rw [hwire]; exact mem_cons_self)
  have hrest : ∀ other ∈ wire, Sound other := by
    intro other hother
    exact hself.wire other (by rw [hwire]; exact mem_cons_of_mem _ hother)
  obtain ⟨hids, hlast⟩ := hself.current
  obtain ⟨events, hread, hevents⟩ := hline.processNewChunk hself.parser
  rw [hread]
  refine ⟨.inr rfl, hself.writes, hself.replaying, hrest, ?_⟩
  rcases hevents with rfl | ⟨id, data, hstored, rfl⟩
  · refine ⟨?_, ?_⟩
    · simpa using hids
    · simpa [receive] using hlast
  · refine ⟨?_, ?_⟩
    · intro delivery hdelivery
      simp only [filter_cons, isSome_some, ↓reduceIte, filter_nil, map_cons, map_nil, mem_append,
        mem_singleton] at hdelivery
      rcases hdelivery with hdelivery | rfl
      · exact hids delivery hdelivery
      · exact ⟨by simp [hstored], hstored.symm⟩
    · simp [receive, hstored]

/-- A clean step keeps the stream free of replays. -/
theorem Steady.step {sessionId streamId : Str} {self next : State} {action : Action}
    (hself : Steady self) (hclean : Clean sessionId streamId self action)
    (hstep : step sessionId streamId self action = some next) : Steady next := by
  cases action with
  | store now payload =>
    simp only [Resumption.step, ite_none_right_eq_some, some.injEq] at hstep
    obtain ⟨hpayload, rfl⟩ := hstep
    refine ⟨hself.parser, ?_, hself.replaying, hself.wire, hself.current⟩
    intro write hwrite
    rcases mem_append.mp hwrite with hwrite | hwrite
    · exact hself.writes write hwrite
    · rw [mem_singleton.mp hwrite]
      exact ⟨hclean, hpayload⟩
  | write index =>
    simp only [Resumption.step] at hstep
    split at hstep
    · cases hstep
    · next id payload hget =>
      cases hstep
      obtain ⟨hid, hpayload⟩ := hself.writes (id, payload) (mem_of_getElem? hget)
      refine ⟨hself.parser, ?_, hself.replaying, ?_, hself.current⟩
      · intro write hwrite
        exact hself.writes write (mem_of_mem_eraseIdx hwrite)
      · exact hself.push (.inr ⟨id, payload, hid, hpayload, rfl⟩)
  | keepAlive =>
    cases hstep
    exact ⟨hself.parser, hself.writes, hself.replaying, hself.push (.inl rfl), hself.current⟩
  | other op =>
    cases hstep
    exact ⟨hself.parser, hself.writes, hself.replaying, hself.wire, hself.current⟩
  | deliver =>
    simp only [Resumption.step] at hstep
    split at hstep
    · cases hstep
    · next line wire hwire =>
      cases hstep
      exact hself.deliver hwire
  | disconnect =>
    cases hstep
    exact ⟨hself.parser, hself.writes, hself.replaying, by simp, hself.current⟩
  | resume =>
    simp only [Resumption.step, ite_none_left_eq_some, some.injEq] at hstep
    obtain ⟨-, rfl⟩ := hstep
    exact ⟨.inl rfl, by simp, rfl, by simp, hself.current⟩
  | lookup =>
    simp only [Resumption.step] at hstep
    split at hstep
    · cases hstep
    · next lastEventId hfrom =>
      cases hstep
      exact ⟨hself.parser, hself.writes, hclean lastEventId hfrom, hself.wire, hself.current⟩
  | replay =>
    simp only [Resumption.step, hself.replaying] at hstep
    cases hstep

/-- In every run with clean ids and nothing to replay, every data event carries
the id of its message and the last id seen is that of the last message. -/
theorem run_current (sessionId streamId : Str) (maxEventsPerSession : Option Nat)
    (actions : List Action) (final : State)
    (hclean : Lts.Along (step sessionId streamId) (Clean sessionId streamId) (initial
      maxEventsPerSession) actions)
    (hrun : Lts.run (step sessionId streamId) (initial maxEventsPerSession) actions = some final) :
    Current final :=
  (Lts.run_invariant Steady.step (initial_steady maxEventsPerSession) hclean hrun).current

namespace ResumptionWitness

instance (self : State) : Decidable (Current self) :=
  inferInstanceAs (Decidable (_ ∧ _))

instance (id : Str) : Decidable (CleanId id) :=
  decidable_of_iff ('\n' ∉ id ∧ idSeparator ∉ id ∧ RustStr.trim id = id)
    ⟨fun h => ⟨h.1, h.2.1, h.2.2⟩, fun h => ⟨h.line, h.no_separator, h.trimmed⟩⟩

instance (sessionId streamId : Str) (self : State) :
    ∀ action, Decidable (Clean sessionId streamId self action)
  | .store now _ => inferInstanceAs (Decidable (CleanId
      (InMemoryEventStore.generateEventId sessionId streamId now)))
  | .lookup => inferInstanceAs (Decidable (∀ lastEventId,
      self.replayFrom = some lastEventId →
        replayedMessages (some self.store) (some lastEventId) = []))
  | .write _ | .keepAlive | .other _ | .deliver | .disconnect | .resume
  | .replay => isTrue trivial

def sessionId : Str := "s1"

def streamId : Str := "STANDALONE-STREAM"

/-- The next message is stored while the client is away, and replayed. -/
def missed : List Action :=
  [.store 5 "[1]", .write 0, .deliver, .disconnect,
    .store 6 "[2]", .resume, .lookup, .replay, .deliver]

def nothingMissed : List Action :=
  [.store 5 "[1]", .write 0, .deliver, .disconnect, .resume, .lookup, .keepAlive, .deliver]

/-- The replayed message has no id, and the client stays at the one before. -/
theorem not_current_missed :
    ¬ ∀ final, Lts.run (step sessionId streamId) (initial none) missed =
      some final → Current final := by
  intro hcurrent
  have hstale : (Lts.run (step sessionId streamId) (initial none) missed).map
      (fun final => decide (Current final)) = some false := by decide
  cases hrun : Lts.run (step sessionId streamId) (initial none) missed with
  | none => simp [hrun] at hstale
  | some final => simp [hrun, hcurrent final hrun] at hstale

theorem current_nothingMissed :
    ∃ final, Lts.run (step sessionId streamId) (initial none) nothingMissed =
      some final ∧ Current final := by
  have hsome : (Lts.run (step sessionId streamId) (initial none)
      nothingMissed).isSome = true := by decide
  obtain ⟨final, hrun⟩ := isSome_iff_exists.mp hsome
  exact ⟨final, hrun, run_current sessionId streamId none nothingMissed final (by decide) hrun⟩

end ResumptionWitness

end McpSdk.Resumption
