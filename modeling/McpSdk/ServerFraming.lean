/-
How a server message travels to the client: as a line with the id of the stored
event in front, as a server-sent event, and through the client's parser.
-/
import McpSdk.EventStore
import McpSdk.SseParser

namespace McpSdk

open List Option
open RustStr (trim splitOnce splitOnce_of_mem)

universe u

variable {σ : Type u}

/-- The trait of event stores, over the state that a store keeps. -/
structure EventStore (σ : Type u) where
  storeEvent : σ → Str → Str → Nat → Str → Except Str Str × σ
  eventsAfter : σ → Str → Except Str (Option (EventStoreEntry Str))

/-- The in-memory store as an implementation of the trait. -/
def InMemoryEventStore.eventStore : EventStore (InMemoryEventStore Str) :=
  ⟨InMemoryEventStore.storeEvent, InMemoryEventStore.eventsAfter⟩

/-- `ID_SEPARATOR` of the dispatcher: it separates the id from the message. -/
def idSeparator : Char := '|'

/-- The part of a dispatcher that decides whether messages are stored. -/
structure MessageDispatcher (σ : Type u) where
  sessionId : Option Str
  streamId : Option Str
  eventStore : Option (EventStore σ)

namespace MessageDispatcher

def new : MessageDispatcher σ :=
  ⟨none, none, none⟩

def makeResumable (_ : MessageDispatcher σ) (sessionId streamId : Str)
    (eventStore : EventStore σ) : MessageDispatcher σ :=
  ⟨some sessionId, some streamId, some eventStore⟩

/-- Store a message before it is written.  A failing store gives no id. -/
def storeMessage (self : MessageDispatcher σ) (store : σ) (now : Nat)
    (payload : Str) (skipStore : Bool) : Option Str × σ :=
  if skipStore = false ∧ trim payload ≠ [] then
    match self.sessionId, self.streamId, self.eventStore with
    | some sessionId, some streamId, some eventStore =>
      let result := eventStore.storeEvent store sessionId streamId now payload
      (result.1.toOption, result.2)
    | _, _, _ => (none, store)
  else (none, store)

def lineBytes (eventId : Option Str) (payload : Str) : Bytes :=
  (eventId.elim [] fun id => Utf8.encode id ++ Utf8.encode [idSeparator]) ++
    Utf8.encode payload ++ Utf8.encode ['\n']

/-- Store a message if the stream is resumable, and write it. -/
def writeStr (self : MessageDispatcher σ) (store : σ) (now : Nat)
    (payload : Str) (skipStore : Bool) : Bytes × σ :=
  let result := self.storeMessage store now payload skipStore
  (lineBytes result.1 payload, result.2)

end MessageDispatcher

def isEmptySseMessage (ssePayload : Str) : Bool :=
  ssePayload.isEmpty || trim ssePayload = [':']

/-- The event for one line that was read from the dispatcher. -/
def sseFrame (resumabilityEnabled : Bool) (line : Str) : Bytes :=
  let trimmedLine := RustStr.trimEndMatches '\n' line
  if isEmptySseMessage trimmedLine then SseEvent.empty.asBytes
  else match resumabilityEnabled, splitOnce idSeparator trimmedLine with
  | true, some (id, msg) =>
    ((SseEvent.empty.withData msg).withId id).asBytes
  | _, _ => (SseEvent.empty.withData trimmedLine).asBytes

/-- The body for what was written: a frame for every line that is UTF-8. -/
def messageStream (resumabilityEnabled : Bool) (written : Bytes) : List (Option Bytes) :=
  let cut := LineSplit.lines newline written
  (cut.1 ++ if cut.2.isEmpty then [] else [cut.2]).map fun line =>
    (Utf8.decode? line).map (sseFrame resumabilityEnabled)

/-- A connection as `create_sse_stream` sets it up. -/
structure SseStream (σ : Type u) where
  sessionId : Str
  streamId : Str
  eventStore : Option (EventStore σ)

namespace SseStream

def resumabilityEnabled (self : SseStream σ) : Bool :=
  self.eventStore.isSome

def dispatcher (self : SseStream σ) : MessageDispatcher σ :=
  match self.eventStore with
  | some eventStore =>
    MessageDispatcher.new.makeResumable self.sessionId self.streamId eventStore
  | none => MessageDispatcher.new

/-- The bytes that reach the client when one message is written. -/
def body (self : SseStream σ) (store : σ) (now : Nat) (payload : Str) (skipStore : Bool) : Bytes :=
  ((messageStream self.resumabilityEnabled
    (self.dispatcher.writeStr store now payload skipStore).1).map
      (·.getD [])).flatten

/-- The id under which the event store files a message, if any. -/
def writtenId (self : SseStream σ) (store : σ) (now : Nat) (payload : Str)
    (skipStore : Bool) : Option Str :=
  if skipStore then none
  else self.eventStore.bind fun eventStore =>
    (eventStore.storeEvent store self.sessionId self.streamId now payload).1.toOption

end SseStream

/-- A text that is written as one message: no line feed, and more than white space or a colon. -/
structure IsPayload (payload : Str) : Prop where
  line : '\n' ∉ payload
  ne_blank : trim payload ≠ []
  ne_colon : trim payload ≠ [':']

/-- The client reads one event: the payload up to a line feed, and its id, if any. -/
def ReadsBack (eventId : Option Str) (payload : Str) (events : List SseEvent) : Prop :=
  ∃ event, events = [event] ∧ event.id = eventId ∧
    (event.data = some (Utf8.encode payload) ∨ event.data = some (Utf8.encode (payload ++ ['\n'])))

/-- An id that survives the way to the client. -/
structure CleanId (id : Str) : Prop where
  line : '\n' ∉ id
  no_separator : idSeparator ∉ id
  trimmed : trim id = id

namespace SseEvent

def messageLines (id : Option Str) (msg : Str) : List Str :=
  (id.elim [] fun id => ["id: " ++ (id ++ ['\n'])]) ++
    if msg = [] then [] else ["data: " ++ (msg ++ ['\n'])]

/-- The event with a line of data and perhaps an id. -/
def ofLine (id : Option Str) (msg : Str) : SseEvent :=
  ⟨none, some (Utf8.encode msg), id, none⟩

variable {msg : Str}

theorem dataLines_encode (hmsg : '\n' ∉ msg) :
    dataLines (Utf8.encode msg) =
      (if msg = [] then [] else ["data: " ++ (msg ++ ['\n'])]).flatten := by
  rw [dataLines, Utf8.decode?_encode]
  by_cases hne : msg = []
  · rw [if_pos hne, hne]
    rfl
  · rw [if_neg hne]
    simp only [RustStr.lines_of_not_mem hmsg hne, flatMap_cons,
      flatMap_nil, flatten_cons, flatten_nil, append_nil, fieldLine, append_assoc]
    rfl

theorem display_ofLine (id : Option Str) (hmsg : '\n' ∉ msg) :
    (ofLine id msg).display = (messageLines id msg).flatten ++ ['\n'] := by
  have hdata := dataLines_encode hmsg
  cases id with
  | none =>
    simp only [display, ofLine, messageLines, elim_none, elim_some, nil_append, hdata]
  | some id =>
    simp only [display, ofLine, messageLines, elim_none, elim_some, nil_append, append_nil, hdata,
      flatten_append, flatten_cons, flatten_nil, fieldLine, append_assoc]
    rfl

variable {id : Option Str}

theorem messageLines_isLine (hid : ∀ text, id = some text → '\n' ∉ text) (hmsg : '\n' ∉ msg) :
    ∀ line ∈ messageLines id msg, LineSplit.IsLine '\n' line ∧ line ≠ ['\n'] := by
  intro line hline
  rcases mem_append.mp hline with hline | hline
  · cases id with
    | none => cases hline
    | some id =>
      rw [elim_some, mem_singleton] at hline
      subst hline
      refine ⟨⟨"id: " ++ id, ?_, by simp⟩, by simp⟩
      simpa using hid id rfl
  · split at hline
    · cases hline
    · rw [mem_singleton] at hline
      subst hline
      refine ⟨⟨"data: " ++ msg, ?_, by simp⟩, by simp⟩
      simpa using hmsg

theorem foldl_addLine_messageLines (id : Option Str) (msg : Str) :
    (messageLines id msg).foldl MessageFields.addLine MessageFields.empty =
      ⟨none, id.map trim, none,
        if msg = [] then [] else [msg ++ ['\n']], decide (msg ≠ [])⟩ := by
  have htrim : ∀ text : Str, trim (text ++ ['\n']) = trim text :=
    fun text => RustStr.trim_concat text (by decide)
  have hid : (id.elim [] fun id => ["id: " ++ (id ++ ['\n'])]).foldl
      MessageFields.addLine MessageFields.empty =
        ⟨none, id.map trim, none, [], false⟩ := by
    cases id with
    | none => rfl
    | some id =>
      rw [elim_some, foldl_cons, MessageFields.addLine_id, htrim]
      rfl
  rw [messageLines, foldl_append, hid]
  by_cases hmsg : msg = []
  · simp [hmsg]
  · rw [if_neg hmsg, if_neg hmsg, foldl_cons, MessageFields.addLine_data]
    simp [MessageFields.addData, hmsg]

theorem parseSseMessage_messageLines (hsome : id ≠ none ∨ msg ≠ []) :
    SseParser.parseSseMessage ((messageLines id msg).map Utf8.encode) =
      some ⟨none, if msg = [] then none else some (Utf8.encode (msg ++ ['\n'])),
        id.map trim, none⟩ := by
  rw [SseParser.parseSseMessage_encode, foldl_addLine_messageLines]
  by_cases hmsg : msg = []
  · have hid : id ≠ none := by
      rcases hsome with hid | hne
      · exact hid
      · exact absurd hmsg hne
    simp [MessageFields.data, MessageFields.retryInterval, hmsg, hid]
  · simp [MessageFields.data, MessageFields.retryInterval, hmsg]

/-- Between two messages the parser reads one displayed event back. -/
theorem processNewChunk_ofLine {parser : SseParser}
    (hparser : parser.AtBoundary) (hid : ∀ text, id = some text → '\n' ∉ text)
    (hmsg : '\n' ∉ msg) (hsome : id ≠ none ∨ msg ≠ []) :
    parser.processNewChunk (ofLine id msg).asBytes =
      ([⟨none, if msg = [] then none else some (Utf8.encode (msg ++ ['\n'])),
        id.map trim, none⟩], ⟨[newline]⟩) := by
  have hlines := messageLines_isLine hid hmsg
  have hbytes : (ofLine id msg).asBytes =
      ((messageLines id msg).map Utf8.encode).flatten ++ [newline] := by
    rw [asBytes, display_ofLine id hmsg, Utf8.encode_append, Utf8.encode_flatten]
    rfl
  rw [hbytes, hparser.processNewChunk, parseSseMessage_messageLines hsome]
  · rfl
  · intro line hline
    obtain ⟨text, htext, rfl⟩ := mem_map.mp hline
    exact isLine_encode (hlines text htext).1
  · intro line hline
    obtain ⟨text, htext, rfl⟩ := mem_map.mp hline
    intro heq
    apply (hlines text htext).2
    have hdecode := congrArg Utf8.decodeLossy heq
    rw [Utf8.decodeLossy_encode] at hdecode
    rw [hdecode]
    decide

end SseEvent

variable {content : Str}

/-- A line that is no keep-alive becomes one event; a separator counts on a
resumable stream only. -/
theorem sseFrame_line (hline : '\n' ∉ content)
    (hfull : isEmptySseMessage content = false) (resumabilityEnabled : Bool) :
    sseFrame resumabilityEnabled (content ++ ['\n']) =
      (match resumabilityEnabled, splitOnce idSeparator content with
      | true, some (id, msg) => SseEvent.ofLine (some id) msg
      | _, _ => SseEvent.ofLine none content).asBytes := by
  unfold sseFrame
  simp only [RustStr.trimEndMatches_concat_self hline, hfull, Bool.false_eq_true, ↓reduceIte]
  cases resumabilityEnabled with
  | false => rfl
  | true =>
    cases splitOnce idSeparator content with
    | none | some => rfl

theorem messageStream_line (hline : '\n' ∉ content) (resumabilityEnabled : Bool) :
    messageStream resumabilityEnabled (Utf8.encode (content ++ ['\n'])) =
      [some (sseFrame resumabilityEnabled (content ++ ['\n']))] := by
  have hcut := LineSplit.lines_line_append (isLine_encode ⟨content, hline, rfl⟩) []
  rw [append_nil, LineSplit.lines_nil] at hcut
  simp [messageStream, hcut, -Utf8.encode_append]

theorem sseFrame_eq_encode (resumabilityEnabled : Bool) (line : Str) :
    ∃ text, sseFrame resumabilityEnabled line = Utf8.encode text := by
  unfold sseFrame
  simp only
  split
  · exact ⟨_, rfl⟩
  · split
    · exact ⟨_, rfl⟩
    · exact ⟨_, rfl⟩

theorem messageStream_eq_encode (resumabilityEnabled : Bool) (written : Bytes) :
    ∃ text, ((messageStream resumabilityEnabled written).map
      (·.getD [])).flatten = Utf8.encode text := by
  have hframes : ∀ lines : List Bytes, ∃ text,
      ((lines.map fun line => (Utf8.decode? line).map
        (sseFrame resumabilityEnabled)).map (·.getD [])).flatten =
          Utf8.encode text := by
    intro lines
    induction lines with
    | nil => exact ⟨[], rfl⟩
    | cons line lines ih =>
      obtain ⟨rest, hrest⟩ := ih
      cases hdecode : Utf8.decode? line with
      | none => exact ⟨rest, by simpa [hdecode] using hrest⟩
      | some text =>
        obtain ⟨frame, hframe⟩ := sseFrame_eq_encode resumabilityEnabled text
        refine ⟨frame ++ rest, ?_⟩
        rw [Utf8.encode_append, ← hframe, ← hrest]
        simp [hdecode]
  exact hframes _

/-- One line is read as one event; on a resumable stream what is before a
separator is taken for an id. -/
theorem processNewChunk_messageStream {parser : SseParser}
    (hparser : parser.AtBoundary) (hline : '\n' ∉ content)
    (hfull : isEmptySseMessage content = false) (resumabilityEnabled : Bool) :
    parser.processNewChunk ((messageStream resumabilityEnabled
        (Utf8.encode (content ++ ['\n']))).map (·.getD [])).flatten =
      match resumabilityEnabled, splitOnce idSeparator content with
      | true, some (id, msg) =>
        ([⟨none, if msg = [] then none else some (Utf8.encode (msg ++ ['\n'])),
          some (trim id), none⟩], ⟨[newline]⟩)
      | _, _ =>
        ([⟨none, some (Utf8.encode (content ++ ['\n'])), none, none⟩],
          ⟨[newline]⟩) := by
  rw [messageStream_line hline]
  simp only [map_cons, map_nil, getD_some, flatten_cons, flatten_nil, append_nil]
  rw [sseFrame_line hline hfull]
  have hne : content ≠ [] := by
    rintro rfl
    cases hfull
  have hplain : parser.processNewChunk (SseEvent.ofLine none content).asBytes =
      ([⟨none, some (Utf8.encode (content ++ ['\n'])), none, none⟩],
        ⟨[newline]⟩) := by
    have hnone : ∀ text, (none : Option Str) = some text → '\n' ∉ text := by
      simp
    have hread := SseEvent.processNewChunk_ofLine hparser hnone hline (.inr hne)
    simpa only [hne, ↓reduceIte, map_none] using hread
  cases resumabilityEnabled with
  | false => exact hplain
  | true =>
    by_cases hmem : idSeparator ∈ content
    · obtain ⟨left, right, hleft, rfl, hsplit⟩ := splitOnce_of_mem hmem
      rw [hsplit]
      apply SseEvent.processNewChunk_ofLine hparser
      · rintro text ⟨⟩
        exact fun h => hline (mem_append_left _ h)
      · exact fun h => hline (mem_append_right _ (mem_cons_of_mem _ h))
      · exact .inl (by simp)
    · rw [RustStr.splitOnce_of_not_mem hmem]
      exact hplain

/-- What stands on the dispatcher's line for one message. -/
def lineText (eventId : Option Str) (payload : Str) : Str :=
  (eventId.elim [] fun id => id ++ [idSeparator]) ++ payload

theorem MessageDispatcher.lineBytes_eq_encode (eventId : Option Str) (payload : Str) :
    lineBytes eventId payload = Utf8.encode (lineText eventId payload ++ ['\n']) := by
  cases eventId with
  | none | some => simp [lineBytes, lineText]

theorem IsPayload.lineText_full {payload : Str} (hpayload : IsPayload payload)
    (eventId : Option Str) : isEmptySseMessage (lineText eventId payload) = false := by
  cases eventId with
  | none =>
    have hne : payload ≠ [] := by
      rintro rfl
      exact hpayload.ne_blank rfl
    simp [isEmptySseMessage, lineText, hne, hpayload.ne_colon]
  | some id =>
    have hmem : idSeparator ∈ trim (lineText (some id) payload) :=
      RustStr.mem_trim (by simp [lineText]) (by decide)
    have hcolon : trim (lineText (some id) payload) ≠ [':'] := by
      intro heq
      rw [heq] at hmem
      exact absurd hmem (by decide)
    simp [isEmptySseMessage, hcolon]
    simp [lineText]

namespace SseStream

/-- The id in front of a message is the one under which it was stored. -/
theorem storeMessage_eq_writtenId (self : SseStream σ) (store : σ) (now : Nat)
    {payload : Str} (hpayload : IsPayload payload) (skipStore : Bool) :
    (self.dispatcher.storeMessage store now payload skipStore).1 =
      self.writtenId store now payload skipStore := by
  cases skipStore with
  | true => rfl
  | false =>
    rw [MessageDispatcher.storeMessage, if_pos ⟨rfl, hpayload.ne_blank⟩]
    unfold dispatcher writtenId
    cases self.eventStore with
    | none | some => rfl

theorem body_eq (self : SseStream σ) (store : σ) (now : Nat) {payload : Str}
    (hpayload : IsPayload payload) (skipStore : Bool) :
    self.body store now payload skipStore =
      ((messageStream self.resumabilityEnabled (Utf8.encode (lineText
        (self.writtenId store now payload skipStore) payload ++ ['\n']))).map
          (·.getD [])).flatten := by
  rw [body, MessageDispatcher.writeStr]
  simp only
  rw [self.storeMessage_eq_writtenId store now hpayload, MessageDispatcher.lineBytes_eq_encode]

variable {skipStore : Bool}

theorem resumabilityEnabled_of_writtenId {self : SseStream σ} {store : σ} {now : Nat}
    {payload : Str} {id : Str} (hid : self.writtenId store now payload skipStore = some id) :
    self.resumabilityEnabled = true := by
  unfold writtenId at hid
  unfold resumabilityEnabled
  cases hstore : self.eventStore with
  | none => simp [hstore] at hid
  | some eventStore => rfl

variable {parser : SseParser}

/-- What the client reads in a line: the separator decides about the id. -/
theorem processNewChunk_body (hparser : parser.AtBoundary) (self : SseStream σ) (store : σ)
    (now : Nat) {payload : Str} (hpayload : IsPayload payload) (skipStore : Bool)
    (hline : '\n' ∉ lineText (self.writtenId store now payload skipStore) payload) :
    parser.processNewChunk (self.body store now payload skipStore) =
      match self.resumabilityEnabled, splitOnce idSeparator
        (lineText (self.writtenId store now payload skipStore) payload) with
      | true, some (id, msg) =>
        ([⟨none, if msg = [] then none else some (Utf8.encode (msg ++ ['\n'])),
          some (trim id), none⟩], ⟨[newline]⟩)
      | _, _ =>
        ([⟨none, some (Utf8.encode (lineText
            (self.writtenId store now payload skipStore) payload ++ ['\n'])),
          none, none⟩], ⟨[newline]⟩) := by
  rw [self.body_eq store now hpayload]
  exact processNewChunk_messageStream hparser hline
    (hpayload.lineText_full _) self.resumabilityEnabled

/-- Without an id, only a separator in the message itself can go wrong. -/
theorem readsBack_iff_of_none (hparser : parser.AtBoundary) (self : SseStream σ)
    (store : σ) (now : Nat) {payload : Str} (hpayload : IsPayload payload)
    (hid : self.writtenId store now payload skipStore = none) :
    ReadsBack none payload (parser.processNewChunk (self.body store now payload skipStore)).1 ↔
      (self.resumabilityEnabled = true → idSeparator ∉ payload) := by
  have hread := processNewChunk_body hparser self store now hpayload skipStore
    (by simpa [hid, lineText] using hpayload.line)
  rw [hread, hid]
  change ReadsBack none payload (match self.resumabilityEnabled,
    splitOnce idSeparator payload with
    | true, some (id, msg) => _
    | _, _ => _ : List SseEvent × SseParser).1 ↔ _
  cases hresumable : self.resumabilityEnabled with
  | false => exact ⟨by simp, fun _ => ⟨_, rfl, rfl, .inr rfl⟩⟩
  | true =>
    by_cases hmem : idSeparator ∈ payload
    · obtain ⟨left, right, -, -, hsplit⟩ := splitOnce_of_mem hmem
      rw [hsplit]
      constructor
      · rintro ⟨event, hevents, hnone, -⟩
        rw [← (List.cons.inj hevents).1] at hnone
        cases hnone
      · intro hclean
        exact absurd hmem (hclean rfl)
    · rw [RustStr.splitOnce_of_not_mem hmem]
      exact ⟨fun _ _ => hmem, fun _ => ⟨_, rfl, rfl, .inr rfl⟩⟩

/-- With an id, everything depends on the id. -/
theorem readsBack_iff_of_some (hparser : parser.AtBoundary) (self : SseStream σ)
    (store : σ) (now : Nat) {payload : Str} (hpayload : IsPayload payload)
    {id : Str} (hid : self.writtenId store now payload skipStore = some id) :
    ReadsBack (some id) payload (parser.processNewChunk (self.body store now payload skipStore)).1 ↔
      CleanId id := by
  by_cases hline : '\n' ∈ id
  · constructor
    · rintro ⟨event, hevents, hevent, -⟩
      obtain ⟨text, htext⟩ := messageStream_eq_encode self.resumabilityEnabled
        (self.dispatcher.writeStr store now payload skipStore).1
      have hbuffer : ∃ buffered, parser.buffer = Utf8.encode buffered := by
        rcases hparser with hbuffer | hbuffer
        · exact ⟨[], hbuffer⟩
        · exact ⟨['\n'], hbuffer⟩
      obtain ⟨buffered, hbuffer⟩ := hbuffer
      have hmem : event ∈ (parser.processNewChunk (Utf8.encode text)).1 := by
        rw [← htext]
        change event ∈ (parser.processNewChunk (self.body store now payload skipStore)).1
        rw [hevents]
        exact mem_singleton_self event
      exact absurd hline (SseParser.processNewChunk_id_newline hbuffer hmem id hevent)
    · intro hclean
      exact absurd hline hclean.line
  · have hread := processNewChunk_body hparser self store now hpayload skipStore
      (by
        rw [hid]
        have hpipe : '\n' ≠ idSeparator := by decide
        simp [lineText, hline, hpayload.line, hpipe])
    rw [hread, hid, resumabilityEnabled_of_writtenId hid]
    have htext : lineText (some id) payload = id ++ idSeparator :: payload := by
      simp [lineText]
    by_cases hmem : idSeparator ∈ id
    · have hpipe : idSeparator ∈ lineText (some id) payload := by
        simp [lineText]
      obtain ⟨left, right, hleft, -, hsplit⟩ := splitOnce_of_mem hpipe
      rw [hsplit]
      constructor
      · rintro ⟨event, hevents, hevent, -⟩
        rw [← (List.cons.inj hevents).1, some.injEq] at hevent
        rw [← hevent] at hmem
        exact absurd (RustStr.trim_subset hmem) hleft
      · intro hclean
        exact absurd hmem hclean.no_separator
    · have hne : payload ≠ [] := by
        rintro rfl
        exact hpayload.ne_blank rfl
      rw [htext, RustStr.splitOnce_append hmem]
      simp only [hne, ↓reduceIte]
      constructor
      · rintro ⟨event, hevents, hevent, -⟩
        rw [← (List.cons.inj hevents).1, some.injEq] at hevent
        exact ⟨hline, hmem, hevent⟩
      · intro hclean
        exact ⟨_, rfl, congrArg some hclean.trimmed, .inr rfl⟩

/-- A message is read back exactly when its id, if any, is clean, and without
one on a resumable stream it holds no separator. -/
theorem readsBack_iff (self : SseStream σ) (store : σ) (now : Nat)
    (payload : Str) (skipStore : Bool) (parser : SseParser)
    (hpayload : IsPayload payload) (hparser : parser.AtBoundary) :
    ReadsBack (self.writtenId store now payload skipStore) payload
        (parser.processNewChunk (self.body store now payload skipStore)).1 ↔
      match self.writtenId store now payload skipStore with
      | some id => CleanId id
      | none => self.resumabilityEnabled = true → idSeparator ∉ payload := by
  cases hid : self.writtenId store now payload skipStore with
  | none => exact readsBack_iff_of_none hparser self store now hpayload hid
  | some id => exact readsBack_iff_of_some hparser self store now hpayload hid

namespace FramingWitness

def stream : SseStream (InMemoryEventStore Str) :=
  ⟨"s1", "STANDALONE-STREAM", some InMemoryEventStore.eventStore⟩

def payload : Str :=
  "\x7b\"jsonrpc\":\"2.0\",\"method\":\"a|b\"\x7d"

theorem isPayload_payload : IsPayload payload :=
  ⟨by decide, by decide, by decide⟩

/-- A replayed message with a separator in it loses its beginning to an id. -/
theorem not_readsBack_replayed :
    ¬ ReadsBack (stream.writtenId (.new none) 7 payload true) payload (SseParser.new.processNewChunk
        (stream.body (.new none) 7 payload true)).1 := by
  intro hread
  have hclean := (readsBack_iff_of_none SseParser.new_atBoundary stream
    (.new none) 7 isPayload_payload rfl).mp hread rfl
  exact absurd hclean (by decide)

/-- Written live, the same message arrives as it is, with its id. -/
theorem readsBack_live :
    ReadsBack (some "s1-.-STANDALONE-STREAM-.-7") payload
      (SseParser.new.processNewChunk
        (stream.body (.new none) 7 payload false)).1 := by
  apply (readsBack_iff stream (.new none) 7 payload false .new
    isPayload_payload SseParser.new_atBoundary).mpr
  exact ⟨by decide, by decide, by decide⟩

end FramingWitness

end SseStream

end McpSdk
