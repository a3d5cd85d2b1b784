/-
The way of a message from the dispatcher to the server in `ClientSseTransport`
and the standalone `ClientStreamableTransport`: a buffered writer over a
channel, and a task that posts every chunk.
-/
import McpSdk.Lts
import McpSdk.SseEvent

namespace McpSdk.PostWriter

open List

structure JsonText where
  text : Str
  opens : text.head? = some '\x7b' ∨ text.head? = some '['
  closes : text.getLast? = some '\x7d' ∨ text.getLast? = some ']'

/-- The default capacity of tokio's `BufWriter`. -/
def bufferSize : Nat := 8192

def channelCapacity : Nat := 64

def newline : Bytes := Utf8.encode ['\n']

namespace BufWriter

/-- What is buffered goes to the inner writer in one write. -/
def flushBuf (buffer : Bytes) : List Bytes :=
  if buffer.isEmpty then [] else [buffer]

/-- `write_all`: the writes to the inner writer, and the buffer after it. -/
def writeAll (buffer data : Bytes) : List Bytes × Bytes :=
  if data.isEmpty then ([], buffer)
  else
    let (flushed, buffer) :=
      if buffer.length + data.length > bufferSize then (flushBuf buffer, [])
      else ([], buffer)
    if data.length ≥ bufferSize then (flushed ++ [data], buffer)
    else (flushed, buffer ++ data)

end BufWriter

/-- Where `write_str` is, with the lock of the writer. -/
inductive Phase where
  | idle
  | payloadWritten
  | newlineWritten
deriving Repr, DecidableEq

/-- `sent`: the messages of `write_str`; `posted`: the bodies that were posted. -/
structure State where
  phase : Phase
  buffer : Bytes
  channel : List Bytes
  sent : List JsonText
  posted : List Str

/-- Nothing has been written. -/
def State.initial : State :=
  ⟨.idle, [], [], [], []⟩

/-- The dispatcher writes or flushes, or the task posts. -/
inductive Action where
  | writePayload (message : JsonText)
  | writeNewline
  | flush
  | post

/-- `poll_write` of the channel, while it is not full. -/
def State.push (self : State) (chunks : List Bytes) : Option State :=
  if self.channel.length + chunks.length ≤ channelCapacity then
    some { self with channel := self.channel ++ chunks }
  else none

def body (chunk : Bytes) : Str :=
  RustStr.trim (Utf8.decodeLossy chunk)

/-- One write, flush or POST. -/
def step (state : State) : Action → Option State
  | .writePayload message =>
    match state.phase with
    | .idle =>
      let (chunks, buffer) := BufWriter.writeAll state.buffer (Utf8.encode message.text)
      { state with
        phase := .payloadWritten
        buffer
        sent := state.sent ++ [message] }.push chunks
    | _ => none
  | .writeNewline =>
    match state.phase with
    | .payloadWritten =>
      let (chunks, buffer) := BufWriter.writeAll state.buffer (newline)
      { state with phase := .newlineWritten, buffer }.push chunks
    | _ => none
  | .flush =>
    match state.phase with
    | .newlineWritten =>
      { state with phase := .idle, buffer := [] }.push
        (BufWriter.flushBuf state.buffer)
    | _ => none
  | .post =>
    match state.channel with
    | chunk :: channel =>
      some { state with channel, posted := state.posted ++ [body chunk] }
    | [] => none

/-- The bodies of a message: one that fills the buffer has its line end alone. -/
def bodies (message : JsonText) : List Str :=
  if (Utf8.encode message.text).length < bufferSize then [message.text]
  else [message.text, []]

variable (message : JsonText)

theorem JsonText.trim_text : RustStr.trim message.text = message.text := by
  apply RustStr.trim_eq_self
  · intro c hc
    rcases message.opens with hopens | hopens
    · cases hopens.symm.trans hc
      decide
    · cases hopens.symm.trans hc
      decide
  · intro c hc
    rcases message.closes with hcloses | hcloses
    · cases hcloses.symm.trans hc
      decide
    · cases hcloses.symm.trans hc
      decide

theorem JsonText.text_ne_nil : message.text ≠ [] := by
  intro hnil
  rcases message.opens with hopens | hopens
  · rw [hnil] at hopens
    cases hopens
  · rw [hnil] at hopens
    cases hopens

theorem body_encode : body (Utf8.encode message.text) = message.text := by
  rw [body, Utf8.decodeLossy_encode, message.trim_text]

theorem body_encode_newline : body (Utf8.encode message.text ++ newline) = message.text := by
  rw [body, newline, ← Utf8.encode_append, Utf8.decodeLossy_encode,
    RustStr.trim_concat _ (by decide), message.trim_text]

theorem body_newline : body (newline) = [] := by
  rw [body, newline, Utf8.decodeLossy_encode]
  decide

/-- What the post task has issued, and will issue for the chunks in the channel. -/
def State.handedOver (self : State) : List Str :=
  self.posted ++ self.channel.map body

/-- What is handed over are the bodies of the messages, but for the writer's. -/
def Accounted (state : State) : Prop :=
  match state.phase with
  | .idle =>
    state.buffer = [] ∧ state.handedOver = state.sent.flatMap bodies
  | .payloadWritten =>
    ∃ messages message, state.sent = messages ++ [message] ∧
      if (Utf8.encode message.text).length < bufferSize then
        state.buffer = Utf8.encode message.text ∧ state.handedOver = messages.flatMap bodies
      else
        state.buffer = [] ∧ state.handedOver = messages.flatMap bodies ++ [message.text]
  | .newlineWritten =>
    ∃ messages message, state.sent = messages ++ [message] ∧
      if (Utf8.encode message.text).length < bufferSize then
        state.buffer = Utf8.encode message.text ++ newline ∧
          state.handedOver = messages.flatMap bodies
      else
        state.buffer = newline ∧ state.handedOver = messages.flatMap bodies ++ [message.text]

variable {state next : State}

theorem State.push_eq_some {chunks : List Bytes} (hnext : state.push chunks = some next) :
    next = { state with channel := state.channel ++ chunks } := by
  unfold State.push at hnext
  rw [Option.ite_none_right_eq_some] at hnext
  exact (Option.some.inj hnext.2).symm

theorem encode_text_ne_nil : Utf8.encode message.text ≠ [] := by
  intro hnil
  have htext := Utf8.decodeLossy_encode message.text
  rw [hnil] at htext
  exact message.text_ne_nil htext.symm

namespace BufWriter

theorem writeAll_of_lt {buffer data : Bytes} (hne : data ≠ [])
    (hlength : data.length < bufferSize) (hfits : buffer.length + data.length ≤ bufferSize) :
    writeAll buffer data = ([], buffer ++ data) := by
  simp [writeAll, hne, Nat.not_lt.mpr hfits, Nat.not_le.mpr hlength]

theorem writeAll_of_ge {data : Bytes} (hlength : bufferSize ≤ data.length) :
    writeAll [] data = ([data], []) := by
  have hne : data ≠ [] := by
    rintro rfl
    exact absurd hlength (by decide)
  by_cases hover : data.length > bufferSize
  · simp [writeAll, hne, hover, hlength, flushBuf]
  · simp [writeAll, hne, hover, hlength]

theorem writeAll_newline {buffer : Bytes} (hlength : buffer.length < bufferSize) :
    writeAll buffer newline = ([], buffer ++ newline) :=
  writeAll_of_lt (by decide) (by decide) hlength

theorem flushBuf_of_ne_nil {buffer : Bytes} (hne : buffer ≠ []) : flushBuf buffer = [buffer] := by
  simp [flushBuf, hne]

end BufWriter

theorem Accounted.writePayload {message : JsonText} (hstate : Accounted state)
    (hstep : step state (.writePayload message) = some next) : Accounted next := by
  simp only [step] at hstep
  split at hstep
  · next hphase =>
    simp only [Accounted, hphase] at hstate
    obtain ⟨hbuffer, hover⟩ := hstate
    rw [hbuffer] at hstep
    by_cases hsmall : (Utf8.encode message.text).length < bufferSize
    · rw [BufWriter.writeAll_of_lt (encode_text_ne_nil message) hsmall
        (by simpa using Nat.le_of_lt hsmall)] at hstep
      cases State.push_eq_some hstep
      refine ⟨state.sent, message, rfl, ?_⟩
      rw [if_pos hsmall]
      exact ⟨rfl, by simpa [State.handedOver] using hover⟩
    · rw [BufWriter.writeAll_of_ge (Nat.not_lt.mp hsmall)] at hstep
      cases State.push_eq_some hstep
      refine ⟨state.sent, message, rfl, ?_⟩
      rw [if_neg hsmall]
      refine ⟨rfl, ?_⟩
      rw [← hover]
      simp [State.handedOver, body_encode]
  · cases hstep

theorem Accounted.writeNewline (hstate : Accounted state)
    (hstep : step state .writeNewline = some next) : Accounted next := by
  simp only [step] at hstep
  split at hstep
  · next hphase =>
    simp only [Accounted, hphase] at hstate
    obtain ⟨messages, message, hsent, hstate⟩ := hstate
    by_cases hsmall : (Utf8.encode message.text).length < bufferSize
    · rw [if_pos hsmall] at hstate
      obtain ⟨hbuffer, hover⟩ := hstate
      rw [hbuffer, BufWriter.writeAll_newline hsmall] at hstep
      cases State.push_eq_some hstep
      refine ⟨messages, message, hsent, ?_⟩
      rw [if_pos hsmall]
      exact ⟨rfl, by simpa [State.handedOver] using hover⟩
    · rw [if_neg hsmall] at hstate
      obtain ⟨hbuffer, hover⟩ := hstate
      rw [hbuffer, BufWriter.writeAll_newline (by decide)] at hstep
      cases State.push_eq_some hstep
      refine ⟨messages, message, hsent, ?_⟩
      rw [if_neg hsmall]
      exact ⟨rfl, by simpa [State.handedOver] using hover⟩
  · cases hstep

theorem Accounted.flush (hstate : Accounted state)
    (hstep : step state .flush = some next) : Accounted next := by
  simp only [step] at hstep
  split at hstep
  · next hphase =>
    simp only [Accounted, hphase] at hstate
    obtain ⟨messages, message, hsent, hstate⟩ := hstate
    by_cases hsmall : (Utf8.encode message.text).length < bufferSize
    · rw [if_pos hsmall] at hstate
      obtain ⟨hbuffer, hover⟩ := hstate
      rw [hbuffer, BufWriter.flushBuf_of_ne_nil (by
        simp [encode_text_ne_nil])] at hstep
      cases State.push_eq_some hstep
      refine ⟨rfl, ?_⟩
      have hhanded := congrArg (· ++ [message.text]) hover
      simpa [State.handedOver, body_encode_newline, hsent, bodies, hsmall] using hhanded
    · rw [if_neg hsmall] at hstate
      obtain ⟨hbuffer, hover⟩ := hstate
      rw [hbuffer, BufWriter.flushBuf_of_ne_nil (by decide)] at hstep
      cases State.push_eq_some hstep
      refine ⟨rfl, ?_⟩
      have hhanded := congrArg (· ++ [[]]) hover
      simpa [State.handedOver, body_newline, hsent, bodies, hsmall] using hhanded
  · cases hstep

theorem Accounted.post (hstate : Accounted state)
    (hstep : step state .post = some next) : Accounted next := by
  simp only [step] at hstep
  split at hstep
  · next chunk channel hchannel =>
    cases hstep
    have hsame : ({ state with
        channel, posted := state.posted ++ [body chunk] } :
          State).handedOver = state.handedOver := by
      simp [State.handedOver, hchannel]
    unfold Accounted at hstate ⊢
    rw [hsame]
    exact hstate
  · cases hstep

/-- A step keeps the account of the bytes. -/
theorem Accounted.step {action : Action} (hstate : Accounted state)
    (hstep : step state action = some next) : Accounted next := by
  cases action with
  | writePayload message => exact hstate.writePayload hstep
  | writeNewline => exact hstate.writeNewline hstep
  | flush => exact hstate.flush hstep
  | post => exact hstate.post hstep

/-- The task can post all that is in the channel. -/
theorem run_post (state : State) :
    Lts.run PostWriter.step state
        (List.replicate state.channel.length .post) =
      some { state with channel := [], posted := state.handedOver } := by
  obtain ⟨phase, buffer, channel, sent, posted⟩ := state
  induction channel generalizing posted with
  | nil => simp [Lts.run, State.handedOver]
  | cons chunk channel ih =>
    rw [length_cons, replicate_succ, Lts.run]
    refine (ih (posted ++ [body chunk])).trans ?_
    simp [State.handedOver]

theorem length_le_flatMap_bodies (messages : List JsonText) :
    messages.length ≤ (messages.flatMap bodies).length := by
  induction messages with
  | nil => exact Nat.le_refl _
  | cons message messages ih =>
    have hone : 1 ≤ (bodies message).length := by
      unfold bodies
      split
      · exact Nat.le_refl _
      · exact Nat.le_succ _
    rw [flatMap_cons, length_append, length_cons]
    omega

theorem flatMap_bodies_eq_iff (messages : List JsonText) :
    messages.flatMap bodies = messages.map (·.text) ↔ ∀ message ∈ messages,
        (Utf8.encode message.text).length < bufferSize := by
  induction messages with
  | nil => simp
  | cons message messages ih =>
    by_cases hsmall : (Utf8.encode message.text).length < bufferSize
    · simp [bodies, hsmall, ih]
    · refine iff_of_false ?_ ?_
      · intro heq
        have hlength := congrArg List.length heq
        have hrest := length_le_flatMap_bodies messages
        simp only [flatMap_cons, bodies, if_neg hsmall, length_append, length_cons, length_nil,
          map_cons, length_map] at hlength
        omega
      · intro hall
        exact hsmall (hall message mem_cons_self)

theorem Accounted.initial : Accounted State.initial :=
  ⟨rfl, rfl⟩

/-- When the writer is done and the channel empty, each message was posted once
and nothing else exactly when every message was shorter than the buffer. -/
theorem run_posted_iff {actions : List Action} {final : State}
    (hrun : Lts.run step State.initial actions = some final) (hidle : final.phase = .idle) :
    ∃ drained : State,
      Lts.run step final (List.replicate final.channel.length .post) = some drained ∧
        drained.channel = [] ∧ drained.sent = final.sent ∧
        (drained.posted = final.sent.map (·.text) ↔ ∀ message ∈ final.sent,
            (Utf8.encode message.text).length < bufferSize) := by
  have hfinal : Accounted final := Lts.run_keeps Accounted.step Accounted.initial hrun
  simp only [Accounted, hidle] at hfinal
  refine ⟨_, run_post final, rfl, rfl, ?_⟩
  rw [← flatMap_bodies_eq_iff, ← hfinal.2]

namespace PostWriterWitness

def alone (message : JsonText) : List Action :=
  [.writePayload message, .writeNewline, .flush, .post, .post]

theorem run_alone {message : JsonText} (hlarge : bufferSize ≤ (Utf8.encode message.text).length) :
    Lts.run step State.initial (alone message) =
      some ⟨.idle, [], [], [message], [message.text, []]⟩ := by
  have hpayload : step State.initial (.writePayload message) =
      some ⟨.payloadWritten, [], [Utf8.encode message.text], [message],
        []⟩ := by
    simp only [step, State.initial, BufWriter.writeAll_of_ge hlarge]
    rfl
  have hpost : step ⟨.idle, [], [Utf8.encode message.text, newline],
      [message], []⟩ .post =
        some ⟨.idle, [], [newline], [message], [message.text]⟩ := by
    simp only [step, body_encode]
    rfl
  refine Lts.run_cons_eq_some.mpr ⟨_, hpayload, ?_⟩
  refine Lts.run_cons_eq_some.mpr ⟨_, rfl, ?_⟩
  refine Lts.run_cons_eq_some.mpr ⟨_, rfl, ?_⟩
  refine Lts.run_cons_eq_some.mpr ⟨_, hpost, ?_⟩
  refine Lts.run_cons_eq_some.mpr ⟨_, rfl, ?_⟩
  rw [body_newline]
  rfl

def large : JsonText where
  text := "\x7b\"jsonrpc\":\"2.0\",\"method\":\"m\",\"params\":\x7b\"data\":\"" ++
    List.replicate bufferSize 'x' ++ "\"\x7d\x7d"
  opens := .inl rfl
  closes := .inl (by rw [getLast?_append_of_ne_nil _ (by decide)]; rfl)

theorem large_posted_twice :
    ∃ final : State, Lts.run step State.initial (alone large) = some final ∧
        final.phase = .idle ∧ final.channel = [] ∧ final.posted ≠ final.sent.map (·.text) := by
  have hlarge : bufferSize ≤ (Utf8.encode large.text).length := by
    have hpart : (List.replicate bufferSize 'x').Sublist large.text :=
      (sublist_append_right _ _).trans (sublist_append_left _ _)
    calc bufferSize
        = (List.replicate bufferSize 'x').length := length_replicate.symm
      _ ≤ large.text.length := hpart.length_le
      _ ≤ (Utf8.encode large.text).length := Utf8.length_le_length_encode large.text
  exact ⟨_, run_alone hlarge, rfl, rfl, by simp⟩

def small : JsonText :=
  ⟨"[]", .inr rfl, .inr rfl⟩

theorem small_posted_once :
    ∃ final drained : State,
      Lts.run step State.initial [.writePayload small, .writeNewline, .flush] =
          some final ∧ final.phase = .idle ∧
        Lts.run step final (List.replicate final.channel.length .post) = some drained ∧
        (drained.posted = final.sent.map (·.text) ↔ ∀ message ∈ final.sent,
            (Utf8.encode message.text).length < bufferSize) := by
  have hrun : Lts.run step State.initial
      [.writePayload small, .writeNewline, .flush] = some _ := rfl
  obtain ⟨drained, hdrained, -, -, hposted⟩ := run_posted_iff hrun rfl
  exact ⟨_, drained, hrun, rfl, hdrained, hposted⟩

end PostWriterWitness

end McpSdk.PostWriter
