/-
Reading bytes out of a channel of chunks, and the reader of `MCPStream` on top.
An empty chunk gives a read of zero bytes, which the reader takes for the end of
the file.
-/
import McpSdk.CappedLine
import McpSdk.Lts

namespace McpSdk

open List Option

/-- The receiving half of the channel, with the rest of the last chunk. -/
structure ReadableChannel where
  readRx : List Bytes
  closed : Bool
  buffer : Bytes
deriving Repr, DecidableEq

namespace ReadableChannel

/-- `poll_read` into `remaining` free bytes; `none` means pending. -/
def pollRead (remaining : Nat) (self : ReadableChannel) :
    Option (Except Str Bytes × ReadableChannel) :=
  if self.buffer.isEmpty then
    match self.readRx with
    | data :: readRx =>
      some (.ok (data.take remaining), { self with readRx, buffer := data.drop remaining })
    | [] =>
      if self.closed then some (.error "Channel closed", self)
      else none
  else
    some (.ok (self.buffer.take remaining), { self with buffer := self.buffer.drop remaining })

def pending (self : ReadableChannel) : Bytes :=
  self.buffer ++ self.readRx.flatten

inductive Read (remaining : Nat) (self : ReadableChannel) :
    Except Str Bytes → ReadableChannel → Prop where
  | data {data : Bytes} {readRx : List Bytes} (hbuffer : self.buffer = [])
      (hreadRx : self.readRx = data :: readRx) :
      Read remaining self (.ok (data.take remaining))
        { self with readRx, buffer := data.drop remaining }
  | rest (hbuffer : self.buffer ≠ []) :
      Read remaining self (.ok (self.buffer.take remaining))
        { self with buffer := self.buffer.drop remaining }
  | closed (hbuffer : self.buffer = []) (hreadRx : self.readRx = [])
      (hclosed : self.closed = true) :
      Read remaining self (.error "Channel closed") self

variable {self next : ReadableChannel}

variable {remaining : Nat}

theorem pollRead_cases {result : Except Str Bytes}
    (hread : pollRead remaining self = some (result, next)) : Read remaining self result next := by
  unfold pollRead at hread
  split at hread
  · next hbuffer =>
    rw [List.isEmpty_iff] at hbuffer
    split at hread
    · next hreadRx =>
      cases hread
      exact .data hbuffer hreadRx
    · next hreadRx =>
      rw [ite_none_right_eq_some] at hread
      obtain ⟨hclosed, hnext⟩ := hread
      cases hnext
      exact .closed hbuffer hreadRx hclosed
  · next hbuffer =>
    cases hread
    exact .rest (by simpa using hbuffer)

theorem Read.pending {bytes : Bytes} (hread : Read remaining self (.ok bytes) next) :
    bytes ++ ReadableChannel.pending next = ReadableChannel.pending self := by
  cases hread with
  | data hbuffer hreadRx =>
    simp [ReadableChannel.pending, hbuffer, hreadRx, ← append_assoc]
  | rest hbuffer => simp [ReadableChannel.pending, ← append_assoc]

theorem Read.ne_nil {bytes : Bytes} (hremaining : 0 < remaining) (hchunks : [] ∉ self.readRx)
    (hread : Read remaining self (.ok bytes) next) : bytes ≠ [] := by
  cases hread with
  | data hbuffer hreadRx =>
    rw [hreadRx, mem_cons, not_or] at hchunks
    simpa [Nat.ne_of_gt hremaining] using Ne.symm hchunks.1
  | rest hbuffer => simpa [Nat.ne_of_gt hremaining] using hbuffer

theorem Read.readRx {result : Except Str Bytes} (hread : Read remaining self result next)
    (hchunks : [] ∉ self.readRx) : [] ∉ next.readRx := by
  cases hread with
  | data hbuffer hreadRx =>
    rw [hreadRx, mem_cons, not_or] at hchunks
    exact hchunks.2
  | rest | closed => exact hchunks

/-- The channel, the reads, and the reader of `MCPStream` with what it has not
used up, until it ends. -/
structure State where
  channel : ReadableChannel
  reads : List Bytes
  reader : Option (List Bytes)
deriving Repr, DecidableEq

/-- The sender sends or is dropped, or the reader reads. -/
inductive Action where
  | send (chunk : Bytes)
  /-- The sender is dropped. -/
  | close
  | read (remaining : Nat)
  | readLine
deriving Repr, DecidableEq

/-- Nothing has been sent. -/
def initial : State :=
  { channel := { readRx := [], closed := false, buffer := [] }
    reads := []
    reader := some [] }

/-- The outcome of a read reaches the reader. -/
def fillBuf (self : State) (unread : List Bytes) :
    Except Str Bytes × ReadableChannel → State
  | (.ok bytes, channel) =>
    { channel, reads := self.reads ++ [bytes],
      reader := some (unread ++ [bytes]) }
  | (.error _, channel) => { self with channel, reader := none }

/-- A send waits for room, and the buffer of a read is never empty. -/
def step (capacity maxLineLength : Nat) (self : State) :
    Action → Option State
  | .send chunk =>
    if self.channel.closed = false ∧
        self.channel.readRx.length < capacity then
      some { self with
        channel := { self.channel with
          readRx := self.channel.readRx ++ [chunk] } }
    else none
  | .close => some { self with channel := { self.channel with closed := true } }
  | .read remaining =>
    match self.reader with
    | some unread =>
      if 0 < remaining then
        (pollRead remaining self.channel).map (fillBuf self unread)
      else none
    | none => none
  | .readLine =>
    match self.reader.bind (readCappedLine maxLineLength false) with
    | some (.eof, _) => some { self with reader := none }
    | some (_, unread) => some { self with reader := some unread }
    | none => none

/-- What a step can do, with its guard. -/
inductive Step (capacity maxLineLength : Nat) (self : State) :
    Action → State → Prop where
  | send {chunk : Bytes} (hclosed : self.channel.closed = false)
      (hroom : self.channel.readRx.length < capacity) :
      Step capacity maxLineLength self (.send chunk)
        { self with
          channel := { self.channel with
            readRx := self.channel.readRx ++ [chunk] } }
  | close :
      Step capacity maxLineLength self .close
        { self with channel := { self.channel with closed := true } }
  | read {remaining : Nat} {unread : List Bytes} {bytes : Bytes}
      {channel : ReadableChannel} (hreader : self.reader = some unread)
      (hremaining : 0 < remaining)
      (hread : Read remaining self.channel (.ok bytes) channel) :
      Step capacity maxLineLength self (.read remaining)
        { channel, reads := self.reads ++ [bytes],
          reader := some (unread ++ [bytes]) }
  | fail {remaining : Nat} {unread : List Bytes} {error : Str}
      {channel : ReadableChannel} (hreader : self.reader = some unread)
      (hremaining : 0 < remaining)
      (hread : Read remaining self.channel (.error error) channel) :
      Step capacity maxLineLength self (.read remaining)
        { self with channel, reader := none }
  | eof {chunks unread : List Bytes} (hreader : self.reader = some chunks)
      (hread : readCappedLine maxLineLength false chunks = some (.eof, unread)) :
      Step capacity maxLineLength self .readLine { self with reader := none }
  | line {chunks unread : List Bytes} {line : LineRead}
      (hreader : self.reader = some chunks)
      (hread : readCappedLine maxLineLength false chunks = some (line, unread)) :
      Step capacity maxLineLength self .readLine
        { self with reader := some unread }

variable {capacity maxLineLength : Nat}

variable {action : Action}

theorem step_cases {self next : State}
    (hstep : step capacity maxLineLength self action = some next) :
    Step capacity maxLineLength self action next := by
  cases action with
  | send chunk =>
    simp only [step] at hstep
    rw [ite_none_right_eq_some] at hstep
    obtain ⟨⟨hclosed, hroom⟩, hnext⟩ := hstep
    cases hnext
    exact .send hclosed hroom
  | close =>
    cases hstep
    exact .close
  | read remaining =>
    simp only [step] at hstep
    split at hstep
    · next unread hreader =>
      rw [ite_none_right_eq_some, map_eq_some_iff] at hstep
      obtain ⟨hremaining, ⟨result, channel⟩, hread, rfl⟩ := hstep
      cases result with
      | ok bytes => exact .read hreader hremaining (pollRead_cases hread)
      | error error =>
        exact .fail hreader hremaining (pollRead_cases hread)
    · cases hstep
  | readLine =>
    simp only [step] at hstep
    split at hstep
    · next hread =>
      cases hstep
      obtain ⟨chunks, hreader, hread⟩ := bind_eq_some_iff.mp hread
      exact .eof hreader hread
    · next hread =>
      cases hstep
      obtain ⟨chunks, hreader, hread⟩ := bind_eq_some_iff.mp hread
      exact .line hreader hread
    · cases hstep

def sends (trace : List Action) : List Bytes :=
  trace.filterMap fun
    | .send chunk => some chunk
    | _ => none

/-- No read completes empty while the sender is open or bytes are pending, and
no end of the file comes before the channel is closed. -/
def Honest (maxLineLength : Nat) (self : State) : Action → Prop
  | .read remaining =>
    self.channel.closed = false ∨ self.channel.pending ≠ [] →
      ∀ channel, pollRead remaining self.channel ≠ some (.ok [], channel)
  | .readLine =>
    self.channel.closed = false →
      ∀ unread, self.reader.bind (readCappedLine maxLineLength false) ≠
        some (.eof, unread)
  | _ => True

theorem Step.bytes {self next : State} (hstep : Step capacity maxLineLength self action next) :
    next.reads.flatten ++ next.channel.pending = self.reads.flatten ++ self.channel.pending ++
        (sends [action]).flatten := by
  cases hstep with
  | send | close => simp [sends, pending]
  | read hreader hremaining hread => simp [sends, ← hread.pending]
  | fail hreader hremaining hread =>
    cases hread
    simp [sends]
  | eof | line => simp [sends]

/-- What was read and what is pending is what was sent. -/
theorem run_bytes {final : State} {trace : List Action}
    (hrun : Lts.run (step capacity maxLineLength) initial trace = some final) :
    final.reads.flatten ++ final.channel.pending = (sends trace).flatten := by
  refine @Lts.run_trace_invariant _ _ _
    (fun trace state => state.reads.flatten ++ state.channel.pending =
      (sends trace).flatten) ?_ _ _ _ rfl hrun
  intro trace state next action hbytes hstep
  rw [(step_cases hstep).bytes, hbytes]
  simp [sends]

/-- No chunk is empty on its way to the reader. -/
structure Full (state : State) : Prop where
  readRx : [] ∉ state.channel.readRx
  reader : ∀ {unread : List Bytes}, state.reader = some unread → [] ∉ unread

/-- As long as no empty chunk is sent, none is on its way. -/
theorem Full.step {self next : State} {action : Action} (hself : Full self)
    (hsends : [] ∉ sends [action])
    (hstep : Step capacity maxLineLength self action next) : Full next := by
  cases hstep with
  | send hclosed hroom =>
    refine ⟨?_, hself.reader⟩
    simpa [hself.readRx, sends] using hsends
  | close => exact ⟨hself.readRx, hself.reader⟩
  | read hreader hremaining hread =>
    refine ⟨hread.readRx hself.readRx, ?_⟩
    rintro unread ⟨⟩
    have hbytes := hread.ne_nil hremaining hself.readRx
    simpa [hself.reader hreader] using Ne.symm hbytes
  | fail hreader hremaining hread =>
    exact ⟨hread.readRx hself.readRx, fun hreader => by cases hreader⟩
  | eof hreader hread => exact ⟨hself.readRx, fun hreader => by cases hreader⟩
  | line hreader hread =>
    refine ⟨hself.readRx, ?_⟩
    rintro unread ⟨⟩
    exact (readCappedLine_ne_eof (hself.reader hreader) hread).2

theorem Full.honest {self next : State} (hself : Full self)
    (hstep : Step capacity maxLineLength self action next) : Honest maxLineLength self action := by
  cases hstep with
  | send | close => trivial
  | read hreader hremaining hread | fail hreader hremaining hread =>
    intro hopen channel hzero
    exact (pollRead_cases hzero).ne_nil hremaining hself.readRx rfl
  | eof hreader hread =>
    exact absurd rfl (readCappedLine_ne_eof (hself.reader hreader) hread).1
  | line hreader hread =>
    intro hopen unread heof
    rw [hreader, bind_some] at heof
    exact (readCappedLine_ne_eof (hself.reader hreader) heof).1 rfl

theorem sends_cons (action : Action) (actions : List Action) :
    sends (action :: actions) = sends [action] ++ sends actions := by
  simp [sends, ← filterMap_append]

theorem Full.along {self final : State} {trace : List Action} (hself : Full self)
    (hsends : [] ∉ sends trace)
    (hrun : Lts.run (ReadableChannel.step capacity maxLineLength) self trace = some final) :
    Lts.Along (ReadableChannel.step capacity maxLineLength) (Honest maxLineLength) self trace := by
  induction trace generalizing self with
  | nil => trivial
  | cons action actions ih =>
    rw [sends_cons, mem_append, not_or] at hsends
    obtain ⟨next, hnext, hrest⟩ := Lts.run_cons_eq_some.mp hrun
    have hstep := step_cases hnext
    rw [Lts.along_cons_of_some hnext]
    exact ⟨hself.honest hstep, ih (hself.step hsends.1 hstep) hsends.2 hrest⟩

/-- Every chunk is read as soon as it has been sent. -/
def relay (chunks : List Bytes) : List Action :=
  chunks.flatMap fun chunk => [.send chunk, .read (chunk.length + 1)]

theorem sends_relay (chunks : List Bytes) : sends (relay chunks) = chunks := by
  induction chunks with
  | nil => rfl
  | cons chunk chunks ih =>
    change chunk :: sends (relay chunks) = chunk :: chunks
    rw [ih]

/-- The state in which nothing is pending and the sender is open. -/
def idle (reads unread : List Bytes) : State :=
  { initial with reads, reader := some unread }

/-- Chunks can be relayed one after the other. -/
theorem relay_run (hcapacity : 0 < capacity) (chunks reads unread : List Bytes) :
    ∃ final, Lts.run (step capacity maxLineLength) (idle reads unread) (relay chunks) = some final ∧
      (Lts.Along (step capacity maxLineLength) (Honest maxLineLength)
        (idle reads unread) (relay chunks) → [] ∉ chunks) := by
  induction chunks generalizing reads unread with
  | nil => exact ⟨_, rfl, fun _ => not_mem_nil⟩
  | cons chunk chunks ih =>
    obtain ⟨final, hrest, hlater⟩ := ih (reads ++ [chunk]) (unread ++ [chunk])
    have hsend : step capacity maxLineLength (idle reads unread)
        (.send chunk) =
          some { idle reads unread with
            channel := { initial.channel with readRx := [chunk] } } :=
      if_pos ⟨rfl, hcapacity⟩
    have hread : step capacity maxLineLength
        { idle reads unread with
          channel := { initial.channel with readRx := [chunk] } }
        (.read (chunk.length + 1)) =
          some (idle (reads ++ [chunk]) (unread ++ [chunk])) := by
      simp [step, idle, initial, pollRead, fillBuf, take_of_length_le, drop_of_length_le]
    refine ⟨final, ?_, ?_⟩
    · change Lts.run _ _ (.send chunk :: .read (chunk.length + 1) :: relay chunks) = _
      rw [Lts.run_cons_eq_some]
      refine ⟨_, hsend, ?_⟩
      rw [Lts.run_cons_eq_some]
      exact ⟨_, hread, hrest⟩
    · intro halong
      change Lts.Along _ _ _ (.send chunk :: .read (chunk.length + 1) :: relay chunks) at halong
      rw [Lts.along_cons_of_some hsend, Lts.along_cons_of_some hread] at halong
      obtain ⟨-, hhonest, halong⟩ := halong
      rw [mem_cons, not_or]
      refine ⟨?_, hlater halong⟩
      rintro rfl
      exact hhonest (.inl rfl) initial.channel rfl

/-- For every sequence of chunks: the bytes come out in order in every run, and
nothing misleads the reader exactly when no chunk is empty. -/
theorem run_honest_iff {capacity : Nat} (hcapacity : 0 < capacity)
    (maxLineLength : Nat) (chunks : List Bytes) :
    (∀ trace final, sends trace = chunks →
      Lts.run (step capacity maxLineLength) initial trace = some final →
        final.reads.flatten ++ final.channel.pending = chunks.flatten ∧
          Lts.Along (step capacity maxLineLength) (Honest maxLineLength) initial trace) ↔
      [] ∉ chunks := by
  constructor
  · intro hruns
    obtain ⟨final, hrun, hchunks⟩ := @relay_run capacity maxLineLength hcapacity chunks [] []
    exact hchunks (hruns _ final (sends_relay chunks) hrun).2
  · rintro hchunks trace final rfl hrun
    refine ⟨run_bytes hrun, Full.along ⟨not_mem_nil, ?_⟩ hchunks hrun⟩
    rintro unread ⟨⟩
    exact not_mem_nil

namespace ReadableChannelWitness

/-- An empty chunk and then a message: the reader ends before the message. -/
theorem emptyChunk_read_as_eof :
    ∃ sent read final, Lts.run (step 64 1024) initial [.send [], .send [123, 125, 10]] = some sent ∧
      sent.channel.closed = false ∧ pollRead 8192 sent.channel = some (.ok [], read) ∧
      read.pending = [123, 125, 10] ∧
      Lts.run (step 64 1024) sent [.read 8192, .readLine] = some final ∧
      final.channel.closed = false ∧ final.reader = none :=
  ⟨_, _, _, rfl, rfl, rfl, rfl, rfl, rfl, rfl⟩

/-- Two chunks that are cut inside the message, read three bytes at a time. -/
def pieces : List Action :=
  [.send [123], .read 3, .send [125, 10, 123, 125], .read 3, .readLine, .read 3, .close, .read 3]

theorem pieces_honest :
    ∃ final, Lts.run (step 64 1024) initial pieces = some final ∧
      final.reads.flatten ++ final.channel.pending = [123, 125, 10, 123, 125] ∧
      Lts.Along (step 64 1024) (Honest 1024) initial pieces := by
  have hrun : Lts.run (step 64 1024) initial pieces = some _ := rfl
  refine ⟨_, hrun, ?_⟩
  exact (run_honest_iff (by decide) 1024
    [[123], [125, 10, 123, 125]]).mpr (by decide) pieces _ rfl hrun

end ReadableChannelWitness

end ReadableChannel

end McpSdk
