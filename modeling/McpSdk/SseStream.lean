/-
The client's stream of the older SSE transport, over one connection. The name of
the current event is forgotten at the end of a chunk, and with it an endpoint
whose data line comes later.
-/
import McpSdk.SseParser

namespace McpSdk.SseStream

open List

def endpointSseEvent : Str :=
  "endpoint"

inductive Line where
  | event (name : Str)
  | data (payload : Str)
  | comment (content : Str)
  | other
deriving Repr, DecidableEq

/-- What a line is by its first characters. -/
def readLine (line : Bytes) : Line :=
  let text := Utf8.decodeLossy line
  match RustStr.stripStart "event: " text with
  | some name => .event (RustStr.trim name)
  | none =>
    match RustStr.stripStart "data: " text with
    | some data => .data (RustStr.trimStart data)
    | none =>
      match RustStr.stripStart ":" text with
      | some comment => .comment (RustStr.trimStart comment)
      | none => .other

/-- What `run` keeps, and what it has sent; the buffer holds no complete line. -/
structure State where
  buffer : Bytes
  newline_not_mem : newline ∉ buffer
  /-- The sender has not been taken. -/
  endpointEventTx : Bool
  endpointEventReceived : Bool
  endpoints : List Str
  contents : List Bytes
deriving Repr, DecidableEq

def start (endpointEventTx : Bool) : State :=
  { buffer := []
    newline_not_mem := not_mem_nil
    endpointEventTx
    endpointEventReceived := false
    endpoints := []
    contents := [] }

/-- The bytes of a content; an empty one is not sent. -/
def contentBytes (content : Str) : List Bytes :=
  if content.isEmpty then [] else [Utf8.encode content]

def State.send (self : State) (contents : List Bytes) : State :=
  { self with contents := self.contents ++ contents }

/-- The endpoint can still be reported. -/
def State.Awaits (self : State) : Prop :=
  self.endpointEventTx = true ∧ self.endpointEventReceived = false

instance (self : State) : Decidable self.Awaits :=
  inferInstanceAs (Decidable (_ ∧ _))

def State.report (self : State) (payload : Str) : State :=
  { self with
    endpointEventTx := false
    endpointEventReceived := true
    endpoints := self.endpoints ++ [RustStr.trim payload] }

/-- One line, together with the name of the current event. -/
def processLine : Option Str × State → Bytes → Option Str × State
  | (currentEvent, self), line =>
    match readLine line with
    | .event name => (some name, self)
    | .data payload =>
      if currentEvent = some endpointSseEvent ∧ self.Awaits then
        (currentEvent, self.report payload)
      else (currentEvent, self.send (contentBytes payload))
    | .comment content => (currentEvent, self.send (contentBytes content))
    | .other => (currentEvent, self)

def processLines (currentEvent : Option Str) (self : State) (lines : List Bytes) : State :=
  (lines.foldl processLine (currentEvent, self)).2

/-- The complete lines that are not empty. -/
def batch (input : Bytes) : List Bytes :=
  (LineSplit.lines newline input).1.filter (1 < ·.length)

def processChunk (self : State) (bytes : Bytes) : State :=
  processLines none
    { self with
      buffer := (LineSplit.lines newline (self.buffer ++ bytes)).2
      newline_not_mem := LineSplit.lines_remainder_not_mem _ }
    (batch (self.buffer ++ bytes))

def run (self : State) (chunks : List Bytes) : State :=
  chunks.foldl processChunk self

def nextEvent (currentEvent : Option Str) (line : Bytes) : Option Str :=
  match readLine line with
  | .event name => some name
  | _ => currentEvent

/-- A data line that comes while the current event is the endpoint. -/
def NamesEndpoint (currentEvent : Option Str) (line : Bytes) : Prop :=
  currentEvent = some endpointSseEvent ∧ ∃ payload, readLine line = .data payload

/-- One is a data line, and the last event line before it named the endpoint. -/
def Announces : Option Str → List Bytes → Prop
  | _, [] => False
  | currentEvent, line :: lines =>
    NamesEndpoint currentEvent line ∨ Announces (nextEvent currentEvent line) lines

/-- The contents of a line that does not report the endpoint. -/
def contentsOf (line : Bytes) : List Bytes :=
  match readLine line with
  | .data content | .comment content => contentBytes content
  | _ => []

variable (self : State)

theorem State.send_send (left right : List Bytes) :
    (self.send left).send right = self.send (left ++ right) := by
  simp [State.send]

theorem State.send_nil : self.send [] = self := by
  simp [State.send]

theorem processLine_of_not_names {currentEvent : Option Str} {self : State}
    {line : Bytes} (hline : ¬ (self.Awaits ∧ NamesEndpoint currentEvent line)) :
    processLine (currentEvent, self) line =
      (nextEvent currentEvent line, self.send (contentsOf line)) := by
  cases hread : readLine line with
  | event name =>
    simp [processLine, nextEvent, contentsOf, hread, State.send_nil]
  | data payload =>
    have hnot : ¬ (currentEvent = some endpointSseEvent ∧ self.Awaits) :=
      fun hboth => hline ⟨hboth.2, hboth.1, payload, hread⟩
    simp [processLine, nextEvent, contentsOf, hread, hnot]
  | comment content => simp [processLine, nextEvent, contentsOf, hread]
  | other => simp [processLine, nextEvent, contentsOf, hread, State.send_nil]

variable {currentEvent : Option Str}

theorem processLine_of_names {self : State} {line : Bytes} (hself : self.Awaits)
    (hline : NamesEndpoint currentEvent line) :
    ∃ payload, processLine (currentEvent, self) line = (currentEvent, self.report payload) := by
  obtain ⟨hcurrent, payload, hread⟩ := hline
  exact ⟨payload, by simp [processLine, hread, hcurrent, hself]⟩

theorem processLines_of_not_announces {currentEvent : Option Str} {self : State}
    {lines : List Bytes} (hlines : ¬ (self.Awaits ∧ Announces currentEvent lines)) :
    processLines currentEvent self lines = self.send (lines.flatMap contentsOf) := by
  induction lines generalizing currentEvent self with
  | nil => exact self.send_nil.symm
  | cons line lines ih =>
    have hfirst := @processLine_of_not_names currentEvent self line
      fun hboth => hlines ⟨hboth.1, .inl hboth.2⟩
    rw [processLines, foldl_cons, hfirst, flatMap_cons, ← State.send_send]
    exact ih fun hboth => hlines ⟨hboth.1, .inr hboth.2⟩

variable {lines : List Bytes}

theorem processLines_of_announces {self : State} (hself : self.Awaits)
    (hlines : Announces currentEvent lines) :
    (processLines currentEvent self lines).endpoints ≠ self.endpoints := by
  induction lines generalizing currentEvent self with
  | nil => cases hlines
  | cons line lines ih =>
    rw [processLines, foldl_cons]
    by_cases hline : NamesEndpoint currentEvent line
    · obtain ⟨payload, hfirst⟩ := processLine_of_names hself hline
      -- the endpoint has been reported, and is not reported again
      have hrest := @processLines_of_not_announces currentEvent
        (self.report payload) lines fun hboth => Bool.noConfusion hboth.1.1
      rw [processLines] at hrest
      rw [hfirst, hrest]
      simp [State.send, State.report]
    · rw [processLine_of_not_names fun hboth => hline hboth.2]
      exact @ih _ (self.send _) hself (hlines.resolve_left hline)

theorem batch_append (left right : Bytes) :
    batch (left ++ right) = batch left ++ batch ((LineSplit.lines newline left).2 ++ right) := by
  rw [batch, LineSplit.lines_append, filter_append]
  rfl

theorem Announces.append_left (hlines : Announces currentEvent lines)
    (later : List Bytes) : Announces currentEvent (lines ++ later) := by
  induction lines generalizing currentEvent with
  | nil => cases hlines
  | cons line lines ih => exact hlines.imp_right ih

theorem Announces.of_none (hlines : Announces none lines)
    (currentEvent : Option Str) : Announces currentEvent lines := by
  induction lines with
  | nil => cases hlines
  | cons line lines ih =>
    rcases hlines with hnow | hlater
    · cases hnow.1
    · refine .inr ?_
      unfold nextEvent at hlater ⊢
      cases hline : readLine line with
      | event name => simpa [hline] using hlater
      | _ => exact ih (by simpa [hline] using hlater)

theorem Announces.append_right (hlines : Announces none lines)
    (earlier : List Bytes) : Announces currentEvent (earlier ++ lines) := by
  induction earlier generalizing currentEvent with
  | nil => exact hlines.of_none currentEvent
  | cons line earlier ih => exact .inr ih

theorem processChunk_of_not_announces {self : State} {bytes : Bytes}
    (hbytes : ¬ (self.Awaits ∧ Announces none (batch (self.buffer ++ bytes)))) :
    processChunk self bytes =
      { self with
        buffer := (LineSplit.lines newline (self.buffer ++ bytes)).2
        newline_not_mem := LineSplit.lines_remainder_not_mem _
        contents := self.contents ++ (batch (self.buffer ++ bytes)).flatMap contentsOf } :=
  processLines_of_not_announces hbytes

/-- Without an announcement chunks only add contents. -/
theorem run_of_not_announces {self : State} {chunks : List Bytes}
    (hchunks : ¬ (self.Awaits ∧ Announces none (batch (self.buffer ++ chunks.flatten)))) :
    (run self chunks).endpoints = self.endpoints ∧ (run self chunks).contents = self.contents ++
        (batch (self.buffer ++ chunks.flatten)).flatMap contentsOf := by
  induction chunks generalizing self with
  | nil =>
    have hnone : batch self.buffer = [] := by
      rw [batch, LineSplit.lines, LineSplit.linesFrom_of_not_mem [] self.newline_not_mem]
      rfl
    simp [run, hnone]
  | cons chunk chunks ih =>
    rw [flatten_cons, ← append_assoc, batch_append] at hchunks ⊢
    have hfirst := @processChunk_of_not_announces self chunk
      fun hboth => hchunks ⟨hboth.1, hboth.2.append_left _⟩
    have hnext := @ih (processChunk self chunk) (by
      rw [hfirst]
      exact fun hboth => hchunks ⟨hboth.1, hboth.2.append_right _⟩)
    change (run (processChunk self chunk) chunks).endpoints = _ ∧
      (run (processChunk self chunk) chunks).contents = _
    rw [hnext.1, hnext.2, hfirst]
    simp

theorem not_announces_singleton (line : Bytes) : ¬ Announces none [line] := by
  rintro (hnow | hlater)
  · cases hnow.1
  · cases hlater

theorem not_announces_batch_concat (byte : UInt8) :
    ¬ Announces none (batch (self.buffer ++ [byte])) := by
  by_cases hbyte : byte = newline
  · have hlines := LineSplit.lines_line_append ⟨self.buffer, self.newline_not_mem, rfl⟩ ([] : Bytes)
    rw [hbyte, batch, ← append_nil (self.buffer ++ [newline]), hlines, filter_cons]
    split
    · exact not_announces_singleton _
    · exact id
  · have hnot : newline ∉ self.buffer ++ [byte] := by
      simpa [self.newline_not_mem] using Ne.symm hbyte
    rw [batch, LineSplit.lines, LineSplit.linesFrom_of_not_mem [] hnot]
    exact id

/-- Byte by byte no endpoint is ever reported. -/
theorem run_bytes_endpoints (bytes : Bytes) :
    (run self (bytes.map fun byte => [byte])).endpoints = self.endpoints := by
  induction bytes generalizing self with
  | nil => rfl
  | cons byte bytes ih =>
    have hfirst := @processChunk_of_not_announces self [byte]
      fun hboth => not_announces_batch_concat self byte hboth.2
    change (run (processChunk self [byte]) (bytes.map fun byte => [byte])).endpoints = _
    rw [ih, hfirst]

/-- From every state of `run`: all ways to cut the bytes of a connection report
the same endpoint and send the same contents, exactly when there is none to
report. -/
theorem run_eq_iff_not_announces (self : State) (bytes : Bytes) :
    (∀ left right, left.flatten = bytes → right.flatten = bytes →
      (run self left).endpoints = (run self right).endpoints ∧
        (run self left).contents = (run self right).contents) ↔
      ¬ (self.Awaits ∧ Announces none (batch (self.buffer ++ bytes))) := by
  constructor
  · rintro hsame ⟨hawaits, hannounces⟩
    have hbytes : (bytes.map fun byte => [byte]).flatten = bytes := by
      rw [← flatMap_def, flatMap_singleton']
    have hwhole : (run self [bytes]).endpoints ≠ self.endpoints :=
      processLines_of_announces hawaits hannounces
    apply hwhole
    rw [(hsame [bytes] _ (by simp) hbytes).1, run_bytes_endpoints]
  · rintro hnot left right hleft rfl
    have hone := @run_of_not_announces self left (by rwa [hleft])
    have htwo := @run_of_not_announces self right hnot
    rw [hone.1, hone.2, htwo.1, htwo.2, hleft]
    exact ⟨rfl, rfl⟩

namespace SseStreamWitness

def eventLine : Bytes :=
  Utf8.encode "event: endpoint\n"

def dataLine : Bytes :=
  Utf8.encode "data: /messages\n"

theorem cut_after_event :
    (run (start true) [eventLine ++ dataLine]).endpoints = ["/messages".toList] ∧
      (run (start true) [eventLine ++ dataLine]).contents = [] ∧
      (run (start true) [eventLine, dataLine]).endpoints = [] ∧
      (run (start true) [eventLine, dataLine]).contents =
        [Utf8.encode "/messages\n".toList] := by
  decide +kernel

end SseStreamWitness

end McpSdk.SseStream
