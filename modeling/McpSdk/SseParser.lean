/-
The client's event stream parser. It keeps what it cannot interpret yet and
scans that again with every chunk; the cut into chunks cannot be observed.
-/
import McpSdk.LineSplit
import McpSdk.SseEvent

namespace McpSdk

open List
open LineSplit (IsLine lines_isLine linesFrom)
open RustStr (stripStart trimEndMatches trim stripStart_append trimEndMatches_ne)

def newline : UInt8 := 10

/-- What the lines of one message have contributed so far. -/
structure MessageFields where
  event : Option Str
  id : Option Str
  retry : Option Str
  dataParts : List Str
  sawDataLine : Bool
deriving Repr, DecidableEq

namespace MessageFields

def empty : MessageFields :=
  ⟨none, none, none, [], false⟩

/-- A data line; an empty value is seen but not kept. -/
def addData (self : MessageFields) (value : Str) : MessageFields :=
  { self with
    sawDataLine := true
    dataParts :=
      if value.isEmpty ∨ value = ['\n'] then self.dataParts
      else self.dataParts ++ [value] }

/-- One line of a message; unknown lines are skipped, and later fields count. -/
def addLine (self : MessageFields) (line : Str) : MessageFields :=
  if line.isEmpty ∨ line.head? = some ':' then self
  else match stripStart "data: " line with
  | some value => self.addData value
  | none =>
    if trimEndMatches '\n' line = "data:" ∨
        ((trimEndMatches '\n' line).isEmpty ∧
          "data:".toList.isPrefixOf line) then
      self.addData []
    else match stripStart "event: " line with
    | some value => { self with event := some (trim value) }
    | none =>
      match stripStart "id: " line with
      | some value => { self with id := some (trim value) }
      | none =>
        match stripStart "retry: " line with
        | some value => { self with retry := some (trim value) }
        | none => self

/-- The data of the message: its data values, joined by line feeds. -/
def data (self : MessageFields) : Option Bytes :=
  if self.dataParts.isEmpty then none
  else some (Utf8.encode (List.intercalate ['\n'] self.dataParts))

def retryInterval (self : MessageFields) : Option Nat :=
  self.retry.bind fun value =>
    (RustStr.parseUnsigned (Nat.pow 2 64) (trim value)).toOption

end MessageFields

/-- The parser's state is its buffer. -/
structure SseParser where
  buffer : Bytes
deriving Repr, DecidableEq

namespace SseParser

def new : SseParser :=
  ⟨[]⟩

/-- Interpret the lines of one message; without a known field it is no event. -/
def parseSseMessage (lines : List Bytes) : Option SseEvent :=
  let fields := (lines.map Utf8.decodeLossy).foldl MessageFields.addLine
    MessageFields.empty
  if fields.data.isNone ∧ fields.id.isNone ∧ fields.retryInterval.isNone ∧
      fields.event.isNone ∧ fields.sawDataLine = false then none
  else some ⟨fields.event, fields.data, fields.id, fields.retryInterval⟩

/-- The events found so far, and the lines of the message being read. -/
structure Scan where
  events : List SseEvent
  currentMessageLines : List Bytes
deriving Repr, DecidableEq

/-- One round of the loop: an empty line that is not the first one ends the
message, and is the first of the next. -/
def Scan.step (scan : Scan) (line : Bytes) : Scan :=
  let lines := scan.currentMessageLines ++ [line]
  if 2 ≤ lines.length ∧ line = [newline] then
    let messageLines := lines.dropLast.filter (· ≠ [newline])
    ⟨scan.events ++ (parseSseMessage messageLines).toList, [line]⟩
  else ⟨scan.events, lines⟩

/-- Append a chunk, turn complete messages into events, and put back the rest. -/
def processNewChunk (self : SseParser) (bytes : Bytes) : List SseEvent × SseParser :=
  let cut := LineSplit.lines newline (self.buffer ++ bytes)
  let scan := cut.1.foldl Scan.step ⟨[], []⟩
  (scan.events, ⟨scan.currentMessageLines.flatten ++ cut.2⟩)

/-- Feed a sequence of chunks and collect the events. -/
def processChunks (self : SseParser) : List Bytes → List SseEvent × SseParser
  | [] => ([], self)
  | chunk :: chunks =>
    let first := self.processNewChunk chunk
    let later := processChunks first.2 chunks
    (first.1 ++ later.1, later.2)

/-- What a line does to the scan. -/
theorem Scan.step_cases (scan : Scan) (line : Bytes) :
    (scan.currentMessageLines ≠ [] ∧ line = [newline] ∧
        scan.step line = ⟨scan.events ++ (parseSseMessage
          (scan.currentMessageLines.filter (· ≠ [newline]))).toList, [line]⟩) ∨
      (¬ (scan.currentMessageLines ≠ [] ∧ line = [newline]) ∧
        scan.step line = ⟨scan.events, scan.currentMessageLines ++ [line]⟩) := by
  have hguard : 2 ≤ (scan.currentMessageLines ++ [line]).length ↔
      scan.currentMessageLines ≠ [] := by
    simp [Nat.one_le_iff_ne_zero]
  by_cases hend : scan.currentMessageLines ≠ [] ∧ line = [newline]
  · left
    refine ⟨hend.1, hend.2, ?_⟩
    rw [Scan.step, if_pos ⟨hguard.mpr hend.1, hend.2⟩, dropLast_concat]
  · right
    refine ⟨hend, ?_⟩
    rw [Scan.step, if_neg (fun h => hend ⟨hguard.mp h.1, h.2⟩)]

theorem Scan.foldl_step_events (lines : List Bytes) (scan : Scan) :
    lines.foldl Scan.step scan =
      ⟨scan.events ++ (lines.foldl Scan.step ⟨[], scan.currentMessageLines⟩).events,
        (lines.foldl Scan.step ⟨[], scan.currentMessageLines⟩).currentMessageLines⟩ := by
  induction lines generalizing scan with
  | nil => simp
  | cons line lines ih =>
    simp only [foldl_cons]
    rcases Scan.step_cases scan line with
      ⟨hcurrent, hline, hstep⟩ | ⟨hkeep, hstep⟩
    · rcases Scan.step_cases ⟨[], scan.currentMessageLines⟩ line with
        ⟨-, -, hfresh⟩ | ⟨hnot, -⟩
      · rw [hstep, hfresh, ih, ih ⟨[] ++ _, _⟩]
        simp
      · exact absurd ⟨hcurrent, hline⟩ hnot
    · rcases Scan.step_cases ⟨[], scan.currentMessageLines⟩ line with
        ⟨hcurrent, hline, -⟩ | ⟨-, hfresh⟩
      · exact absurd ⟨hcurrent, hline⟩ hkeep
      · rw [hstep, hfresh, ih]

/-- The lines of an unfinished message: none but the first is empty. -/
def Quiet (lines : List Bytes) : Prop :=
  ∀ line ∈ lines.tail, line ≠ [newline]

/-- What the scan keeps for later: complete lines, unfinished as a message. -/
def Scan.Unfinished (scan : Scan) : Prop :=
  Quiet scan.currentMessageLines ∧ ∀ line ∈ scan.currentMessageLines, IsLine newline line

/-- A line keeps the rest of the scan unfinished. -/
theorem Scan.Unfinished.step {scan : Scan} {line : Bytes} (hscan : scan.Unfinished)
    (hline : IsLine newline line) : (scan.step line).Unfinished := by
  obtain ⟨hquiet, hlines⟩ := hscan
  rcases Scan.step_cases scan line with ⟨-, -, hstep⟩ | ⟨hkeep, hstep⟩
  · rw [hstep]
    exact ⟨by simp [Quiet], by simpa using hline⟩
  · rw [hstep]
    constructor
    · cases hcurrent : scan.currentMessageLines with
      | nil => simp [Quiet]
      | cons head rest =>
        rw [hcurrent] at hquiet hkeep
        intro other hother
        simp only [cons_append, tail_cons, mem_append, mem_singleton] at hother
        rcases hother with hother | rfl
        · exact hquiet other hother
        · exact fun heq => hkeep ⟨by simp, heq⟩
    · intro other hother
      simp only [mem_append, mem_singleton] at hother
      rcases hother with hother | rfl
      · exact hlines other hother
      · exact hline

theorem Scan.Unfinished.foldl_step {lines : List Bytes} {scan : Scan} (hscan : scan.Unfinished)
    (hlines : ∀ line ∈ lines, IsLine newline line) : (lines.foldl Scan.step scan).Unfinished := by
  induction lines generalizing scan with
  | nil => exact hscan
  | cons line lines ih =>
    apply ih
    · exact hscan.step (hlines line mem_cons_self)
    · intro other hother
      exact hlines other (mem_cons_of_mem line hother)

theorem Scan.foldl_step_of_quiet {current lines : List Bytes}
    (hquiet : Quiet (current ++ lines)) (events : List SseEvent) :
    lines.foldl Scan.step ⟨events, current⟩ = ⟨events, current ++ lines⟩ := by
  induction lines generalizing current with
  | nil => simp
  | cons line lines ih =>
    rw [foldl_cons]
    rcases Scan.step_cases ⟨events, current⟩ line with
      ⟨hcurrent, hline, -⟩ | ⟨-, hstep⟩
    · cases current with
      | nil => exact absurd rfl hcurrent
      | cons head rest => exact absurd hline (hquiet line (by simp))
    · rw [hstep]
      have hrest : Quiet ((current ++ [line]) ++ lines) := by
        simpa using hquiet
      simpa using ih hrest

/-- The scan that a call makes over the complete lines. -/
def scanInput (self : SseParser) (bytes : Bytes) : Scan :=
  (LineSplit.lines newline (self.buffer ++ bytes)).1.foldl Scan.step ⟨[], []⟩

theorem processNewChunk_eq_scanInput (self : SseParser) (bytes : Bytes) :
    self.processNewChunk bytes = ((self.scanInput bytes).events,
      ⟨(self.scanInput bytes).currentMessageLines.flatten ++
        (LineSplit.lines newline (self.buffer ++ bytes)).2⟩) := rfl

theorem scanInput_unfinished (self : SseParser) (bytes : Bytes) :
    (self.scanInput bytes).Unfinished :=
  Scan.Unfinished.foldl_step ⟨by simp [Quiet], by simp⟩
    (lines_isLine _)

/-- Two chunks do what their concatenation does: the lines that were put back
are cut apart again, and the scan passes over them. -/
theorem processNewChunk_append (self : SseParser) (left right : Bytes) :
    self.processNewChunk (left ++ right) =
      ((self.processNewChunk left).1 ++ ((self.processNewChunk left).2.processNewChunk right).1,
        ((self.processNewChunk left).2.processNewChunk right).2) := by
  obtain ⟨hquiet, hlines⟩ := self.scanInput_unfinished left
  let carried := (LineSplit.lines newline (self.buffer ++ left)).2
  let fresh := LineSplit.lines newline (carried ++ right)
  have hwhole : LineSplit.lines newline (self.buffer ++ (left ++ right)) =
      ((LineSplit.lines newline (self.buffer ++ left)).1 ++ fresh.1,
        fresh.2) := by
    rw [← append_assoc]
    exact LineSplit.lines_append _ _
  have hsecond : LineSplit.lines newline
      ((self.scanInput left).currentMessageLines.flatten ++ carried ++ right) =
        ((self.scanInput left).currentMessageLines ++ fresh.1, fresh.2) := by
    rw [append_assoc]
    exact LineSplit.lines_flatten_append hlines _
  have hscan : self.scanInput (left ++ right) =
      fresh.1.foldl Scan.step (self.scanInput left) := by
    rw [scanInput, hwhole, foldl_append]
    rfl
  have hrescan : (self.processNewChunk left).2.scanInput right =
      fresh.1.foldl Scan.step
        ⟨[], (self.scanInput left).currentMessageLines⟩ := by
    have hagain := Scan.foldl_step_of_quiet
      (show Quiet ([] ++ (self.scanInput left).currentMessageLines) from hquiet) []
    rw [processNewChunk_eq_scanInput, scanInput, hsecond, foldl_append, hagain, nil_append]
  rw [processNewChunk_eq_scanInput, hwhole, hscan, Scan.foldl_step_events,
    ← hrescan, processNewChunk_eq_scanInput (self.processNewChunk left).2,
    processNewChunk_eq_scanInput self left, hsecond]

/-- A parser that has nothing left to find in its buffer. -/
def Settled (self : SseParser) : Prop :=
  self.processNewChunk [] = ([], self)

theorem new_settled : new.Settled := rfl

theorem processNewChunk_settled (self : SseParser) (bytes : Bytes) :
    (self.processNewChunk bytes).2.Settled := by
  have happend := self.processNewChunk_append bytes []
  rw [append_nil] at happend
  have hevents := congrArg Prod.fst happend
  have hparser := congrArg Prod.snd happend
  simp only [self_eq_append_right] at hevents
  exact Prod.ext hevents hparser.symm

variable {self : SseParser}

theorem Settled.processChunks (hself : self.Settled) (chunks : List Bytes) :
    self.processChunks chunks = self.processNewChunk chunks.flatten := by
  induction chunks generalizing self with
  | nil => exact hself.symm
  | cons chunk chunks ih =>
    rw [flatten_cons, processNewChunk_append, SseParser.processChunks]
    simp only [ih (self.processNewChunk_settled chunk)]

/-- However a byte string is cut, a new parser does what it does on the whole. -/
theorem processChunks_eq_processNewChunk_flatten (chunks : List Bytes) :
    new.processChunks chunks = new.processNewChunk chunks.flatten :=
  new_settled.processChunks chunks

/-- Everything in the scan comes from the given lines. -/
def Scan.From (lines : List Bytes) (scan : Scan) : Prop :=
  (∀ line ∈ scan.currentMessageLines, line ∈ lines) ∧
    ∀ event ∈ scan.events, ∃ messageLines, (∀ line ∈ messageLines, line ∈ lines) ∧
      parseSseMessage messageLines = some event

/-- A line keeps the scan within the lines received. -/
theorem Scan.From.step {lines : List Bytes} {scan : Scan} (hscan : scan.From lines) {line : Bytes}
    (hline : line ∈ lines) : (scan.step line).From lines := by
  obtain ⟨hcurrent, hevents⟩ := hscan
  rcases Scan.step_cases scan line with ⟨-, -, hstep⟩ | ⟨-, hstep⟩
  · rw [hstep]
    refine ⟨by simpa using hline, fun event hevent => ?_⟩
    rcases mem_append.mp hevent with hevent | hevent
    · exact hevents event hevent
    · refine ⟨_, ?_, Option.mem_toList.mp hevent⟩
      intro other hother
      exact hcurrent other (mem_filter.mp hother).1
  · rw [hstep]
    refine ⟨fun other hother => ?_, hevents⟩
    rcases mem_append.mp hother with hother | hother
    · exact hcurrent other hother
    · rw [mem_singleton.mp hother]
      exact hline

theorem Scan.From.foldl_step {lines received : List Bytes} {scan : Scan} (hscan : scan.From lines)
    (hreceived : ∀ line ∈ received, line ∈ lines) : (received.foldl Scan.step scan).From lines := by
  induction received generalizing scan with
  | nil => exact hscan
  | cons line received ih =>
    apply ih
    · exact hscan.step (hreceived line mem_cons_self)
    · intro other hother
      exact hreceived other (mem_cons_of_mem line hother)

theorem mem_processNewChunk {bytes : Bytes} {event : SseEvent}
    (hevent : event ∈ (self.processNewChunk bytes).1) :
    ∃ messageLines,
      (∀ line ∈ messageLines, line ∈ (LineSplit.lines newline (self.buffer ++ bytes)).1) ∧
      parseSseMessage messageLines = some event := by
  have hstart : Scan.From (LineSplit.lines newline (self.buffer ++ bytes)).1
      ⟨[], []⟩ := ⟨by simp, by simp⟩
  exact (hstart.foldl_step fun line hline => hline).2 event hevent

/-- Between two messages: it holds nothing, or the last empty line. -/
def AtBoundary (self : SseParser) : Prop :=
  self.buffer = [] ∨ self.buffer = [newline]

theorem new_atBoundary : new.AtBoundary :=
  .inl rfl

variable {messageLines : List Bytes}

section

variable (hlines : ∀ line ∈ messageLines, IsLine newline line) (hfull : ∀ line ∈ messageLines, line ≠ [newline])

include hlines hfull

/-- Between two messages, lines that are not empty are cut apart again, behind
the empty line it may hold, and give no event. -/
theorem AtBoundary.exists_scanInput (hself : self.AtBoundary) (rest : Bytes) :
    ∃ front : List Bytes, (∀ line ∈ front, line = [newline]) ∧
      self.scanInput (messageLines.flatten ++ rest) =
        (LineSplit.lines newline rest).1.foldl Scan.step ⟨[], front ++ messageLines⟩ ∧
      (LineSplit.lines newline (self.buffer ++ (messageLines.flatten ++ rest))).2 =
          (LineSplit.lines newline rest).2 := by
  obtain ⟨front, hbuffer, hfront⟩ : ∃ front : List Bytes,
      self.buffer = front.flatten ∧ (front = [] ∨ front = [[newline]]) := by
    rcases hself with hempty | hline
    · exact ⟨[], hempty, .inl rfl⟩
    · exact ⟨[[newline]], by simpa using hline, .inr rfl⟩
  have hempty : ∀ line ∈ front, line = [newline] := by
    rcases hfront with rfl | rfl
    · simp
    · simp
  have hall : ∀ line ∈ front ++ messageLines,
      IsLine newline line := by
    intro line hline
    rcases mem_append.mp hline with hline | hline
    · rw [hempty line hline]
      exact ⟨[], by simp, rfl⟩
    · exact hlines line hline
  have hcut : LineSplit.lines newline
      (self.buffer ++ (messageLines.flatten ++ rest)) =
        (front ++ messageLines ++ (LineSplit.lines newline rest).1,
          (LineSplit.lines newline rest).2) := by
    have hflat := LineSplit.lines_flatten_append hall rest
    simpa [hbuffer] using hflat
  have hquiet : Quiet ([] ++ (front ++ messageLines)) := by
    rcases hfront with rfl | rfl
    · exact fun line hline => hfull line (mem_of_mem_tail hline)
    · exact fun line hline => hfull line hline
  refine ⟨front, hempty, ?_, ?_⟩
  · rw [SseParser.scanInput, hcut, foldl_append, Scan.foldl_step_of_quiet hquiet, nil_append]
  · rw [hcut]

theorem AtBoundary.processNewChunk_open (hself : self.AtBoundary) :
    (self.processNewChunk messageLines.flatten).1 = [] := by
  obtain ⟨front, -, hscan, -⟩ := hself.exists_scanInput hlines hfull []
  rw [append_nil] at hscan
  rw [processNewChunk_eq_scanInput, hscan]
  rfl

/-- Between two messages, lines and an empty line give the event of the lines. -/
theorem AtBoundary.processNewChunk (hself : self.AtBoundary) :
    self.processNewChunk (messageLines.flatten ++ [newline]) =
      ((parseSseMessage messageLines).toList, ⟨[newline]⟩) := by
  obtain ⟨front, hfront, hscan, hrest⟩ := hself.exists_scanInput hlines hfull [newline]
  have hmessage : (front ++ messageLines).filter (· ≠ [newline]) =
      messageLines := by
    rw [filter_append, filter_eq_nil_iff.mpr (by simpa using hfront),
      filter_eq_self.mpr (by simpa using hfull), nil_append]
  have hend : LineSplit.lines newline [newline] = ([[newline]], []) := rfl
  rw [processNewChunk_eq_scanInput, hscan, hrest, hend]
  simp only [foldl_cons, foldl_nil]
  rcases Scan.step_cases ⟨[], front ++ messageLines⟩ [newline] with
    ⟨-, -, hstep⟩ | ⟨hnone, hstep⟩
  · rw [hstep]
    simp only [hmessage]
    rfl
  · have hnil : front ++ messageLines = [] := by
      by_contra hne
      exact hnone ⟨hne, rfl⟩
    rw [hstep, hnil, (append_eq_nil_iff.mp hnil).2]
    rfl

end

end SseParser

theorem newline_not_mem_encode {text : Str} (hline : '\n' ∉ text) : newline ∉ Utf8.encode text :=
  Utf8.ascii_not_mem_encode (by decide) (by decide) hline

theorem isLine_encode {text : Str} (htext : IsLine '\n' text) :
    IsLine newline (Utf8.encode text) := by
  obtain ⟨body, hbody, rfl⟩ := htext
  refine ⟨Utf8.encode body, newline_not_mem_encode hbody, ?_⟩
  rw [Utf8.encode_append]
  rfl

theorem linesFrom_encode (acc text : Str) :
    linesFrom newline (Utf8.encode acc) (Utf8.encode text) =
      ((linesFrom '\n' acc text).1.map Utf8.encode, Utf8.encode (linesFrom '\n' acc text).2) := by
  induction text generalizing acc with
  | nil => rfl
  | cons c text ih =>
    rw [Utf8.encode_cons, LineSplit.linesFrom_append]
    by_cases hc : c = '\n'
    · subst hc
      have hbyte : String.utf8EncodeChar '\n' = [newline] := by decide
      have hempty := ih []
      rw [Utf8.encode_nil] at hempty
      simp [hbyte, linesFrom, hempty]
    · have hnot : newline ∉ String.utf8EncodeChar c := by
        have htext : '\n' ∉ [c] := by simpa using Ne.symm hc
        simpa using newline_not_mem_encode htext
      have hstep := ih (acc ++ [c])
      simp only [Utf8.encode_append, Utf8.encode_cons, Utf8.encode_nil, append_nil] at hstep
      simp only [LineSplit.linesFrom_of_not_mem _ hnot, nil_append, linesFrom, hc, ↓reduceIte]
      rw [hstep]

namespace MessageFields

theorem addLine_data (self : MessageFields) (value : Str) :
    self.addLine ("data: " ++ value) = self.addData value := by
  rw [addLine, stripStart_append, if_neg]
  simp

theorem addLine_id (self : MessageFields) (value : Str) :
    self.addLine ("id: " ++ value) =
      { self with id := some (trim value) } := by
  have hdata : stripStart "data: " ("id: " ++ value) =
    none := rfl
  have hevent : stripStart "event: " ("id: " ++ value) =
    none := rfl
  have hprefix : "data:".toList.isPrefixOf ("id: " ++ value) = false := rfl
  have hbare : trimEndMatches '\n' ("id: " ++ value) ≠ "data:" := trimEndMatches_ne (by decide) _ _
  rw [addLine, if_neg (by simp), hdata]
  simp only [hbare, hprefix, hevent, stripStart_append,
    Bool.false_eq_true, and_false, or_false, ↓reduceIte]

theorem addLine_event (self : MessageFields) (value : Str) :
    self.addLine ("event: " ++ value) =
      { self with event := some (trim value) } := by
  have hdata : stripStart "data: " ("event: " ++ value) = none := rfl
  have hprefix : "data:".toList.isPrefixOf ("event: " ++ value) =
    false := rfl
  have hbare : trimEndMatches '\n' ("event: " ++ value) ≠
      "data:" :=
    trimEndMatches_ne (by decide) _ _
  rw [addLine, if_neg (by simp), hdata]
  simp only [hbare, hprefix, stripStart_append, Bool.false_eq_true, and_false, or_false, ↓reduceIte]

theorem addLine_retry (self : MessageFields) (value : Str) :
    self.addLine ("retry: " ++ value) =
      { self with retry := some (trim value) } := by
  have hdata : stripStart "data: " ("retry: " ++ value) = none := rfl
  have hevent : stripStart "event: " ("retry: " ++ value) = none := rfl
  have hid : stripStart "id: " ("retry: " ++ value) =
    none := rfl
  have hprefix : "data:".toList.isPrefixOf ("retry: " ++ value) =
    false := rfl
  have hbare : trimEndMatches '\n' ("retry: " ++ value) ≠
      "data:" :=
    trimEndMatches_ne (by decide) _ _
  rw [addLine, if_neg (by simp), hdata]
  simp only [hbare, hprefix, hevent, hid, stripStart_append,
    Bool.false_eq_true, and_false, or_false, ↓reduceIte]

theorem addLine_id_cases (self : MessageFields) (line : Str) :
    (self.addLine line).id = self.id ∨
      ∃ value, stripStart "id: " line = some value ∧
        (self.addLine line).id = some (trim value) := by
  unfold addLine
  split
  · exact .inl rfl
  · split
    · exact .inl rfl
    · split
      · exact .inl rfl
      · split
        · exact .inl rfl
        · split
          · next value hid => exact .inr ⟨value, hid, rfl⟩
          · split
            · exact .inl rfl
            · exact .inl rfl

variable {self : MessageFields}

theorem addLine_id_newline (hself : ∀ id, self.id = some id → '\n' ∉ id) {body : Str}
    (hbody : '\n' ∉ body) : ∀ id, (self.addLine (body ++ ['\n'])).id = some id → '\n' ∉ id := by
  rcases self.addLine_id_cases (body ++ ['\n']) with hid | ⟨value, hvalue, hid⟩
  · rw [hid]
    exact hself
  · rw [hid]
    rintro id ⟨⟩ hmem
    obtain ⟨-, hdrop⟩ := Option.ite_none_right_eq_some.mp hvalue
    rw [Option.some.injEq] at hdrop
    subst hdrop
    by_cases hlength : "id: ".toList.length ≤ body.length
    · rw [drop_append_of_le_length hlength, RustStr.trim_concat _ (by decide)] at hmem
      exact hbody (mem_of_mem_drop (RustStr.trim_subset hmem))
    · rw [drop_eq_nil_of_le (by
        rw [length_append, length_singleton]; omega)] at hmem
      cases hmem

theorem foldl_addLine_id_newline {texts : List Str} (htexts : ∀ text ∈ texts, IsLine '\n' text)
    (hself : ∀ id, self.id = some id → '\n' ∉ id) :
    ∀ id, (texts.foldl addLine self).id = some id → '\n' ∉ id := by
  induction texts generalizing self with
  | nil => exact hself
  | cons text texts ih =>
    obtain ⟨body, hbody, rfl⟩ := htexts text mem_cons_self
    apply ih
    · intro other hother
      exact htexts other (mem_cons_of_mem _ hother)
    · exact addLine_id_newline hself hbody

theorem addLine_dataParts (hself : [] ∉ self.dataParts) (line : Str) :
    [] ∉ (self.addLine line).dataParts := by
  have haddData : ∀ value, [] ∉ (self.addData value).dataParts := by
    intro value
    unfold addData
    split
    · exact hself
    · next hvalue =>
      rw [not_or, List.isEmpty_iff] at hvalue
      simpa [hself] using Ne.symm hvalue.1
  unfold addLine
  split
  · exact hself
  · split
    · exact haddData _
    · split
      · exact haddData []
      · split
        · exact hself
        · split
          · exact hself
          · split
            · exact hself
            · exact hself

theorem foldl_addLine_dataParts (texts : List Str) (hself : [] ∉ self.dataParts) :
    [] ∉ (texts.foldl addLine self).dataParts := by
  induction texts generalizing self with
  | nil => exact hself
  | cons text texts ih => exact ih (addLine_dataParts hself text)

theorem data_ne_nil (hself : [] ∉ self.dataParts) : self.data ≠ some [] := by
  unfold data
  cases hparts : self.dataParts with
  | nil => simp
  | cons part parts =>
    rw [hparts, mem_cons, not_or] at hself
    cases part with
    | nil => exact absurd rfl hself.1
    | cons c text =>
      intro hdata
      have hlength := Utf8.length_le_length_encode (List.intercalate ['\n'] ((c :: text) :: parts))
      simp only [isEmpty_cons, Bool.false_eq_true, ↓reduceIte, Option.some.injEq] at hdata
      rw [hdata] at hlength
      cases parts <;> simp [List.intercalate] at hlength

end MessageFields

theorem SseParser.processNewChunk_data_ne_nil {self : SseParser} {bytes : Bytes} {event : SseEvent}
    (hevent : event ∈ (self.processNewChunk bytes).1) : event.data ≠ some [] := by
  obtain ⟨messageLines, -, hparse⟩ := mem_processNewChunk hevent
  rw [parseSseMessage, Option.ite_none_left_eq_some] at hparse
  obtain ⟨-, hevent⟩ := hparse
  cases hevent
  exact MessageFields.data_ne_nil (MessageFields.foldl_addLine_dataParts _ not_mem_nil)

theorem SseParser.parseSseMessage_encode (texts : List Str) :
    parseSseMessage (texts.map Utf8.encode) =
      let fields := texts.foldl MessageFields.addLine MessageFields.empty
      if fields.data.isNone ∧ fields.id.isNone ∧
          fields.retryInterval.isNone ∧ fields.event.isNone ∧
          fields.sawDataLine = false then none
      else some ⟨fields.event, fields.data, fields.id,
        fields.retryInterval⟩ := by
  have hdecode : (texts.map Utf8.encode).map Utf8.decodeLossy = texts := by
    simp [Function.comp_def]
  rw [parseSseMessage, hdecode]

theorem SseParser.processNewChunk_id_newline {self : SseParser} {buffered : Str}
    (hbuffer : self.buffer = Utf8.encode buffered) {text : Str} {event : SseEvent}
    (hevent : event ∈ (self.processNewChunk (Utf8.encode text)).1) :
    ∀ id, event.id = some id → '\n' ∉ id := by
  obtain ⟨messageLines, hlines, hparse⟩ := mem_processNewChunk hevent
  rw [hbuffer, ← Utf8.encode_append, LineSplit.lines] at hlines
  rw [← Utf8.encode_nil, linesFrom_encode] at hlines
  obtain ⟨texts, htexts, rfl⟩ : ∃ texts : List Str,
      (∀ line ∈ texts, IsLine '\n' line) ∧
        texts.map Utf8.encode = messageLines := by
    refine ⟨messageLines.map Utf8.decodeLossy, ?_, ?_⟩
    · intro line hline
      obtain ⟨bytes, hbytes, rfl⟩ := mem_map.mp hline
      obtain ⟨whole, hwhole, rfl⟩ := mem_map.mp (hlines bytes hbytes)
      rw [Utf8.decodeLossy_encode]
      exact lines_isLine _ whole hwhole
    · rw [map_map]
      refine (map_congr_left fun bytes hbytes => ?_).trans (map_id _)
      obtain ⟨whole, -, rfl⟩ := mem_map.mp (hlines bytes hbytes)
      simp
  rw [parseSseMessage_encode] at hparse
  simp only at hparse
  split at hparse
  · cases hparse
  · rw [Option.some.injEq] at hparse
    subst hparse
    exact MessageFields.foldl_addLine_id_newline htexts (by intro id hid; cases hid)

end McpSdk
