/-
What a lost connection leaves behind for the next one: an unfinished line is
completed by its first bytes, and the lines of an unfinished message become part
of its first message.
-/
import McpSdk.HttpStream
import McpSdk.SseStream

namespace McpSdk

namespace MessageFields

/-- Fields that differ at most in a retry text that is no number. -/
structure Alike (left right : MessageFields) : Prop where
  event : left.event = right.event
  id : left.id = right.id
  retryInterval : left.retryInterval = right.retryInterval
  dataParts : left.dataParts = right.dataParts
  sawDataLine : left.sawDataLine = right.sawDataLine

theorem Alike.addData {left right : MessageFields} (halike : left.Alike right)
    (value : Str) : (left.addData value).Alike (right.addData value) where
  event := halike.event
  id := halike.id
  retryInterval := halike.retryInterval
  dataParts := by
    simp only [MessageFields.addData, halike.dataParts]
  sawDataLine := rfl

theorem Alike.addLine {left right : MessageFields} (halike : left.Alike right)
    (line : Str) : (left.addLine line).Alike (right.addLine line) := by
  unfold MessageFields.addLine
  by_cases hskip : line.isEmpty ∨ line.head? = some ':'
  · rw [if_pos hskip, if_pos hskip]
    exact halike
  · rw [if_neg hskip, if_neg hskip]
    cases RustStr.stripStart "data: " line with
    | some value => exact halike.addData value
    | none =>
      simp only
      split
      · exact halike.addData []
      · cases RustStr.stripStart "event: " line with
        | some value =>
          exact ⟨rfl, halike.id, halike.retryInterval, halike.dataParts, halike.sawDataLine⟩
        | none =>
          cases RustStr.stripStart "id: " line with
          | some value =>
            exact ⟨halike.event, rfl, halike.retryInterval, halike.dataParts, halike.sawDataLine⟩
          | none =>
            cases RustStr.stripStart "retry: " line with
            | some value =>
              exact ⟨halike.event, halike.id, rfl, halike.dataParts, halike.sawDataLine⟩
            | none => exact halike

theorem Alike.foldl {left right : MessageFields} (halike : left.Alike right) (texts : List Str) :
    (texts.foldl MessageFields.addLine left).Alike (texts.foldl MessageFields.addLine right) := by
  induction texts generalizing left right with
  | nil => exact halike
  | cons text texts ih => exact ih (halike.addLine text)

theorem addLine_dataParts_cases (self : MessageFields) (line : Str) :
    ((self.addLine line).dataParts = self.dataParts ∧
        (self.addLine line).sawDataLine = self.sawDataLine) ∨
      (self.addLine line).sawDataLine = true ∧
        ((self.addLine line).dataParts = self.dataParts ∨
          ∃ value, RustStr.stripStart "data: " line = some value ∧
            (self.addLine line).dataParts = self.dataParts ++ [value]) := by
  unfold addLine
  split
  · exact Or.inl ⟨rfl, rfl⟩
  · split
    · next value hvalue =>
      refine Or.inr ⟨rfl, ?_⟩
      unfold addData
      split
      · exact Or.inl rfl
      · exact Or.inr ⟨value, hvalue, rfl⟩
    · split
      · exact Or.inr ⟨rfl, Or.inl rfl⟩
      · split
        · exact Or.inl ⟨rfl, rfl⟩
        · split
          · exact Or.inl ⟨rfl, rfl⟩
          · split
            · exact Or.inl ⟨rfl, rfl⟩
            · exact Or.inl ⟨rfl, rfl⟩

end MessageFields

namespace SseParser

def fieldsOf (lines : List Bytes) : MessageFields :=
  (lines.map Utf8.decodeLossy).foldl MessageFields.addLine MessageFields.empty

theorem fieldsOf_concat (lines : List Bytes) (line : Bytes) :
    fieldsOf (lines ++ [line]) = (fieldsOf lines).addLine (Utf8.decodeLossy line) := by
  simp [fieldsOf]

theorem parseSseMessage_eq_none_iff (lines : List Bytes) :
    parseSseMessage lines = none ↔ (fieldsOf lines).Alike MessageFields.empty := by
  have hdata : (fieldsOf lines).data.isNone ↔ (fieldsOf lines).dataParts = [] := by
    unfold MessageFields.data
    split
    · next hempty => simpa using hempty
    · next hparts => simpa using hparts
  change (if _ then none else some _) = none ↔ _
  rw [ite_eq_left_iff]
  constructor
  · intro hnone
    have hall := not_imp_comm.mp hnone (by simp)
    rw [← fieldsOf, hdata] at hall
    obtain ⟨hparts, hid, hretry, hevent, hsaw⟩ := hall
    exact ⟨Option.isNone_iff_eq_none.mp hevent, Option.isNone_iff_eq_none.mp hid,
      Option.isNone_iff_eq_none.mp hretry, hparts, hsaw⟩
  · rintro ⟨hevent, hid, hretry, hparts, hsaw⟩ hnot
    refine absurd ⟨?_, ?_, ?_, ?_, ?_⟩ hnot
    · exact hdata.mpr hparts
    · exact Option.isNone_iff_eq_none.mpr hid
    · exact Option.isNone_iff_eq_none.mpr hretry
    · exact Option.isNone_iff_eq_none.mpr hevent
    · exact hsaw

theorem parseSseMessage_congr {left right : List Bytes}
    (halike : (fieldsOf left).Alike (fieldsOf right)) :
    parseSseMessage left = parseSseMessage right := by
  have hdata : (fieldsOf left).data = (fieldsOf right).data := by
    simp only [MessageFields.data, halike.dataParts]
  change (if _ then none else some _) = (if _ then none else some _)
  rw [← fieldsOf, ← fieldsOf, halike.event, halike.id, halike.retryInterval,
    halike.sawDataLine, hdata]

/-- Lines that give no event have no influence on the lines behind them. -/
theorem parseSseMessage_append_of_none {left : List Bytes} (hleft : parseSseMessage left = none)
    (right : List Bytes) : parseSseMessage (left ++ right) = parseSseMessage right := by
  apply parseSseMessage_congr
  have halike := ((parseSseMessage_eq_none_iff left).mp hleft).foldl (right.map Utf8.decodeLossy)
  unfold fieldsOf at halike ⊢
  rwa [List.map_append, List.foldl_append]

/-- What a parser keeps: lines of a message, and an unfinished line. -/
def Holding (self : SseParser) (current : List Bytes) (rest : Bytes) : Prop :=
  self.buffer = current.flatten ++ rest ∧ Quiet current ∧
    (∀ line ∈ current, LineSplit.IsLine newline line) ∧ newline ∉ rest

theorem new_holding : new.Holding [] [] :=
  ⟨rfl, by simp [Quiet], by simp, List.not_mem_nil⟩

theorem processNewChunk_holding (self : SseParser) (bytes : Bytes) :
    ∃ current rest, (self.processNewChunk bytes).2.Holding current rest := by
  obtain ⟨hquiet, hlines⟩ := self.scanInput_unfinished bytes
  exact ⟨_, _, rfl, hquiet, hlines, LineSplit.lines_remainder_not_mem _⟩

variable {current : List Bytes} {self : SseParser} {rest : Bytes}

theorem Holding.lines (hself : self.Holding current rest) :
    LineSplit.lines newline self.buffer = (current, rest) := by
  obtain ⟨hbuffer, -, hlines, hrest⟩ := hself
  have hcut : LineSplit.lines newline rest = ([], rest) := LineSplit.linesFrom_of_not_mem [] hrest
  rw [hbuffer, LineSplit.lines_flatten_append hlines, hcut, List.append_nil]

/-- The held lines are passed over, and the held part of a line is completed. -/
theorem Holding.events (hself : self.Holding current rest) (bytes : Bytes) :
    (self.processNewChunk bytes).1 = ((LineSplit.lines newline (rest ++ bytes)).1.foldl Scan.step
        ⟨[], current⟩).events := by
  obtain ⟨hbuffer, hquiet, hlines, -⟩ := hself
  have hcut : LineSplit.lines newline (self.buffer ++ bytes) =
      (current ++ (LineSplit.lines newline (rest ++ bytes)).1,
        (LineSplit.lines newline (rest ++ bytes)).2) := by
    rw [hbuffer, List.append_assoc, LineSplit.lines_flatten_append hlines]
  have hagain := Scan.foldl_step_of_quiet (show Quiet ([] ++ current) from hquiet) []
  rw [processNewChunk_eq_scanInput, scanInput, hcut, List.foldl_append, hagain, List.nil_append]

theorem Holding.settled (hself : self.Holding current rest) : self.Settled := by
  have hlines := hself.lines
  obtain ⟨hbuffer, hquiet, -, -⟩ := hself
  have hagain := Scan.foldl_step_of_quiet (show Quiet ([] ++ current) from hquiet) []
  have hscan : self.scanInput [] = ⟨[], current⟩ := by
    rw [scanInput, List.append_nil, hlines, hagain, List.nil_append]
  unfold Settled
  rw [processNewChunk_eq_scanInput, hscan, List.append_nil, hlines, ← hbuffer]

/-- A rest without influence: no unfinished line, and lines without an event. -/
def Clean (self : SseParser) : Prop :=
  (LineSplit.lines newline self.buffer).2 = [] ∧
    parseSseMessage ((LineSplit.lines newline self.buffer).1.filter (· ≠ [newline])) = none

instance (self : SseParser) : Decidable self.Clean :=
  inferInstanceAs (Decidable (_ ∧ _))

/-- Two scans that agree but for lines in front that give no event. -/
def Scan.Behind (front : List Bytes) (left right : Scan) : Prop :=
  left.events = right.events ∧
    (left.currentMessageLines = right.currentMessageLines ∨
      left.currentMessageLines = front ++ right.currentMessageLines)

theorem Scan.Behind.step {front : List Bytes} {left right : Scan}
    (hfront : parseSseMessage (front.filter (· ≠ [newline])) = none)
    (hscans : Scan.Behind front left right) (line : Bytes) :
    Scan.Behind front (left.step line) (right.step line) := by
  obtain ⟨hevents, hsame | hlines⟩ := hscans
  · have heq : left = right := by
      cases left
      cases right
      simp_all
    rw [heq]
    exact ⟨rfl, Or.inl rfl⟩
  · rcases Scan.step_cases left line with
      ⟨hleft, hline, hleftStep⟩ | ⟨hleft, hleftStep⟩
    · rw [hlines, List.filter_append, parseSseMessage_append_of_none hfront] at hleftStep
      rcases Scan.step_cases right line with
        ⟨-, -, hrightStep⟩ | ⟨hright, hrightStep⟩
      · rw [hleftStep, hrightStep, hevents]
        exact ⟨rfl, Or.inl rfl⟩
      · have hnil : right.currentMessageLines = [] := by
          by_contra hne
          exact hright ⟨hne, hline⟩
        rw [hnil] at hleftStep
        rw [hleftStep, hrightStep, hnil, hevents]
        refine ⟨?_, Or.inl rfl⟩
        change right.events ++ [] = right.events
        exact List.append_nil _
    · rcases Scan.step_cases right line with
        ⟨hright, hline, -⟩ | ⟨-, hrightStep⟩
      · refine absurd ⟨?_, hline⟩ hleft
        rw [hlines]
        simp [hright]
      · rw [hleftStep, hrightStep]
        refine ⟨hevents, Or.inr ?_⟩
        simp [hlines]

theorem Scan.Behind.foldl {front : List Bytes} {left right : Scan}
    (hfront : parseSseMessage (front.filter (· ≠ [newline])) = none)
    (hscans : Scan.Behind front left right) (lines : List Bytes) :
    Scan.Behind front (lines.foldl Scan.step left) (lines.foldl Scan.step right) := by
  induction lines generalizing left right with
  | nil => exact hscans
  | cons line lines ih => exact ih (hscans.step hfront line)

def probe : Bytes :=
  Utf8.encode "data: v\n"

theorem isLine_append_probe (hrest : newline ∉ rest) :
    LineSplit.IsLine newline (rest ++ probe) := by
  refine ⟨rest ++ Utf8.encode "data: v", ?_, ?_⟩
  · rw [List.mem_append, not_or]
    exact ⟨hrest, newline_not_mem_encode (by decide)⟩
  · rw [List.append_assoc]
    rfl

/-- A data line behind any bytes keeps its text. -/
theorem decodeLossy_append_probe (rest : Bytes) :
    Utf8.decodeLossy (rest ++ probe) =
      Utf8.decodeLossy rest ++ "data: v\n" := by
  have hprobe : probe = 100 :: probe.tail := by decide
  have hdecode : Utf8.decodeLossy probe = "data: v\n" := Utf8.decodeLossy_encode _
  rw [hprobe, Utf8.decodeLossy_append_ascii (by decide), ← hprobe, hdecode]

theorem parseSseMessage_data {lines : List Bytes} {event : SseEvent}
    (hparse : parseSseMessage lines = some event) : event.data = (fieldsOf lines).data := by
  change (if _ then none else some _) = some event at hparse
  rw [Option.ite_none_left_eq_some] at hparse
  obtain ⟨-, hevent⟩ := hparse
  cases hevent
  rfl

theorem Holding.events_message (hself : self.Holding current rest) (bytes : Bytes)
    (hline : LineSplit.IsLine newline (rest ++ bytes)) (hfull : rest ++ bytes ≠ [newline]) :
    (self.processNewChunk (bytes ++ [newline])).1 =
      (parseSseMessage (current.filter (· ≠ [newline]) ++ [rest ++ bytes])).toList := by
  have hcut : LineSplit.lines newline (rest ++ (bytes ++ [newline])) =
      ([rest ++ bytes, [newline]], []) := by
    rw [← List.append_assoc, LineSplit.lines_line_append hline]
    rfl
  rw [hself.events, hcut]
  simp only [List.foldl_cons, List.foldl_nil]
  rcases Scan.step_cases ⟨[], current⟩ (rest ++ bytes) with
    ⟨-, hnewline, -⟩ | ⟨-, hfirst⟩
  · exact absurd hnewline hfull
  · rw [hfirst]
    rcases Scan.step_cases ⟨[], current ++ [rest ++ bytes]⟩ [newline] with
      ⟨-, -, hsecond⟩ | ⟨hnone, -⟩
    · rw [hsecond, List.filter_append]
      simp [hfull]
    · exact absurd ⟨by simp, rfl⟩ hnone

theorem value_of_data {lines : List Bytes} {line : Bytes} {text : Str}
    (hlines : (fieldsOf lines).dataParts = [])
    (hdata : (fieldsOf (lines ++ [line])).data = some (Utf8.encode text)) :
    Utf8.decodeLossy line = "data: " ++ text := by
  rw [fieldsOf_concat] at hdata
  have hempty : ∀ {fields : MessageFields}, fields.dataParts = [] →
      fields.data = none := by
    intro fields hparts
    rw [MessageFields.data, hparts]
    rfl
  rcases MessageFields.addLine_dataParts_cases (fieldsOf lines)
    (Utf8.decodeLossy line) with ⟨hparts, -⟩ | ⟨-, hparts | ⟨value, hvalue, hparts⟩⟩
  · rw [hempty (hparts.trans hlines)] at hdata
    cases hdata
  · rw [hempty (hparts.trans hlines)] at hdata
    cases hdata
  · rw [hlines, List.nil_append] at hparts
    rw [MessageFields.data, hparts] at hdata
    simp only [List.isEmpty_cons, Bool.false_eq_true, ↓reduceIte,
      List.intercalate_singleton, Option.some.injEq] at hdata
    have htext : value = text := by
      rw [← Utf8.decodeLossy_encode value, hdata, Utf8.decodeLossy_encode]
    rw [RustStr.eq_append_of_stripStart hvalue, htext]

/-- A held part of a line shows up with an empty line or with a data line. -/
theorem Holding.rest_eq_nil (hself : self.Holding current rest)
    (hsame : ∀ bytes, (self.processNewChunk bytes).1 = (new.processNewChunk bytes).1) :
    rest = [] := by
  by_contra hrest
  have hnot := hself.2.2.2
  -- two line feeds: the completed line must not give an event
  have hblank := hself.events_message [newline] ⟨rest, hnot, rfl⟩ (by simpa using hrest)
  have hnewBlank : (new.processNewChunk ([newline] ++ [newline])).1 = [] := by
    decide
  rw [hsame, hnewBlank] at hblank
  have hnone := Option.toList_eq_nil_iff.mp hblank.symm
  rw [parseSseMessage_eq_none_iff, fieldsOf_concat] at hnone
  have hempty : (fieldsOf (current.filter (· ≠ [newline]))).dataParts = [] := by
    rcases MessageFields.addLine_dataParts_cases
      (fieldsOf (current.filter (· ≠ [newline])))
      (Utf8.decodeLossy (rest ++ [newline])) with ⟨hparts, -⟩ | ⟨hsaw, -⟩
    · rw [← hparts]
      exact hnone.dataParts
    · rw [hnone.sawDataLine] at hsaw
      cases hsaw
  -- so there were no data before, and the data line must give its own data
  have hprobe := hself.events_message probe (isLine_append_probe hnot)
    (by
      intro heq
      have hlength := congrArg List.length heq
      rw [List.length_append] at hlength
      have hlong : probe.length = 8 := by decide
      simp only [hlong, List.length_singleton] at hlength
      omega)
  have hnewProbe : (new.processNewChunk (probe ++ [newline])).1 =
      [⟨none, some (Utf8.encode "v\n"), none, none⟩] := by
    decide +kernel
  rw [hsame, hnewProbe, eq_comm, Option.toList_eq_singleton_iff] at hprobe
  have hdata := parseSseMessage_data hprobe
  have htext := value_of_data hempty hdata.symm
  rw [decodeLossy_append_probe] at htext
  exact Utf8.decodeLossy_ne_nil hrest (List.append_left_eq_self.mp htext)

/-- All next bytes give the events of a new parser exactly when it is clean. -/
theorem Holding.same_iff_clean (hself : self.Holding current rest) :
    (∀ bytes, (self.processNewChunk bytes).1 = (new.processNewChunk bytes).1) ↔ self.Clean := by
  unfold Clean
  rw [hself.lines]
  constructor
  · intro hsame
    have hrest := hself.rest_eq_nil hsame
    refine ⟨hrest, ?_⟩
    subst hrest
    have hend := hself.events [newline]
    have hnew : (new.processNewChunk [newline]).1 = [] := by decide
    have hcut : LineSplit.lines newline ([] ++ [newline]) = ([[newline]], []) := rfl
    rw [hsame, hnew, hcut] at hend
    simp only [List.foldl_cons, List.foldl_nil] at hend
    rcases Scan.step_cases ⟨[], current⟩ [newline] with
      ⟨-, -, hstep⟩ | ⟨hnone, -⟩
    · rw [hstep, List.nil_append] at hend
      exact Option.toList_eq_nil_iff.mp hend.symm
    · have hnil : current = [] := by
        by_contra hne
        exact hnone ⟨hne, rfl⟩
      rw [hnil]
      rfl
  · rintro ⟨hrest, hcurrent⟩ bytes
    simp only at hrest hcurrent
    subst hrest
    have hbehind := Scan.Behind.foldl hcurrent (show Scan.Behind current ⟨[], current⟩ ⟨[], []⟩ from
        ⟨rfl, Or.inr (List.append_nil current).symm⟩) (LineSplit.lines newline bytes).1
    rw [hself.events, new_holding.events]
    exact hbehind.1

end SseParser

namespace HttpStream

/-- The parser holds the rest of its input, and there are no events before the first chunk. -/
structure Call.Fed (call : Call) : Prop where
  holding : ∃ current rest, call.streamParser.Holding current rest
  events : call.chunks = [] → call.events = []

theorem Call.Fed.new (loop : Loop) (phase : Phase) : (Call.new loop phase).Fed :=
  ⟨⟨[], [], SseParser.new_holding⟩, fun _ => rfl⟩

variable {client : Client} {sessionId : Option Str}

theorem Call.Fed.callStep {call next : Call} {action : Action} (hcall : call.Fed)
    (hstep : HttpStream.callStep client sessionId call action = some next) : next.Fed := by
  by_cases hchunk : ∃ bytes accepted, action = .chunk bytes accepted
  · obtain ⟨bytes, accepted, rfl⟩ := hchunk
    obtain ⟨-, ⟨⟩⟩ := Lts.of_guard hstep
    have hread := call.readChunk_spec bytes accepted
    refine ⟨?_, ?_⟩
    · rw [hread.streamParser]
      exact call.streamParser.processNewChunk_holding bytes
    · intro hnil
      rw [hread.chunks] at hnil
      simp at hnil
  · have hsame := callStep_sameStream
      (fun bytes accepted heq => hchunk ⟨bytes, accepted, heq⟩) hstep
    refine ⟨?_, ?_⟩
    · rw [hsame.streamParser]
      exact hcall.holding
    · rw [hsame.chunks, hsame.events]
      exact hcall.events

variable {state : State}

/-- A step keeps the parser fed. -/
theorem step_fed {next : State} {action : Action}
    (hstate : ∀ call, state.call = some call → call.Fed)
    (hstep : step client state action = some next) : ∀ call, next.call = some call → call.Fed := by
  intro later hlater
  rcases step_cases hstep with ⟨reply, headers, -, -, rfl⟩ |
    ⟨reply, call, sessionId, connection, retryCount, headers, -, hcall, -, -,
      rfl⟩ | ⟨-, call, rfl, hcall⟩
  · obtain ⟨phase, hposted⟩ := state.posted_call headers reply
    rw [hposted] at hlater
    cases hlater
    exact Call.Fed.new _ _
  · cases hlater
    exact ⟨(hstate call hcall).holding, fun _ => rfl⟩
  · cases hlater
    rcases hcall with ⟨-, rfl⟩ | ⟨before, hbefore, hnext⟩
    · exact Call.Fed.new _ _
    · exact (hstate before hbefore).callStep hnext

/-- The parser is fed after any run. -/
theorem run_fed {actions : List Action}
    (hrun : Lts.run (step client) (State.start sessionId) actions = some state) :
    ∀ call, state.call = some call → call.Fed := by
  have hstart : ∀ call, (State.start sessionId).call = some call → call.Fed := by
    intro call hcall
    cases hcall
  exact Lts.run_keeps step_fed hstart hrun

/-- The chunks of a connection, each with the data that can be sent on. -/
def feed (chunks : List (Bytes × Nat)) : List Action :=
  chunks.map fun chunk => .chunk chunk.1 chunk.2

theorem step_chunk {call : Call} (hcall : state.call = some call) (bytes : Bytes) (accepted : Nat) :
    step client state (.chunk bytes accepted) =
      if call.phase = .reading then
        some { state with call := some (call.readChunk bytes accepted) }
      else none := by
  simp only [step, hcall, callStep]
  split
  · rfl
  · rfl

/-- The events of a fed call are those of its parser. -/
theorem run_feed_events {chunks : List (Bytes × Nat)} {final : State} {call later : Call}
    (hcall : state.call = some call) (hrun : Lts.run (step client) state (feed chunks) = some final)
    (hlater : final.call = some later) :
    later.events = call.events ++ (call.streamParser.processChunks (chunks.map (·.1))).1 := by
  induction chunks generalizing state call with
  | nil =>
    cases hrun
    cases hcall.symm.trans hlater
    exact (List.append_nil _).symm
  | cons chunk chunks ih =>
    obtain ⟨next, hnext, hrest⟩ := Lts.run_cons_eq_some.mp hrun
    rw [step_chunk hcall] at hnext
    obtain ⟨-, ⟨⟩⟩ := Lts.of_guard hnext
    have hread := call.readChunk_spec chunk.1 chunk.2
    have hmore := ih rfl hrest
    rw [hread.streamParser, hread.events, List.append_assoc] at hmore
    exact hmore

/-- On a connection without a chunk: whatever comes gives its own events,
exactly when the parser is clean. -/
theorem feed_same_iff_clean {actions : List Action} {call : Call}
    (hrun : Lts.run (step client) (State.start sessionId) actions = some state)
    (hcall : state.call = some call) (hphase : call.phase = .reading) (hchunks : call.chunks = []) :
    (∀ chunks final later, Lts.run (step client) state (feed chunks) = some final →
          final.call = some later →
            later.events = (SseParser.new.processChunks (chunks.map (·.1))).1) ↔
      call.streamParser.Clean := by
  have hfed := run_fed hrun call hcall
  obtain ⟨current, rest, hholding⟩ := hfed.holding
  have hevents := hfed.events hchunks
  rw [← hholding.same_iff_clean]
  constructor
  · intro hsame bytes
    have hstep : Lts.run (step client) state (feed [(bytes, 0)]) =
        some { state with call := some (call.readChunk bytes 0) } := by
      change (step client state (.chunk bytes 0)).bind _ = _
      rw [step_chunk hcall, if_pos hphase]
      rfl
    have hone := hsame [(bytes, 0)] _ _ hstep rfl
    rw [(call.readChunk_spec bytes 0).events, hevents] at hone
    simpa [SseParser.processChunks] using hone
  · intro hsame chunks final later hfinal hlater
    rw [run_feed_events hcall hfinal hlater, hevents, List.nil_append,
      hholding.settled.processChunks, SseParser.new_settled.processChunks]
    exact hsame _

end HttpStream

namespace SseStream

/-- The same stream with an empty buffer. -/
def State.cleared (self : State) : State :=
  { self with buffer := [], newline_not_mem := List.not_mem_nil }

theorem batch_line {line : Bytes} (hline : LineSplit.IsLine newline line)
    (hlong : 1 < line.length) : batch line = [line] := by
  have hcut := LineSplit.lines_line_append hline []
  rw [List.append_nil] at hcut
  simp [batch, hcut, hlong]

theorem mem_of_append_eq {front start rest tail : Str} (hfront : front ≠ [])
    (hstart : 'd' ∉ start.tail) (heq : front ++ 'd' :: tail = start ++ rest) : 'd' ∈ rest := by
  rcases List.append_eq_append_iff.mp heq with
    ⟨middle, hmiddle, htail⟩ | ⟨more, -, hrest⟩
  · cases middle with
    | nil =>
      rw [List.nil_append] at htail
      rw [← htail]
      exact List.mem_cons_self
    | cons c middle =>
      rw [List.cons_append, List.cons.injEq] at htail
      obtain ⟨first, others, rfl⟩ := List.exists_cons_of_ne_nil hfront
      refine absurd ?_ hstart
      rw [hmiddle, ← htail.1]
      simp
  · rw [hrest]
    exact List.mem_append_right more List.mem_cons_self

theorem contentsOf_append_probe {part : Bytes} (hpart : part ≠ []) :
    contentsOf (part ++ SseParser.probe) ≠ contentsOf SseParser.probe := by
  have hprobe : contentsOf SseParser.probe = [Utf8.encode "v\n"] := by
    decide +kernel
  have hfront := Utf8.decodeLossy_ne_nil hpart
  have htext := SseParser.decodeLossy_append_probe part
  -- the text that is left has the letter of the field name in it
  have hletter : ∀ {rest : Str}, 'd' ∈ rest →
      contentBytes (RustStr.trimStart rest) ≠ [Utf8.encode "v\n"] := by
    intro rest hmem heq
    unfold contentBytes at heq
    split at heq
    · cases heq
    · rw [List.cons.injEq] at heq
      have hsame : RustStr.trimStart rest = "v\n" := by
        rw [← Utf8.decodeLossy_encode (RustStr.trimStart rest), heq.1, Utf8.decodeLossy_encode]
      have htrim := RustStr.mem_trimStart hmem (by decide)
      rw [hsame] at htrim
      revert htrim
      decide
  have hrest : ∀ {start rest : Str}, 'd' ∉ start.tail →
      RustStr.stripStart start (Utf8.decodeLossy (part ++ SseParser.probe)) =
        some rest → 'd' ∈ rest := by
    intro start rest hstart hstrip
    rw [htext] at hstrip
    exact mem_of_append_eq hfront hstart (RustStr.eq_append_of_stripStart hstrip)
  rw [hprobe]
  unfold contentsOf readLine
  dsimp only
  cases RustStr.stripStart "event: "
      (Utf8.decodeLossy (part ++ SseParser.probe)) with
  | some name => exact (List.cons_ne_nil _ _).symm
  | none =>
    cases hdata : RustStr.stripStart "data: "
        (Utf8.decodeLossy (part ++ SseParser.probe)) with
    | some data => exact hletter (hrest (by decide) hdata)
    | none =>
      cases hcomment : RustStr.stripStart ":"
          (Utf8.decodeLossy (part ++ SseParser.probe)) with
      | some comment => exact hletter (hrest (by decide) hcomment)
      | none => exact (List.cons_ne_nil _ _).symm

/-- The next connection is read as with an empty buffer, whatever comes, exactly
when the buffer is empty. -/
theorem run_same_iff_buffer (self : State) :
    (∀ chunks, (run self chunks).endpoints = (run self.cleared chunks).endpoints ∧
        (run self chunks).contents = (run self.cleared chunks).contents) ↔ self.buffer = [] := by
  constructor
  · intro hsame
    by_contra hbuffer
    have hsent : ∀ state : State, (run state [SseParser.probe]).contents =
        state.contents ++ contentsOf (state.buffer ++ SseParser.probe) := by
      intro state
      have hline := SseParser.isLine_append_probe state.newline_not_mem
      have hbatch : batch (state.buffer ++ SseParser.probe) =
          [state.buffer ++ SseParser.probe] := by
        apply batch_line hline
        have hlength : SseParser.probe.length = 8 := by decide
        rw [List.length_append, hlength]
        omega
      have hone := @processChunk_of_not_announces state SseParser.probe
      rw [hbatch] at hone
      change (processChunk state SseParser.probe).contents = _
      rw [hone fun hboth => not_announces_singleton _ hboth.2]
      simp
    have hboth := (hsame [SseParser.probe]).2
    rw [hsent, hsent] at hboth
    exact contentsOf_append_probe hbuffer (List.append_cancel_left hboth)
  · intro hbuffer chunks
    have hcleared : self.cleared = self := by
      cases self
      cases hbuffer
      rfl
    rw [hcleared]
    exact ⟨rfl, rfl⟩

end SseStream

/-- After a reconnect, a connection of `run` or `run_standalone` gives the
events of its own bytes, whatever they are, exactly when the parser is clean;
and one of the older SSE stream exactly when the buffer has no unfinished line. -/
theorem reconnect_clean_iff (client : HttpStream.Client)
    (sessionId : Option Str) (endpointEventTx : Bool) :
    (∀ (actions : List HttpStream.Action) (state : HttpStream.State) (call : HttpStream.Call),
      Lts.run (HttpStream.step client) (.start sessionId) actions =
          some state → state.call = some call → call.phase = .reading → call.chunks = [] →
          ((∀ chunks final later, Lts.run (HttpStream.step client) state
                  (HttpStream.feed chunks) = some final → final.call = some later → later.events =
                  (SseParser.new.processChunks (chunks.map (·.1))).1) ↔ call.streamParser.Clean)) ∧
      ∀ connections : List (List Bytes), (∀ chunks, (SseStream.run (connections.foldl SseStream.run
                (SseStream.start endpointEventTx)) chunks).endpoints =
              (SseStream.run (connections.foldl SseStream.run
                (SseStream.start endpointEventTx)).cleared chunks).endpoints ∧
            (SseStream.run (connections.foldl SseStream.run
                (SseStream.start endpointEventTx)) chunks).contents =
              (SseStream.run (connections.foldl SseStream.run
                (SseStream.start endpointEventTx)).cleared chunks).contents) ↔
          (connections.foldl SseStream.run (SseStream.start endpointEventTx)).buffer = [] := by
  constructor
  · intro actions state call hrun hcall hphase hchunks
    exact HttpStream.feed_same_iff_clean hrun hcall hphase hchunks
  · intro connections
    exact SseStream.run_same_iff_buffer _

namespace StreamResidueWitness

open HttpStream.HttpStreamWitness (client eventStream)

def cut : Bytes :=
  Utf8.encode "data: ab"

def whole : Bytes :=
  Utf8.encode "data: c\n\n"

def standalone : List HttpStream.Action :=
  [.connect, .get (eventStream none), .chunk cut 1, .broken [], .wake, .get (eventStream none)]

/-- The stream ends within a message, after an event with an id. -/
def primed : List HttpStream.Action :=
  [.post (eventStream none), .chunk (Utf8.encode "id: 1\n\n") 1,
    .chunk cut 1, .ended, .wake, .get (eventStream none)]

def between : List HttpStream.Action :=
  [.connect, .get (eventStream none), .chunk whole 1, .ended, .wake, .get (eventStream none)]

theorem reconnect_between :
    ∃ state call, Lts.run (HttpStream.step client) (.start none) between =
        some state ∧ state.call = some call ∧ call.streamParser.Clean ∧
      ∀ chunks final later, Lts.run (HttpStream.step client) state
          (HttpStream.feed chunks) = some final → final.call = some later →
        later.events = (SseParser.new.processChunks (chunks.map (·.1))).1 := by
  have hrun : ((Lts.run (HttpStream.step client) (.start none) between).bind
      (·.call)).map (fun call => (call.phase, call.chunks, call.streamParser)) =
        some (.reading, [], ⟨[newline]⟩) := by
    decide +kernel
  obtain ⟨call, hbind, hfields⟩ := Option.map_eq_some_iff.mp hrun
  obtain ⟨state, hstate, hcall⟩ := Option.bind_eq_some_iff.mp hbind
  rw [Prod.mk.injEq, Prod.mk.injEq] at hfields
  obtain ⟨hphase, hchunks, hparser⟩ := hfields
  have hclean : call.streamParser.Clean := by
    rw [hparser]
    decide +kernel
  exact ⟨state, call, hstate, hcall, hclean,
    ((reconnect_clean_iff client none false).1 between state call hstate hcall
      hphase hchunks).mpr hclean⟩

/-- All three streams put the cut message in front of the next one. -/
theorem reconnect_cut :
    (SseParser.new.processChunks [whole]).1.map (·.data) = [some (Utf8.encode "c\n")] ∧
      ((Lts.run (HttpStream.step client) (.start none)
          (standalone ++ HttpStream.feed [(whole, 1)])).bind (·.call)).map
          (·.events.map (·.data)) =
        some [some (Utf8.encode "abdata: c\n")] ∧
      ((Lts.run (HttpStream.step client) (.start none)
          (primed ++ HttpStream.feed [(whole, 1)])).bind (·.call)).map
          (·.events.map (·.data)) =
        some [some (Utf8.encode "abdata: c\n")] ∧
      (SseStream.run (SseStream.run (SseStream.start false) [cut])
          [whole]).contents = [Utf8.encode "abdata: c\n"] ∧
      (SseStream.run (SseStream.run (SseStream.start false) [cut]).cleared
          [whole]).contents = [Utf8.encode "c\n"] := by
  decide +kernel

end StreamResidueWitness

end McpSdk
