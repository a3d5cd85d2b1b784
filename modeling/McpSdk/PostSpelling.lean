/-
The response to a POST as a server may spell it, in the event stream format and
not by what the client's parser finds in it.
-/
import McpSdk.PostCompleteness
import McpSdk.SseFormat

namespace McpSdk.PostStream

open List SseFormat

universe u v

variable {ι : Type u} {β : Type v}

/-- The data lines of a stream. -/
def dataFields (stream : List Block) : List Field :=
  (stream.flatMap Block.fields).filter (·.name = .data)

/-- The stream spells these messages, each as the value of one data line. -/
def Spells (client : Client ι β) (stream : List Block)
    (messages : List (ServerMessage ι β)) : Prop :=
  Forall₂ (fun field message => field.value ≠ [] ∧ client.decode field.value = some message)
    (dataFields stream) messages

/-- Every data line has the space behind its colon and fits the reader's limit,
a carriage return included, and the last empty line is a line feed alone. -/
def Legible (maxLineLength : Nat) (stream : List Block) : Prop :=
  (∀ last ∈ stream.getLast?, last.blank = .lf) ∧
    ∀ field ∈ dataFields stream, field.space = true ∧
      (Utf8.encode (field.value ++ field.lineEnd.text)).length ≤ maxLineLength + 1

/-- What a field adds to the data of its message. -/
def dataPart (field : Field) : Option Str :=
  if field.name = .data ∧ field.space = true ∧ (field.value ≠ [] ∨ field.lineEnd = .crlf) then
    some (field.value ++ field.lineEnd.text)
  else none

def dataParts (stream : List Block) : List Str :=
  (stream.flatMap Block.fields).filterMap dataPart

theorem dataParts_append (left right : List Block) :
    dataParts (left ++ right) = dataParts left ++ dataParts right := by
  simp [dataParts]

theorem foldl_read_dataParts (fields : List Field) (self : MessageFields) :
    (fields.foldl Field.read self).dataParts = self.dataParts ++ fields.filterMap dataPart := by
  induction fields generalizing self with
  | nil => simp
  | cons field fields ih =>
    rw [foldl_cons, ih, SseFormat.dataParts_read, filterMap_cons, dataPart]
    by_cases hname : field.name = .data
    · by_cases hkept : field.space = true ∧ (field.value ≠ [] ∨ field.lineEnd = .crlf)
      · simp [hname, hkept]
      · simp [hname, hkept]
    · simp [hname]

theorem eventData_append (left right : List SseEvent) :
    eventData (left ++ right) = eventData left ++ eventData right :=
  filterMap_append

theorem eventData_parsed (blocks : List Block) (hone : (dataParts blocks).length ≤ 1) :
    eventData (parsed (blocks.flatMap Block.fields)).toList =
      (dataParts blocks).map Utf8.encode := by
  have hparts := foldl_read_dataParts (blocks.flatMap Block.fields) MessageFields.empty
  rw [MessageFields.empty, nil_append] at hparts
  have hdata : (((blocks.flatMap Block.fields).foldl Field.read MessageFields.empty).data).toList =
      (dataParts blocks).map Utf8.encode := by
    rw [MessageFields.data, MessageFields.empty, hparts]
    change (if (dataParts blocks).isEmpty then none else _).toList = _
    rcases hlist : dataParts blocks with _ | ⟨part, _ | ⟨second, rest⟩⟩
    · rfl
    · simp [dataParts] at hlist
      simp [hlist]
    · simp [hlist] at hone
  rw [← hdata, parsed]
  split
  · next hnone => simp [eventData, Option.isNone_iff_eq_none.mp hnone.1]
  · cases ((blocks.flatMap Block.fields).foldl Field.read MessageFields.empty).data with
    | none | some => rfl

/-- Where a line feed ends the stream and there is at most one data line, the
parser passes on what that adds. -/
theorem eventData_found {blocks stream : List Block}
    (hlast : ∀ last ∈ stream.getLast?, last.blank = .lf) (hnil : stream = [] → blocks = [])
    (hone : (dataParts (blocks ++ stream)).length ≤ 1) :
    eventData (found blocks stream) = (dataParts (blocks ++ stream)).map Utf8.encode := by
  induction stream generalizing blocks with
  | nil =>
    cases hnil rfl
    rfl
  | cons block rest ih =>
    have hrest : ∀ last ∈ rest.getLast?, last.blank = .lf := by
      cases rest with
      | nil => exact nofun
      | cons => simpa using hlast
    rw [append_cons blocks block rest] at hone ⊢
    rw [found]
    cases hblank : block.blank with
    | lf =>
      rw [dataParts_append, length_append] at hone
      rw [dataParts_append, map_append, eventData_append, eventData_parsed _ (by omega),
        ih hrest (fun _ => rfl) (by rw [nil_append]; omega), nil_append]
    | crlf =>
      refine ih hrest (fun hempty => ?_) hone
      subst hempty
      have hlf := hlast block rfl
      rw [hblank] at hlf
      cases hlf

theorem dataParts_of_dataFields {stream : List Block} :
    dataParts stream = (dataFields stream).filterMap dataPart := by
  rw [dataParts, dataFields, filterMap_filter]
  congr 1
  funext field
  by_cases hname : field.name = .data
  · simp [hname]
  · simp [hname, dataPart]

theorem Spells.exists_field {client : Client ι β} {stream : List Block}
    {response : ServerMessage ι β} (hspells : Spells client stream [response]) :
    ∃ field, dataFields stream = [field] ∧ field.name = .data ∧ OneLine field.value ∧
      field.value ≠ [] ∧ client.decode field.value = some response := by
  unfold Spells at hspells
  generalize hfields : dataFields stream = fields at hspells
  cases hspells with
  | @cons field _ _ _ hfield hnil =>
    cases hnil
    have hmem : field ∈ dataFields stream := by simp [hfields]
    obtain ⟨hmem, hname⟩ := mem_filter.mp hmem
    exact ⟨field, rfl, of_decide_eq_true hname, (fields_permitted field hmem).oneLine, hfield⟩

/-- A data line as the reader sees it. -/
theorem exists_line {value : Str} (hvalue : OneLine value) (lineEnd : LineEnd) :
    ∃ line, Utf8.encode (value ++ lineEnd.text) = line ++ [newline] ∧ newline ∉ line ∧
      lineToString line = value := by
  have hlf : newline ∉ Utf8.encode value :=
    Utf8.ascii_not_mem_encode (by decide) (by decide) hvalue.1
  have hcr : 13 ∉ Utf8.encode value := Utf8.ascii_not_mem_encode (by decide) (by decide) hvalue.2
  cases lineEnd with
  | lf =>
    refine ⟨Utf8.encode value, Utf8.encode_append _ _, hlf, ?_⟩
    rw [lineToString, if_neg fun hlast => hcr (mem_of_getLast? hlast), Utf8.decodeLossy_encode]
  | crlf =>
    refine ⟨Utf8.encode value ++ [13], ?_, ?_, ?_⟩
    · rw [Utf8.encode_append, append_assoc]
      rfl
    · simpa using ⟨hlf, by decide⟩
    · rw [lineToString, if_pos getLast?_concat, dropLast_concat, Utf8.decodeLossy_encode]

theorem carries_of_legible {client : Client ι β} {stream : List Block}
    {response : ServerMessage ι β} (hspells : Spells client stream [response])
    (hlegible : Legible client.maxLineLength stream) :
    Carries client (Utf8.encode (text stream)) [response] := by
  obtain ⟨field, hfields, hname, hvalue, hne, hdecode⟩ := hspells.exists_field
  obtain ⟨hlast, hlegible⟩ := hlegible
  rw [hfields, forall_mem_singleton] at hlegible
  obtain ⟨hspace, hlength⟩ := hlegible
  obtain ⟨line, hline, hnewline, htext⟩ := exists_line hvalue field.lineEnd
  have hparts : dataParts ([] ++ stream) = [field.value ++ field.lineEnd.text] := by
    rw [nil_append, dataParts_of_dataFields, hfields, filterMap_cons, dataPart,
      if_pos ⟨hname, hspace, .inl hne⟩]
    rfl
  have hfound : (SseParser.new.processNewChunk (Utf8.encode (text stream))).1 = found [] stream :=
    processNewChunk_eq_found SseParser.new_atBoundary [] stream
  rw [Carries, hfound, eventData_found hlast (fun _ => rfl) (by rw [hparts]; exact Nat.le_refl 1),
    hparts]
  refine .cons ⟨line, field.value, hline, hnewline, ?_, hdecode⟩ .nil
  rw [hline, length_append, length_singleton] at hlength
  rw [cappedLine, if_pos (by omega), htext]

variable [DecidableEq ι]

namespace PostStreamWitness

def decode (text : Str) : Option (ServerMessage Nat Nat) :=
  if text = "ok" then some (.response 1 0)
  else if text = "note" then some (.notification 5)
  else none

def client : Client Nat Nat :=
  { decode
    handleError := fun _ => true
    maxLineLength := 16
    channelCapacity := 1
    channelCapacity_pos := by decide
    reconnect := fun _ => .error [] }

def dataBlock (space : Bool) (value : Str) (lineEnd : LineEnd) (hvalue : OneLine value)
    (hhead : value.head? ≠ some ' ') : Block where
  lines := [.known ⟨.data, space, value, lineEnd⟩]
  blank := .lf
  permitted := by
    intro line hline
    rw [mem_singleton.mp hline]
    exact ⟨hvalue, fun _ => hhead, by simp, by simp⟩
  once := by simp [Line.field?]

def okBlock (space : Bool) (lineEnd : LineEnd) : Block :=
  dataBlock space "ok" lineEnd ⟨by decide, by decide⟩ (by decide)

def noteBlock : Block :=
  dataBlock true "note" .lf ⟨by decide, by decide⟩ (by decide)

def loneChunks : List Bytes :=
  [Utf8.encode "data: o", Utf8.encode "k\r\n\n"]

def notedChunks : List Bytes :=
  [Utf8.encode "data: note\n\ndata: ok\n\n"]

def noted : List Action :=
  [.register, .registered, .serialize, .post, .chunk, .event, .event,
    .runReturns, .ack, .read 8, .read 8, .readLine, .receive, .readLine,
    .timeout, .finish]

def unspaced : List Action :=
  [.register, .registered, .serialize, .post, .chunk, .streamEnds, .ack]

theorem spells_noted :
    Spells client [noteBlock, okBlock true .lf] [.notification 5, .response 1 0] :=
  .cons ⟨by decide, by decide⟩ (.cons ⟨by decide, by decide⟩ .nil)

end PostStreamWitness

end McpSdk.PostStream
