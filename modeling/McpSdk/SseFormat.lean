/-
The event stream format and what `SseParser` makes of it. Line ends, the space
behind a colon, comments and unknown fields are the writer's choice; the parser
knows an empty line only by a line feed alone, and a field only with the space.
-/
import Mathlib.Data.List.Forall2
import McpSdk.SseParser

namespace McpSdk.SseFormat

open List Option
open MessageFields (addLine addData dataParts)
open RustStr (trim trim_concat stripStart trimEndMatches splitOnce_append)

inductive LineEnd where
  | lf
  | crlf
deriving Repr, DecidableEq

def LineEnd.text : LineEnd → Str
  | .lf => ['\n']
  | .crlf => ['\r', '\n']

inductive FieldName where
  | event
  | id
  | retry
  | data
deriving Repr, DecidableEq

def FieldName.text : FieldName → Str
  | .event => "event"
  | .id => "id"
  | .retry => "retry"
  | .data => "data"

def OneLine (text : Str) : Prop :=
  '\n' ∉ text ∧ '\r' ∉ text

structure Field where
  name : FieldName
  space : Bool
  value : Str
  lineEnd : LineEnd
deriving Repr, DecidableEq

/-- The part of a field's line behind the colon. -/
def Field.rest (self : Field) : Str :=
  (if self.space then [' '] else []) ++ (self.value ++ self.lineEnd.text)

def Field.text (self : Field) : Str :=
  self.name.text ++ ':' :: self.rest

/-- A leading space needs the space before it; an id has no NUL, and a retry
interval is a decimal `u64`. -/
structure Field.Permitted (field : Field) : Prop where
  oneLine : OneLine field.value
  unspaced : field.space = false → field.value.head? ≠ some ' '
  id : field.name = .id → '\x00' ∉ field.value
  retry : field.name = .retry → field.value ≠ [] ∧
    (∀ c ∈ field.value, c.isDigit = true) ∧ Nat.ofDigitChars 10 field.value 0 < Nat.pow 2 64

inductive Line where
  | known (field : Field)
  | comment (text : Str) (lineEnd : LineEnd)
  /-- A field of another name, with or without a colon and a value. -/
  | unknown (name : Str) (value : Option Str) (lineEnd : LineEnd)
deriving Repr, DecidableEq

def Line.text : Line → Str
  | .known field => field.text
  | .comment text lineEnd => ':' :: (text ++ lineEnd.text)
  | .unknown name value lineEnd =>
    name ++ (value.elim [] (':' :: ·) ++ lineEnd.text)

def Line.Permitted : Line → Prop
  | .known field => field.Permitted
  | .comment text _ => OneLine text
  | .unknown name value _ =>
    name ≠ [] ∧ OneLine name ∧ ':' ∉ name ∧
      (∀ fieldName : FieldName, name ≠ fieldName.text) ∧
      ∀ text ∈ value, OneLine text

def Line.field? : Line → Option Field
  | .known field => some field
  | _ => none

/-- Lines and the empty line behind them, with each field once at most. -/
structure Block where
  lines : List Line
  blank : LineEnd
  permitted : ∀ line ∈ lines, line.Permitted
  once : ((lines.filterMap Line.field?).map Field.name).Nodup

def Block.fields (self : Block) : List Field :=
  self.lines.filterMap Line.field?

def Block.text (self : Block) : Str :=
  (self.lines.map Line.text).flatten ++ self.blank.text

def text (stream : List Block) : Str :=
  stream.flatMap Block.text

def value (name : FieldName) (fields : List Field) : Option Str :=
  (fields.find? (·.name = name)).map Field.value

/-- The event that fields stand for; a block without fields stands for none. -/
def meaning (fields : List Field) : SseEvent where
  event := value .event fields
  data := (value .data fields).map Utf8.encode
  id := value .id fields
  retry := (value .retry fields).map fun digits => Nat.ofDigitChars 10 digits 0

def Block.event (self : Block) : Option SseEvent :=
  if self.fields = [] then none else some (meaning self.fields)

def events (stream : List Block) : List SseEvent :=
  stream.filterMap Block.event

def dropLineEnds (data : Bytes) : Bytes :=
  data.rdropWhile fun byte => byte = 10 ∨ byte = 13

/-- Equal events, with data equal up to line ends behind it. -/
structure SameEvent (read spelled : SseEvent) : Prop where
  event : read.event = spelled.event
  data : read.data.map dropLineEnds = spelled.data.map dropLineEnds
  id : read.id = spelled.id
  retry : read.retry = spelled.retry

def ReadsBack (stream : List Block) : Prop :=
  List.Forall₂ SameEvent
    (SseParser.new.processNewChunk (Utf8.encode (text stream))).1
    (events stream)

/-- A field that the parser reads as it is meant. -/
def Field.Plain (self : Field) : Prop :=
  self.space = true ∧
    match self.name with
    | .event | .id => trim self.value = self.value
    | .retry => True
    | .data => self.value ≠ [] ∨ self.lineEnd = .crlf

/-- The fields of a block that the parser reads as they are meant. -/
def Block.Plain (self : Block) : Prop :=
  ∀ field ∈ self.fields, field.Plain

/-- Between two empty lines of a line feed alone is at most one event, and none
behind the last; `count` is the number since then. -/
def Separated (count : Nat) : List Block → Prop
  | [] => count = 0
  | block :: rest =>
    let count := count + block.event.toList.length
    match block.blank with
    | .lf => count ≤ 1 ∧ Separated 0 rest
    | .crlf => Separated count rest

theorem LineEnd.text_isLine {body : Str} (hbody : '\n' ∉ body)
    (lineEnd : LineEnd) : LineSplit.IsLine '\n' (body ++ lineEnd.text) := by
  cases lineEnd with
  | lf => exact ⟨body, hbody, rfl⟩
  | crlf =>
    refine ⟨body ++ ['\r'], ?_, by simp [LineEnd.text]⟩
    simp [hbody]

theorem LineEnd.trim_append (value : Str) (lineEnd : LineEnd) :
    trim (value ++ lineEnd.text) = trim value := by
  cases lineEnd with
  | lf => exact trim_concat value (by decide)
  | crlf =>
    have hsplit : value ++ LineEnd.crlf.text = value ++ ['\r'] ++ ['\n'] := by
      simp [LineEnd.text]
    rw [hsplit, trim_concat _ (by decide), trim_concat _ (by decide)]

theorem FieldName.newline_not_mem (name : FieldName) : '\n' ∉ name.text := by
  cases name with
  | event | id | retry | data => decide

theorem Line.Permitted.exists_body {line : Line} (hline : line.Permitted) :
    ∃ (body : Str) (lineEnd : LineEnd), '\n' ∉ body ∧ body ≠ [] ∧
      line.text = body ++ lineEnd.text := by
  cases line with
  | known field =>
    refine ⟨field.name.text ++ ':' ::
      ((if field.space then [' '] else []) ++ field.value), field.lineEnd,
      ?_, by simp, by simp [Line.text, Field.text, Field.rest]⟩
    have hfield : field.Permitted := hline
    have hvalue := hfield.oneLine.1
    have hname := field.name.newline_not_mem
    cases field.space with
    | true | false => simp [hname, hvalue]
  | comment text lineEnd =>
    exact ⟨':' :: text, lineEnd, by simp [hline.1], by simp, rfl⟩
  | unknown name value lineEnd =>
    obtain ⟨hne, hname, -, -, hvalue⟩ := hline
    refine ⟨name ++ value.elim [] (':' :: ·), lineEnd, ?_, by simp [hne], by simp [Line.text]⟩
    cases value with
    | none => simpa using hname.1
    | some text => simp [hname.1, (hvalue text rfl).1]

theorem Line.Permitted.isLine {line : Line} (hline : line.Permitted) :
    LineSplit.IsLine '\n' line.text ∧ line.text ≠ ['\n'] := by
  obtain ⟨body, lineEnd, hbody, hne, htext⟩ := hline.exists_body
  rw [htext]
  refine ⟨LineEnd.text_isLine hbody lineEnd, ?_⟩
  intro heq
  have hlength := congrArg List.length heq
  have hpos := length_pos_iff.mpr hne
  cases lineEnd with
  | lf => simp [LineEnd.text, hne] at heq
  | crlf => simp [LineEnd.text] at hlength

theorem stripStart_eq_none {start line : Str} (hnot : ¬ start <+: line) :
    stripStart start line = none := by
  rw [stripStart, if_neg]
  rwa [List.isPrefixOf_iff_prefix]

variable (self : MessageFields) (blocks : List Block)

theorem addLine_skip {line : Str}
    (hstrip : ∀ name : FieldName, ¬ name.text ++ [':', ' '] <+: line)
    (hdata : ¬ "data:" <+: line) : self.addLine line = self := by
  have hbare : ¬ (trimEndMatches '\n' line = "data:" ∨
      ((trimEndMatches '\n' line).isEmpty ∧
        "data:".toList.isPrefixOf line)) := by
    rintro (heq | ⟨-, hprefix⟩)
    · apply hdata
      rw [← heq]
      exact List.rdropWhile_prefix _ _
    · exact hdata (List.isPrefixOf_iff_prefix.mp hprefix)
  have hvalue : stripStart "data: " line = none := stripStart_eq_none (hstrip .data)
  have hevent : stripStart "event: " line = none := stripStart_eq_none (hstrip .event)
  have hid : stripStart "id: " line = none := stripStart_eq_none (hstrip .id)
  have hretry : stripStart "retry: " line = none := stripStart_eq_none (hstrip .retry)
  by_cases hcomment : line.isEmpty ∨ line.head? = some ':'
  · rw [addLine, if_pos hcomment]
  · rw [addLine, if_neg hcomment, hvalue]
    simp only [if_neg hbare, hevent, hid, hretry]

theorem addLine_of_not_field {line : Str}
    (hnot : ∀ name : FieldName, ¬ name.text ++ [':'] <+: line) : self.addLine line = self := by
  apply addLine_skip self _ (hnot .data)
  intro name hprefix
  exact hnot name ((List.prefix_append _ [' ']).trans (by simpa using hprefix))

theorem FieldName.colon_not_mem (name : FieldName) : ':' ∉ name.text := by
  cases name with
  | event | id | retry | data => decide

theorem not_field_of_field?_none {line : Line} (hline : line.Permitted)
    (hnone : line.field? = none) (name : FieldName) : ¬ name.text ++ [':'] <+: line.text := by
  rintro ⟨rest, hrest⟩
  have hsplit : RustStr.splitOnce ':' line.text = some (name.text, rest) := by
    rw [← hrest, append_assoc]
    exact splitOnce_append name.colon_not_mem rest
  cases line with
  | known field => cases hnone
  | comment text lineEnd =>
    have hown := @splitOnce_append ':' [] (by simp) (text ++ lineEnd.text)
    have hname : [] = name.text := congrArg Prod.fst (Option.some.inj (hown.symm.trans hsplit))
    revert hname
    cases name <;> decide
  | unknown other value lineEnd =>
    obtain ⟨-, -, hcolon, hother, -⟩ := hline
    cases value with
    | none =>
      rw [RustStr.splitOnce_of_not_mem] at hsplit
      · cases hsplit
      · cases lineEnd with
        | lf | crlf => simp [Line.text, LineEnd.text, hcolon]
    | some text =>
      have hown := splitOnce_append hcolon (text ++ lineEnd.text)
      cases hown.symm.trans hsplit
      exact hother name rfl

/-- What a field adds; without the space, only that a data line was seen. -/
def Field.read (self : MessageFields) (field : Field) : MessageFields :=
  if field.space then
    match field.name with
    | .event => { self with event := some (trim field.value) }
    | .id => { self with id := some (trim field.value) }
    | .retry => { self with retry := some (trim field.value) }
    | .data => self.addData (field.value ++ field.lineEnd.text)
  else if field.name = .data ∧ field.value = [] ∧ field.lineEnd = .lf then
    { self with sawDataLine := true }
  else self

variable {field : Field}

theorem addLine_spaced (hspace : field.space = true) :
    self.addLine field.text = field.read self := by
  obtain ⟨name, space, value, lineEnd⟩ := field
  cases hspace
  cases name with
  | event =>
    refine (self.addLine_event (value ++ lineEnd.text)).trans ?_
    rw [lineEnd.trim_append]
    rfl
  | id =>
    refine (self.addLine_id (value ++ lineEnd.text)).trans ?_
    rw [lineEnd.trim_append]
    rfl
  | retry =>
    refine (self.addLine_retry (value ++ lineEnd.text)).trans ?_
    rw [lineEnd.trim_append]
    rfl
  | data => exact self.addLine_data (value ++ lineEnd.text)

theorem Field.Permitted.rest_head (hfield : field.Permitted)
    (hspace : field.space = false) : ¬ [' '] <+: field.rest := by
  have hvalue := hfield.unspaced hspace
  rw [Field.rest, hspace]
  cases hhead : field.value with
  | nil =>
    cases field.lineEnd with
    | lf | crlf => decide
  | cons c value =>
    rw [hhead] at hvalue
    simpa [eq_comm] using hvalue

theorem not_prefix_unspaced {name rest : Str} (hrest : ¬ [' '] <+: rest) :
    ¬ name ++ [':', ' '] <+: name ++ ':' :: rest := by
  intro hprefix
  apply hrest
  rw [List.prefix_append_right_inj, List.cons_prefix_cons] at hprefix
  exact hprefix.2

theorem FieldName.not_prefix {name other : FieldName} (hne : other ≠ name) (start rest : Str) :
    ¬ other.text ++ ':' :: start <+: name.text ++ ':' :: rest := by
  rintro ⟨tail, htail⟩
  have hother := splitOnce_append other.colon_not_mem (start ++ tail)
  have hname := splitOnce_append name.colon_not_mem rest
  rw [← htail, append_assoc, cons_append] at hname
  have hsame : other.text = name.text :=
    congrArg Prod.fst (Option.some.inj (hother.symm.trans hname))
  revert hne hsame
  cases other <;> cases name <;> decide

/-- The form of a data line without a value that the parser accepts. -/
theorem trimEndMatches_data {value : Str} (hvalue : '\n' ∉ value) (lineEnd : LineEnd) :
    trimEndMatches '\n' ("data:" ++ (value ++ lineEnd.text)) =
        "data:" ↔ value = [] ∧ lineEnd = .lf := by
  cases lineEnd with
  | lf =>
    have hbody : '\n' ∉ "data:" ++ value := by
      rw [mem_append, not_or]
      exact ⟨by decide, hvalue⟩
    rw [LineEnd.text, ← append_assoc, RustStr.trimEndMatches_concat_self hbody]
    simp
  | crlf =>
    have hbody : '\n' ∉ "data:" ++ (value ++ ['\r']) := by
      rw [mem_append, mem_append, not_or, not_or]
      exact ⟨by decide, hvalue, by decide⟩
    have hsplit : "data:" ++ (value ++ LineEnd.crlf.text) =
        "data:" ++ (value ++ ['\r']) ++ ['\n'] := by
      simp [LineEnd.text]
    rw [hsplit, RustStr.trimEndMatches_concat_self hbody]
    simp

theorem addLine_data_unspaced {value : Str} (hvalue : '\n' ∉ value)
    (lineEnd : LineEnd) (hspace : ¬ [' '] <+: value ++ lineEnd.text) :
    self.addLine ("data:" ++ (value ++ lineEnd.text)) =
      if value = [] ∧ lineEnd = .lf then { self with sawDataLine := true }
      else self := by
  have hstrip : stripStart "data: "
      ("data:" ++ (value ++ lineEnd.text)) = none :=
    stripStart_eq_none (@not_prefix_unspaced "data" _ hspace)
  have hevent : stripStart "event: " ("data:" ++ (value ++ lineEnd.text)) = none := rfl
  have hid : stripStart "id: " ("data:" ++ (value ++ lineEnd.text)) = none := rfl
  have hretry : stripStart "retry: " ("data:" ++ (value ++ lineEnd.text)) = none := rfl
  have hfull : (trimEndMatches '\n'
      ("data:" ++ (value ++ lineEnd.text))).isEmpty = false := by
    rw [isEmpty_eq_false_iff, trimEndMatches, ne_eq, rdropWhile_eq_nil_iff]
    intro hall
    exact absurd (hall 'd' mem_cons_self) (by decide)
  rw [addLine, if_neg (by simp), hstrip]
  simp only [hfull, trimEndMatches_data hvalue, hevent, hid, hretry,
    Bool.false_eq_true, false_and, or_false]
  rfl

theorem addLine_unspaced (hfield : field.Permitted) (hspace : field.space = false) :
    self.addLine field.text = field.read self := by
  have hrest := hfield.rest_head hspace
  by_cases hdata : field.name = .data
  · have hvalue := hfield.oneLine.1
    obtain ⟨name, space, value, lineEnd⟩ := field
    cases hspace
    cases hdata
    refine (addLine_data_unspaced self hvalue lineEnd hrest).trans ?_
    simp [Field.read]
  · have hread : field.read self = self := by
      simp [Field.read, hspace, hdata]
    rw [hread]
    apply addLine_skip
    · intro other
      by_cases hother : other = field.name
      · subst hother
        exact not_prefix_unspaced hrest
      · exact FieldName.not_prefix hother [' '] _
    · exact FieldName.not_prefix (Ne.symm hdata) [] _

theorem addLine_field (hfield : field.Permitted) : self.addLine field.text = field.read self := by
  cases hspace : field.space with
  | true => exact addLine_spaced self hspace
  | false => exact addLine_unspaced self hfield hspace

theorem addLine_crlf : self.addLine LineEnd.crlf.text = self := by
  apply addLine_of_not_field
  intro name
  cases name with
  | event | id | retry | data => decide

theorem foldl_addLine_lines {lines : List Line} (hlines : ∀ line ∈ lines, line.Permitted) :
    (lines.map Line.text).foldl addLine self =
      (lines.filterMap Line.field?).foldl Field.read self := by
  induction lines generalizing self with
  | nil => rfl
  | cons line lines ih =>
    have hline := hlines line mem_cons_self
    have hrest : ∀ other ∈ lines, other.Permitted := fun other hother =>
      hlines other (mem_cons_of_mem line hother)
    rw [map_cons, foldl_cons, ih _ hrest, filterMap_cons]
    cases hfield : line.field? with
    | none =>
      rw [addLine_of_not_field self (not_field_of_field?_none hline hfield)]
    | some field =>
      cases line with
      | known own =>
        cases hfield
        rw [Line.text, addLine_field self hline, foldl_cons]
      | comment | unknown => cases hfield

/-- The lines of blocks whose empty lines the parser does not see. -/
def openLines (blocks : List Block) : List Str :=
  blocks.flatMap fun block =>
    block.lines.map Line.text ++ [LineEnd.crlf.text]

theorem foldl_addLine_openLines :
    (openLines blocks).foldl addLine self =
      (blocks.flatMap Block.fields).foldl Field.read self := by
  induction blocks generalizing self with
  | nil => rfl
  | cons block blocks ih =>
    rw [openLines, flatMap_cons, foldl_append, foldl_append,
      foldl_addLine_lines self block.permitted, foldl_cons, addLine_crlf,
      foldl_nil, flatMap_cons, foldl_append]
    exact ih _

/-- The event that the parser makes of fields, all in one message. -/
def parsed (fields : List Field) : Option SseEvent :=
  let read := fields.foldl Field.read MessageFields.empty
  if read.data.isNone ∧ read.id.isNone ∧ read.retryInterval.isNone ∧
      read.event.isNone ∧ read.sawDataLine = false then none
  else some ⟨read.event, read.data, read.id, read.retryInterval⟩

theorem parseSseMessage_blocks (block : Block) :
    SseParser.parseSseMessage ((openLines blocks ++ block.lines.map Line.text).map Utf8.encode) =
      parsed ((blocks ++ [block]).flatMap Block.fields) := by
  rw [SseParser.parseSseMessage_encode, foldl_append,
    foldl_addLine_openLines, foldl_addLine_lines _ block.permitted,
    flatMap_append, parsed, foldl_append]
  simp [Block.fields]

/-- What the parser finds behind blocks whose empty lines it has not seen. -/
def found (blocks : List Block) : List Block → List SseEvent
  | [] => []
  | block :: rest =>
    match block.blank with
    | .lf =>
      (parsed ((blocks ++ [block]).flatMap Block.fields)).toList ++ found [] rest
    | .crlf => found (blocks ++ [block]) rest

theorem openLines_isLine {lines : List Line} (hlines : ∀ line ∈ lines, line.Permitted) :
    ∀ text ∈ openLines blocks ++ lines.map Line.text,
      LineSplit.IsLine '\n' text ∧ text ≠ ['\n'] := by
  have hmap : ∀ {lines : List Line}, (∀ line ∈ lines, line.Permitted) →
      ∀ text ∈ lines.map Line.text,
        LineSplit.IsLine '\n' text ∧ text ≠ ['\n'] := by
    intro lines hlines text htext
    obtain ⟨line, hline, rfl⟩ := mem_map.mp htext
    exact (hlines line hline).isLine
  intro text htext
  rcases mem_append.mp htext with hopen | hlast
  · obtain ⟨block, -, hblock⟩ := mem_flatMap.mp hopen
    rcases mem_append.mp hblock with hline | hblank
    · exact hmap block.permitted text hline
    · rw [mem_singleton.mp hblank]
      exact ⟨⟨['\r'], by decide, rfl⟩, by decide⟩
  · exact hmap hlines text hlast

theorem encode_isLine {texts : List Str}
    (htexts : ∀ text ∈ texts, LineSplit.IsLine '\n' text ∧ text ≠ ['\n']) :
    (∀ line ∈ texts.map Utf8.encode, LineSplit.IsLine newline line) ∧
      ∀ line ∈ texts.map Utf8.encode, line ≠ [newline] := by
  constructor
  · intro line hline
    obtain ⟨text, htext, rfl⟩ := mem_map.mp hline
    exact isLine_encode (htexts text htext).1
  · intro line hline heq
    obtain ⟨text, htext, rfl⟩ := mem_map.mp hline
    apply (htexts text htext).2
    have hdecode := congrArg Utf8.decodeLossy heq
    rw [Utf8.decodeLossy_encode] at hdecode
    exact hdecode

theorem processNewChunk_eq_found {parser : SseParser}
    (hparser : parser.AtBoundary) (blocks stream : List Block) :
    (parser.processNewChunk (Utf8.encode ((openLines blocks).flatten ++ text stream))).1 =
        found blocks stream := by
  induction stream generalizing parser blocks with
  | nil =>
    have hlines := openLines_isLine blocks (show ∀ line ∈ ([] : List Line), line.Permitted by simp)
    rw [map_nil, append_nil] at hlines
    obtain ⟨hline, hfull⟩ := encode_isLine hlines
    rw [text, flatMap_nil, append_nil, Utf8.encode_flatten]
    exact hparser.processNewChunk_open hline hfull
  | cons block rest ih =>
    cases hblank : block.blank with
    | lf =>
      obtain ⟨hline, hfull⟩ := encode_isLine (openLines_isLine blocks block.permitted)
      have hsplit : Utf8.encode ((openLines blocks).flatten ++
          text (block :: rest)) =
            (((openLines blocks ++ block.lines.map Line.text).map
              Utf8.encode).flatten ++ [newline]) ++
                Utf8.encode (text rest) := by
        rw [← Utf8.encode_flatten]
        have hnewline : [newline] = Utf8.encode ['\n'] := rfl
        rw [hnewline, ← Utf8.encode_append, ← Utf8.encode_append]
        simp [text, Block.text, hblank, LineEnd.text]
      rw [hsplit, SseParser.processNewChunk_append,
        hparser.processNewChunk hline hfull, parseSseMessage_blocks, found, hblank]
      exact congrArg _ (ih (.inr rfl) [])
    | crlf =>
      have hsplit : (openLines blocks).flatten ++ text (block :: rest) =
          (openLines (blocks ++ [block])).flatten ++ text rest := by
        simp [text, Block.text, hblank, openLines]
      rw [hsplit, ih hparser, found, hblank]

theorem foldl_read_find {β : Type} {part : MessageFields → β} {act : Field → β → β}
    {name : FieldName}
    (hread : ∀ (self : MessageFields) (field : Field), part (field.read self) = if field.name =
      name then act field (part self) else part self)
    {fields : List Field} (hnodup : (fields.map Field.name).Nodup) (self : MessageFields) :
    part (fields.foldl Field.read self) =
      (fields.find? (·.name = name)).elim (part self)
        fun field => act field (part self) := by
  induction fields generalizing self with
  | nil => rfl
  | cons field fields ih =>
    rw [map_cons, nodup_cons] at hnodup
    rw [foldl_cons, ih hnodup.2, hread]
    by_cases hname : field.name = name
    · have hnone : fields.find? (·.name = name) = none := by
        rw [find?_eq_none]
        intro other hother heq
        apply hnodup.1
        rw [hname, ← of_decide_eq_true heq]
        exact mem_map_of_mem hother
      simp [hnone, hname]
    · simp [hname]

def readAll (fields : List Field) : MessageFields :=
  fields.foldl Field.read MessageFields.empty

/-- The text that has been read for a field other than the data. -/
def textOf (self : MessageFields) : FieldName → Option Str
  | .event => self.event
  | .id => self.id
  | .retry => self.retry
  | .data => none

theorem textOf_read {name : FieldName} (hname : name ≠ .data)
    (self : MessageFields) (field : Field) :
    textOf (field.read self) name =
      if field.name = name then
        if field.space then some (trim field.value)
        else textOf self name
      else textOf self name := by
  obtain ⟨other, space, value, lineEnd⟩ := field
  cases space with
  | true =>
    cases other with
    | event | id | retry => cases name <;> rfl
    | data =>
      cases name with
      | data => exact absurd rfl hname
      | event | id | retry => rfl
  | false =>
    have hsame : textOf (Field.read self ⟨other, false, value, lineEnd⟩)
        name = textOf self name := by
      simp only [Field.read, Bool.false_eq_true, if_false]
      split
      · cases name <;> rfl
      · rfl
    simp [hsame]

theorem dataParts_read (field : Field) :
    (field.read self).dataParts =
      if field.name = .data then
        if field.space = true ∧ (field.value ≠ [] ∨ field.lineEnd = .crlf) then
          self.dataParts ++ [field.value ++ field.lineEnd.text]
        else self.dataParts
      else self.dataParts := by
  obtain ⟨name, space, value, lineEnd⟩ := field
  cases space with
  | true =>
    cases name with
    | event | id | retry => rfl
    | data =>
      cases lineEnd with
      | lf => simp [Field.read, addData, LineEnd.text]
      | crlf =>
        have hne : value ++ ['\r', '\n'] ≠ ['\n'] := by
          intro heq
          have hlength := congrArg List.length heq
          simp at hlength
        simp [Field.read, addData, LineEnd.text, hne]
  | false =>
    simp only [Field.read, Bool.false_eq_true, if_false, false_and, ite_self]
    split
    · rfl
    · rfl

section ReadAll

variable {fields : List Field} (hnodup : (fields.map Field.name).Nodup)
include hnodup

theorem textOf_readAll {name : FieldName} (hname : name ≠ .data) :
    textOf (readAll fields) name =
      (fields.find? (·.name = name)).bind fun field =>
        if field.space then some (trim field.value) else none := by
  have hnone : textOf MessageFields.empty name = none := by
    cases name <;> rfl
  rw [readAll, @foldl_read_find _ (textOf · name) (fun field old =>
    if field.space then some (trim field.value) else old) name
      (textOf_read hname) fields hnodup, hnone]
  cases fields.find? (·.name = name) with
  | none | some => rfl

theorem dataParts_readAll : (readAll fields).dataParts =
    (fields.find? (·.name = .data)).elim [] fun field =>
      if field.space = true ∧ (field.value ≠ [] ∨ field.lineEnd = .crlf) then
        [field.value ++ field.lineEnd.text]
      else [] := by
  rw [readAll, @foldl_read_find _ dataParts (fun field parts =>
    if field.space = true ∧ (field.value ≠ [] ∨ field.lineEnd = .crlf) then
      parts ++ [field.value ++ field.lineEnd.text]
    else parts) .data dataParts_read fields hnodup]
  rfl

theorem find?_eq_some_iff {field : Field} :
    fields.find? (·.name = field.name) = some field ↔ field ∈ fields := by
  constructor
  · exact mem_of_find?_eq_some
  · intro hfield
    induction fields with
    | nil => cases hfield
    | cons head tail ih =>
      rw [map_cons, nodup_cons] at hnodup
      rcases mem_cons.mp hfield with rfl | htail
      · simp
      · have hne : head.name ≠ field.name := by
          intro heq
          apply hnodup.1
          rw [heq]
          exact mem_map_of_mem htail
        rw [find?_cons_of_neg (by simpa using hne)]
        exact ih hnodup.2 htail

end ReadAll

theorem dropLineEnds_encode {value : Str} (hvalue : OneLine value) (lineEnd : LineEnd) :
    dropLineEnds (Utf8.encode value ++ Utf8.encode lineEnd.text) = Utf8.encode value ∧
      dropLineEnds (Utf8.encode value) = Utf8.encode value := by
  have hkeep : dropLineEnds (Utf8.encode value) = Utf8.encode value := by
    rw [dropLineEnds, rdropWhile_eq_self_iff]
    intro hne hlast
    have hmem := getLast_mem hne
    rcases of_decide_eq_true hlast with heq | heq
    · rw [heq] at hmem
      exact Utf8.ascii_not_mem_encode (by decide) (by decide) hvalue.1 hmem
    · rw [heq] at hmem
      exact Utf8.ascii_not_mem_encode (by decide) (by decide) hvalue.2 hmem
  refine ⟨?_, hkeep⟩
  cases lineEnd with
  | lf =>
    have hbytes : Utf8.encode LineEnd.lf.text = [10] := by decide
    rw [hbytes, dropLineEnds, rdropWhile_concat_pos _ _ _ (by decide)]
    exact hkeep
  | crlf =>
    have hbytes : Utf8.encode LineEnd.crlf.text = [13] ++ [10] := by decide
    rw [hbytes, ← append_assoc, dropLineEnds,
      rdropWhile_concat_pos _ _ _ (by decide),
      rdropWhile_concat_pos _ _ _ (by decide)]
    exact hkeep

def readEvent (fields : List Field) : SseEvent :=
  ⟨(readAll fields).event, (readAll fields).data, (readAll fields).id,
    (readAll fields).retryInterval⟩

section SameEvent

variable {fields : List Field} (hnodup : (fields.map Field.name).Nodup)
include hnodup

theorem forall_named_iff (name : FieldName) :
    (∀ field ∈ fields, field.name = name → field.Plain) ↔
      ∀ field, fields.find? (·.name = name) = some field → field.Plain := by
  constructor
  · intro hall field hfind
    exact hall field (mem_of_find?_eq_some hfind) (by simpa using find?_some hfind)
  · intro hall field hfield hname
    subst hname
    exact hall field ((find?_eq_some_iff hnodup).mpr hfield)

/-- An event name or an id is read as it is meant. -/
theorem textOf_eq_value_iff {name : FieldName} (hname : name = .event ∨ name = .id) :
    textOf (readAll fields) name = value name fields ↔
      ∀ field ∈ fields, field.name = name → field.Plain := by
  have hdata : name ≠ .data := by
    rcases hname with rfl | rfl
    · decide
    · decide
  rw [textOf_readAll hnodup hdata, forall_named_iff hnodup, value]
  cases hfind : fields.find? (·.name = name) with
  | none => simp
  | some found =>
    have hfound : found.name = name := by
      simpa using find?_some hfind
    have hplain : found.Plain ↔
        found.space = true ∧ trim found.value = found.value := by
      unfold Field.Plain
      rcases hname with rfl | rfl
      · rw [hfound]
      · rw [hfound]
    cases hspace : found.space with
    | true | false => simp [hplain, hspace]

theorem retryInterval_eq_iff (hpermitted : ∀ field ∈ fields, field.Permitted) :
    (readAll fields).retryInterval = (meaning fields).retry ↔
      ∀ field ∈ fields, field.name = .retry → field.Plain := by
  have htext : (readAll fields).retry = _ := @textOf_readAll _ hnodup .retry (by decide)
  rw [MessageFields.retryInterval, htext, forall_named_iff hnodup]
  simp only [meaning, value]
  cases hfind : fields.find? (·.name = .retry) with
  | none => simp
  | some found =>
    have hfound : found.name = .retry := by
      simpa using find?_some hfind
    have hplain : found.Plain ↔ found.space = true := by
      rw [Field.Plain, hfound]
      exact and_iff_left trivial
    obtain ⟨hne, hdigits, hbound⟩ := (hpermitted found (mem_of_find?_eq_some hfind)).retry hfound
    have hparse := RustStr.parseUnsigned_of_isDigit hne hdigits hbound
    cases hspace : found.space with
    | true =>
      simp [hplain, hspace, RustStr.trim_of_isDigit hdigits, hparse, Except.toOption]
    | false => simp [hplain, hspace]

theorem data_eq_iff (hpermitted : ∀ field ∈ fields, field.Permitted) :
    (readAll fields).data.map dropLineEnds = (meaning fields).data.map dropLineEnds ↔
      ∀ field ∈ fields, field.name = .data → field.Plain := by
  rw [MessageFields.data, dataParts_readAll hnodup, forall_named_iff hnodup]
  simp only [meaning, value]
  cases hfind : fields.find? (·.name = .data) with
  | none => simp
  | some found =>
    have hfound : found.name = .data := by
      simpa using find?_some hfind
    have hplain : found.Plain ↔ found.space = true ∧
        (found.value ≠ [] ∨ found.lineEnd = .crlf) := by
      rw [Field.Plain, hfound]
    have hvalue := (hpermitted found (mem_of_find?_eq_some hfind)).oneLine
    obtain ⟨hdrop, hkeep⟩ := dropLineEnds_encode hvalue found.lineEnd
    by_cases hread : found.space = true ∧ (found.value ≠ [] ∨ found.lineEnd = .crlf)
    · rw [elim_some, if_pos hread]
      simp [hplain, hread, hdrop, hkeep]
    · rw [elim_some, if_neg hread]
      simp [hplain, hread]

theorem sameEvent_readEvent_iff (hpermitted : ∀ field ∈ fields, field.Permitted) :
    SameEvent (readEvent fields) (meaning fields) ↔ ∀ field ∈ fields, field.Plain := by
  have hevent : (readEvent fields).event = (meaning fields).event ↔ _ :=
    textOf_eq_value_iff hnodup (.inl rfl)
  have hid : (readEvent fields).id = (meaning fields).id ↔ _ :=
    textOf_eq_value_iff hnodup (.inr rfl)
  have hretry := retryInterval_eq_iff hnodup hpermitted
  have hdata := data_eq_iff hnodup hpermitted
  constructor
  · intro hsame field hfield
    cases hname : field.name with
    | event => exact hevent.mp hsame.event field hfield hname
    | id => exact hid.mp hsame.id field hfield hname
    | retry => exact hretry.mp hsame.retry field hfield hname
    | data => exact hdata.mp hsame.data field hfield hname
  · intro hplain
    exact ⟨hevent.mpr fun field hfield _ => hplain field hfield,
      hdata.mpr fun field hfield _ => hplain field hfield,
      hid.mpr fun field hfield _ => hplain field hfield,
      hretry.mpr fun field hfield _ => hplain field hfield⟩

theorem meaning_ne_empty (hne : fields ≠ []) :
    ¬ ((meaning fields).event = none ∧ (meaning fields).data = none ∧
      (meaning fields).id = none ∧ (meaning fields).retry = none) := by
  obtain ⟨field, hfield⟩ := exists_mem_of_ne_nil _ hne
  have hvalue : value field.name fields = some field.value := by
    rw [value, (find?_eq_some_iff hnodup).mpr hfield, map_some]
  rintro ⟨hevent, hdata, hid, hretry⟩
  cases hname : field.name with
  | event =>
    rw [hname] at hvalue
    cases hevent.symm.trans hvalue
  | id =>
    rw [hname] at hvalue
    cases hid.symm.trans hvalue
  | retry => simp [meaning, ← hname, hvalue] at hretry
  | data => simp [meaning, ← hname, hvalue] at hdata

/-- Fields give the event they stand for exactly when all of them are plain. -/
theorem parsed_iff (hpermitted : ∀ field ∈ fields, field.Permitted) (hne : fields ≠ []) :
    (∃ event, parsed fields = some event ∧ SameEvent event (meaning fields)) ↔
      ∀ field ∈ fields, field.Plain := by
  rw [← sameEvent_readEvent_iff hnodup hpermitted]
  constructor
  · rintro ⟨event, hparsed, hsame⟩
    simp only [parsed] at hparsed
    split at hparsed
    · cases hparsed
    · cases hparsed
      exact hsame
  · intro hsame
    refine ⟨readEvent fields, ?_, hsame⟩
    simp only [parsed]
    rw [if_neg]
    · rfl
    · rintro ⟨hdata, hid, hretry, hevent, -⟩
      apply meaning_ne_empty hnodup hne
      refine ⟨?_, ?_, ?_, ?_⟩
      · exact hsame.event.symm.trans (isNone_iff_eq_none.mp hevent)
      · have hnone := hsame.data.symm.trans (congrArg (Option.map dropLineEnds)
          (isNone_iff_eq_none.mp hdata))
        exact map_eq_none_iff.mp hnone
      · exact hsame.id.symm.trans (isNone_iff_eq_none.mp hid)
      · exact hsame.retry.symm.trans (isNone_iff_eq_none.mp hretry)

end SameEvent

theorem events_append (left right : List Block) :
    events (left ++ right) = events left ++ events right :=
  filterMap_append

theorem events_singleton (block : Block) : events [block] = block.event.toList := by
  rw [events, filterMap_cons]
  cases block.event with
  | none | some => rfl

theorem fields_permitted {blocks : List Block} :
    ∀ field ∈ blocks.flatMap Block.fields, field.Permitted := by
  intro field hfield
  obtain ⟨block, -, hmem⟩ := mem_flatMap.mp hfield
  obtain ⟨line, hline, hline'⟩ := mem_filterMap.mp hmem
  have hpermitted := block.permitted line hline
  cases line with
  | known own =>
    cases hline'
    exact hpermitted
  | comment | unknown => cases hline'

theorem fields_eq_nil_of_events {blocks : List Block}
    (hevents : events blocks = []) : blocks.flatMap Block.fields = [] := by
  rw [flatMap_eq_nil_iff]
  intro block hblock
  have hnone := filterMap_eq_nil_iff.mp hevents block hblock
  by_contra hne
  simp [Block.event, hne] at hnone

theorem fields_of_events {blocks : List Block} {event : SseEvent}
    (hevents : events blocks = [event]) :
    blocks.flatMap Block.fields ≠ [] ∧ ((blocks.flatMap Block.fields).map Field.name).Nodup ∧
        event = meaning (blocks.flatMap Block.fields) := by
  induction blocks with
  | nil => cases hevents
  | cons block blocks ih =>
    rw [flatMap_cons]
    by_cases hfields : block.fields = []
    · have hnone : block.event = none := if_pos hfields
      rw [hfields, nil_append]
      apply ih
      rwa [events, filterMap_cons_none hnone] at hevents
    · have hsome : block.event = some (meaning block.fields) := if_neg hfields
      rw [events, filterMap_cons_some hsome, cons.injEq] at hevents
      rw [fields_eq_nil_of_events hevents.2, append_nil]
      exact ⟨hfields, block.once, hevents.1.symm⟩

theorem parsed_nil : parsed [] = none :=
  rfl

theorem length_parsed_le :
    (parsed (blocks.flatMap Block.fields)).toList.length ≤ (events blocks).length := by
  cases hevents : events blocks with
  | nil =>
    rw [fields_eq_nil_of_events hevents, parsed_nil]
    exact Nat.le_refl _
  | cons event rest =>
    exact Nat.le_trans length_toList_le (by simp)

theorem length_found_le (stream : List Block) :
    (found blocks stream).length ≤ (events (blocks ++ stream)).length := by
  induction stream generalizing blocks with
  | nil => exact Nat.zero_le _
  | cons block rest ih =>
    rw [found, append_cons blocks block rest]
    cases block.blank with
    | lf =>
      have hgroup := length_parsed_le (blocks ++ [block])
      have hrest := ih []
      rw [nil_append] at hrest
      rw [events_append, length_append, length_append]
      omega
    | crlf => exact ih (blocks ++ [block])

theorem plain_iff_fields :
    (∀ block ∈ blocks, block.Plain) ↔ ∀ field ∈ blocks.flatMap Block.fields, field.Plain := by
  simp only [Block.Plain, mem_flatMap]
  constructor
  · rintro hall field ⟨block, hblock, hfield⟩
    exact hall block hblock field hfield
  · intro hall block hblock field hfield
    exact hall field ⟨block, hblock, hfield⟩

/-- Where blocks run together and one event is meant. -/
theorem forall₂_group_iff {blocks : List Block} {event : SseEvent}
    (hevents : events blocks = [event]) {later spelled : List SseEvent}
    (hlater : later.length ≤ spelled.length) :
    List.Forall₂ SameEvent ((parsed (blocks.flatMap Block.fields)).toList ++ later)
        (event :: spelled) ↔ (∀ block ∈ blocks, block.Plain) ∧
        List.Forall₂ SameEvent later spelled := by
  obtain ⟨hne, hnodup, rfl⟩ := fields_of_events hevents
  rw [plain_iff_fields, ← parsed_iff hnodup fields_permitted hne]
  cases parsed (blocks.flatMap Block.fields) with
  | none =>
    refine iff_of_false ?_ (by simp)
    intro hsame
    have hlength := hsame.length_eq
    simp only [toList_none, nil_append, length_cons] at hlength
    omega
  | some read => simp

/-- The parser finds what is spelt exactly when the stream is separated and its
fields are plain. -/
theorem forall₂_found_iff (stream : List Block) :
    List.Forall₂ SameEvent (found blocks stream) (events (blocks ++ stream)) ↔
      Separated (events blocks).length stream ∧ ∀ block ∈ blocks ++ stream, block.Plain := by
  induction stream generalizing blocks with
  | nil =>
    rw [found, Separated, append_nil, List.forall₂_nil_left_iff,
      length_eq_zero_iff, plain_iff_fields]
    refine (and_iff_left_of_imp fun hevents => ?_).symm
    rw [fields_eq_nil_of_events hevents]
    simp
  | cons block rest ih =>
    have hcount : (events blocks).length + block.event.toList.length =
        (events (blocks ++ [block])).length := by
      rw [events_append, events_singleton, length_append]
    rw [found, append_cons blocks block rest, Separated]
    simp only [hcount]
    cases block.blank with
    | crlf => exact ih (blocks ++ [block])
    | lf =>
      have hrest : List.Forall₂ SameEvent (found [] rest) (events rest) ↔
          Separated 0 rest ∧ ∀ block ∈ rest, block.Plain := ih []
      have hlater : (found [] rest).length ≤ (events rest).length := length_found_le [] rest
      simp only
      rw [events_append, forall_mem_append]
      cases hgroup : events (blocks ++ [block]) with
      | nil =>
        have hfields := fields_eq_nil_of_events hgroup
        have hplain : ∀ block' ∈ blocks ++ [block], block'.Plain := by
          rw [plain_iff_fields, hfields]
          simp
        rw [hfields, parsed_nil, and_iff_right hplain]
        simpa using hrest
      | cons event others =>
        cases others with
        | nil =>
          rw [singleton_append, forall₂_group_iff hgroup hlater,
            hrest, and_left_comm, length_singleton, and_iff_right (Nat.le_refl 1)]
        | cons second others =>
          refine iff_of_false ?_ (by simp)
          intro hsame
          have hlength := hsame.length_eq
          have hone : (parsed ((blocks ++ [block]).flatMap Block.fields)).toList.length ≤ 1 :=
            length_toList_le
          simp only [length_append, length_cons] at hlength
          omega

/-- The parser returns the events that a stream spells, up to line ends behind
the data, exactly when an empty line of a line feed alone follows each event
before the next one and the end, and every field has the space, an event name or
id no white space around it, and data a value or a carriage return. -/
theorem readsBack_stream_iff (stream : List Block) :
    ReadsBack stream ↔ Separated 0 stream ∧ ∀ block ∈ stream, block.Plain := by
  have hfound : (SseParser.new.processNewChunk (Utf8.encode (text stream))).1 = found [] stream :=
    processNewChunk_eq_found SseParser.new_atBoundary [] stream
  rw [ReadsBack, hfound]
  exact forall₂_found_iff [] stream

namespace SseFormatWitness

def dataBlock (value : Str) (lineEnd blank : LineEnd) (hvalue : OneLine value) : Block where
  lines := [.known ⟨.data, true, value, lineEnd⟩]
  blank
  permitted := by
    intro line hline
    rw [mem_singleton.mp hline]
    exact ⟨hvalue, by simp, by simp, by simp⟩
  once := by simp [Line.field?]

def crlfStream : List Block :=
  [dataBlock "x" .crlf .crlf ⟨by decide, by decide⟩]

theorem crlfStream_not_readsBack : ¬ ReadsBack crlfStream := by
  intro hreads
  have hlength := hreads.length_eq
  exact absurd hlength (by decide)

end SseFormatWitness

end McpSdk.SseFormat
