/-
Reading one line at a time from a byte stream that arrives in chunks.  A line
longer than the cap is skipped.  The cut into chunks has no influence on what
is read.
-/
import McpSdk.SseParser

namespace McpSdk

open List

/-- Outcome of reading a single line with a size cap. -/
inductive LineRead where
  | line (text : Str)
  | tooLong
  | eof
deriving Repr, DecidableEq

/-- The text of a line, without a carriage return at its end. -/
def lineToString (buf : Bytes) : Str :=
  Utf8.decodeLossy (if buf.getLast? = some 13 then buf.dropLast else buf)

/-- What stays in the reader's buffer when a part of a chunk is consumed. -/
def consume (amount : Nat) (chunk : Bytes) (rest : List Bytes) : List Bytes :=
  if chunk.length ≤ amount then rest else chunk.drop amount :: rest

/-- Skip the rest of a line; no result means to wait, and an empty chunk the end. -/
def discardToNewline (closed : Bool) : List Bytes → Option (List Bytes)
  | [] => if closed then some [] else none
  | chunk :: rest =>
    if chunk.isEmpty then some rest
    else match chunk.findIdx? (· = newline) with
      | some pos => some (consume (pos + 1) chunk rest)
      | none => discardToNewline closed rest

/-- At the end of the input a last line without a newline is given out. -/
def endOfInput (buf : Bytes) : LineRead :=
  if buf.isEmpty then .eof else .line (lineToString buf)

/-- The loop of `read_capped_line` with the bytes it has buffered. -/
def readLineFrom (max : Nat) (closed : Bool) :
    Bytes → List Bytes → Option (LineRead × List Bytes)
  | buf, [] => if closed then some (endOfInput buf, []) else none
  | buf, chunk :: rest =>
    if chunk.isEmpty then some (endOfInput buf, rest)
    else match chunk.findIdx? (· = newline) with
      | some pos =>
        if max < buf.length + pos then
          some (.tooLong, consume (pos + 1) chunk rest)
        else
          some (.line (lineToString (buf ++ chunk.take pos)), consume (pos + 1) chunk rest)
      | none =>
        if max < buf.length + chunk.length then
          (discardToNewline closed rest).map (.tooLong, ·)
        else readLineFrom max closed (buf ++ chunk) rest

/-- Read one line from the chunks so far; `none` means to wait for more. -/
def readCappedLine (max : Nat) (closed : Bool) (chunks : List Bytes) :
    Option (LineRead × List Bytes) :=
  readLineFrom max closed [] chunks

/-- The reading of a line by its length with the carriage return. -/
def cappedLine (max : Nat) (line : Bytes) : LineRead :=
  if line.length ≤ max then .line (lineToString line) else .tooLong

theorem cappedLine_ne_eof (max : Nat) (line : Bytes) : cappedLine max line ≠ .eof := by
  unfold cappedLine
  split
  · exact LineRead.noConfusion
  · exact LineRead.noConfusion

variable {chunk : Bytes}

theorem findIdx?_newline_of_not_mem (hchunk : newline ∉ chunk) :
    chunk.findIdx? (· = newline) = none := by
  rw [findIdx?_eq_none_iff]
  intro byte hbyte
  simpa using ne_of_mem_of_not_mem hbyte hchunk

theorem findIdx?_newline_append {body : Bytes} (hbody : newline ∉ body) (tail : Bytes) :
    (body ++ newline :: tail).findIdx? (· = newline) = some body.length := by
  rw [findIdx?_append, findIdx?_newline_of_not_mem hbody]
  simp [findIdx?_cons]

theorem consume_flatten (amount : Nat) (chunk : Bytes) (rest : List Bytes) :
    (consume amount chunk rest).flatten = chunk.drop amount ++ rest.flatten := by
  unfold consume
  split
  · next hle => simp [drop_eq_nil_of_le hle]
  · simp

variable {rest : List Bytes}

theorem consume_ne_nil {amount : Nat} (hrest : [] ∉ rest) : [] ∉ consume amount chunk rest := by
  unfold consume
  split
  · exact hrest
  · next hlt =>
    simp only [mem_cons, not_or]
    refine ⟨?_, hrest⟩
    intro hnil
    rw [eq_comm, drop_eq_nil_iff] at hnil
    exact hlt hnil

theorem cut_cases {line tail : Bytes} (hline : newline ∉ line)
    (hflat : (chunk :: rest).flatten = line ++ newline :: tail) :
    (∃ after, chunk = line ++ newline :: after ∧ after ++ rest.flatten = tail) ∨
      ∃ later, line = chunk ++ later ∧ newline ∉ chunk ∧
        rest.flatten = later ++ newline :: tail := by
  rw [flatten_cons] at hflat
  rcases append_eq_append_iff.mp hflat with
    ⟨later, hlater, hrest⟩ | ⟨after, hafter, hrest⟩
  · right
    refine ⟨later, hlater, ?_, hrest⟩
    intro hmem
    exact hline (hlater ▸ mem_append_left _ hmem)
  · cases after with
    | nil =>
      right
      refine ⟨[], by simpa using hafter.symm, ?_, by simpa using hrest.symm⟩
      rw [hafter]
      simpa using hline
    | cons byte after =>
      left
      rw [cons_append, List.cons.injEq] at hrest
      obtain ⟨rfl, hrest⟩ := hrest
      exact ⟨after, hafter, hrest.symm⟩

theorem discardToNewline_line {closed : Bool} {chunks : List Bytes}
    {line tail : Bytes} (hchunks : [] ∉ chunks) (hline : newline ∉ line)
    (hflat : chunks.flatten = line ++ newline :: tail) :
    ∃ unread, discardToNewline closed chunks = some unread ∧
      unread.flatten = tail ∧ [] ∉ unread := by
  induction chunks generalizing line with
  | nil => simp at hflat
  | cons chunk rest ih =>
    simp only [mem_cons, not_or] at hchunks
    have hchunk : chunk.isEmpty = false := by
      simpa using Ne.symm hchunks.1
    rw [discardToNewline, hchunk]
    rcases cut_cases hline hflat with
      ⟨after, rfl, htail⟩ | ⟨later, rfl, hnot, hrest⟩
    · rw [findIdx?_newline_append hline]
      refine ⟨_, rfl, ?_, consume_ne_nil hchunks.2⟩
      rw [consume_flatten, ← htail]
      simp
    · rw [findIdx?_newline_of_not_mem hnot]
      have hlater : newline ∉ later := fun hmem =>
        hline (mem_append_right _ hmem)
      exact ih hchunks.2 hlater hrest

variable {chunks : List Bytes}

variable {max : Nat}

theorem readLineFrom_line {closed : Bool} {buf : Bytes} {line tail : Bytes}
    (hbuf : buf.length ≤ max) (hchunks : [] ∉ chunks) (hline : newline ∉ line)
    (hflat : chunks.flatten = line ++ newline :: tail) :
    ∃ unread, readLineFrom max closed buf chunks = some (cappedLine max (buf ++ line), unread) ∧
      unread.flatten = tail ∧ [] ∉ unread := by
  induction chunks generalizing buf line with
  | nil => simp at hflat
  | cons chunk rest ih =>
    simp only [mem_cons, not_or] at hchunks
    have hchunk : chunk.isEmpty = false := by
      simpa using Ne.symm hchunks.1
    rw [readLineFrom, hchunk]
    rcases cut_cases hline hflat with
      ⟨after, rfl, htail⟩ | ⟨later, rfl, hnot, hrest⟩
    · rw [findIdx?_newline_append hline]
      refine ⟨consume (line.length + 1) (line ++ newline :: after) rest, ?_,
        ?_, consume_ne_nil hchunks.2⟩
      · by_cases hlong : max < buf.length + line.length
        · simp [hlong, cappedLine, Nat.not_le.mpr hlong]
        · simp [hlong, cappedLine, Nat.not_lt.mp hlong]
      · rw [consume_flatten, ← htail]
        simp
    · rw [findIdx?_newline_of_not_mem hnot]
      have hlater : newline ∉ later := fun hmem =>
        hline (mem_append_right _ hmem)
      by_cases hlong : max < buf.length + chunk.length
      · obtain ⟨unread, hunread, htail, hnil⟩ :=
          @discardToNewline_line closed _ _ _ hchunks.2 hlater hrest
        refine ⟨unread, ?_, htail, hnil⟩
        have hcap : cappedLine max (buf ++ (chunk ++ later)) = .tooLong := by
          rw [cappedLine, if_neg]
          simp only [length_append]
          omega
        simp [hlong, hunread, hcap]
      · have hnext : (buf ++ chunk).length ≤ max := by
          rw [length_append]
          omega
        obtain ⟨unread, hunread, htail, hnil⟩ := ih hnext hchunks.2 hlater hrest
        refine ⟨unread, ?_, htail, hnil⟩
        simpa [hlong] using hunread

theorem readCappedLine_line {max : Nat} {closed : Bool} {chunks : List Bytes}
    {line tail : Bytes} (hchunks : [] ∉ chunks) (hline : newline ∉ line)
    (hflat : chunks.flatten = line ++ newline :: tail) :
    ∃ unread, readCappedLine max closed chunks = some (cappedLine max line, unread) ∧
      unread.flatten = tail ∧ [] ∉ unread :=
  readLineFrom_line (Nat.zero_le max) hchunks hline hflat

theorem part_cons (hchunks : [] ∉ chunk :: rest) (hpart : newline ∉ (chunk :: rest).flatten) :
    chunk ≠ [] ∧ chunk.findIdx? (· = newline) = none ∧ [] ∉ rest ∧ newline ∉ rest.flatten := by
  rw [mem_cons, not_or] at hchunks
  rw [flatten_cons, mem_append, not_or] at hpart
  exact ⟨Ne.symm hchunks.1, findIdx?_newline_of_not_mem hpart.1, hchunks.2, hpart.2⟩

theorem discardToNewline_part (closed : Bool) (hchunks : [] ∉ chunks)
    (hpart : newline ∉ chunks.flatten) :
    discardToNewline closed chunks = if closed then some [] else none := by
  induction chunks with
  | nil => rfl
  | cons chunk rest ih =>
    obtain ⟨hne, hnone, hrest, hlater⟩ := part_cons hchunks hpart
    rw [discardToNewline, isEmpty_eq_false_iff.mpr hne, hnone]
    exact ih hrest hlater

theorem readLineFrom_pending {buf : Bytes} (hchunks : [] ∉ chunks)
    (hpart : newline ∉ chunks.flatten) : readLineFrom max false buf chunks = none := by
  induction chunks generalizing buf with
  | nil => rfl
  | cons chunk rest ih =>
    obtain ⟨hne, hnone, hrest, hlater⟩ := part_cons hchunks hpart
    rw [readLineFrom, isEmpty_eq_false_iff.mpr hne, hnone]
    by_cases hlong : max < buf.length + chunk.length
    · simp [hlong, discardToNewline_part false hrest hlater]
    · simpa [hlong] using ih hrest hlater

theorem readCappedLine_pending (hchunks : [] ∉ chunks) (hpart : newline ∉ chunks.flatten) :
    readCappedLine max false chunks = none :=
  readLineFrom_pending hchunks hpart

theorem readCappedLine_ne_eof {unread : List Bytes} {read : LineRead} (hchunks : [] ∉ chunks)
    (hread : readCappedLine max false chunks = some (read, unread)) :
    read ≠ .eof ∧ [] ∉ unread := by
  by_cases hmem : newline ∈ chunks.flatten
  · obtain ⟨line, tail, hflat, hline⟩ := eq_append_cons_of_mem hmem
    obtain ⟨later, hlater, -, hnil⟩ := @readCappedLine_line max false _ _ _ hchunks hline hflat
    rw [hlater] at hread
    cases hread
    exact ⟨cappedLine_ne_eof max line, hnil⟩
  · rw [readCappedLine_pending hchunks hmem] at hread
    cases hread

/-- The lines that are read until the reader waits, as far as the fuel goes. -/
def readLines (max : Nat) : Nat → List Bytes → List LineRead
  | 0, _ => []
  | fuel + 1, chunks =>
    match readCappedLine max false chunks with
    | some (read, unread) => read :: readLines max fuel unread
    | none => []

/-- All lines that have arrived are read, however they were cut. -/
theorem readLines_eq_map {max fuel : Nat} {chunks lines : List Bytes} (hchunks : [] ∉ chunks)
    (hlines : ∀ line ∈ lines, newline ∉ line)
    (hflat : chunks.flatten = lines.flatMap (· ++ [newline])) (hfuel : lines.length ≤ fuel) :
    readLines max fuel chunks = lines.map (cappedLine max) := by
  induction lines generalizing chunks fuel with
  | nil =>
    cases fuel with
    | zero => rfl
    | succ fuel =>
      have hnone : readCappedLine max false chunks = none := by
        apply readCappedLine_pending hchunks
        simp [hflat]
      simp [readLines, hnone]
  | cons line lines ih =>
    cases fuel with
    | zero => simp at hfuel
    | succ fuel =>
      obtain ⟨hline, hlater⟩ := forall_mem_cons.mp hlines
      have hnext : chunks.flatten =
          line ++ newline :: lines.flatMap (· ++ [newline]) := by
        simpa using hflat
      obtain ⟨unread, hread, htail, hnil⟩ :=
        @readCappedLine_line max false _ _ _ hchunks hline hnext
      have hmore := ih hnil hlater htail (Nat.le_of_succ_le_succ hfuel)
      simp [readLines, hread, hmore]

end McpSdk
