/-
A byte stream read line by line to its end. The results are those of cutting it
at its newlines, and never more than the cap is buffered.
-/
import McpSdk.CappedLine
import Mathlib.Logic.Function.Iterate

namespace McpSdk

open List

/-- The results of so many calls of `read_capped_line` on a closed stream. -/
def readResults (max : Nat) : Nat → List Bytes → List LineRead
  | 0, _ => []
  | count + 1, chunks =>
    match readCappedLine max true chunks with
    | some (read, unread) => read :: readResults max count unread
    | none => []

/-- The reference: cut at the newlines and read the pieces, the last unless empty. -/
def referenceReads (max : Nat) (stream : Bytes) : List LineRead :=
  (LineSplit.lines newline stream).1.map (cappedLine max ·.dropLast) ++
    if (LineSplit.lines newline stream).2 = [] then []
    else [cappedLine max (LineSplit.lines newline stream).2]

variable {max : Nat}

theorem referenceReads_line {line : Bytes} (hline : newline ∉ line) (tail : Bytes) :
    referenceReads max (line ++ newline :: tail) =
      cappedLine max line :: referenceReads max tail := by
  have hcut := LineSplit.lines_line_append ⟨line, hline, rfl⟩ tail
  rw [append_assoc] at hcut
  change LineSplit.lines newline (line ++ newline :: tail) = _ at hcut
  simp [referenceReads, hcut]

theorem referenceReads_tail {tail : Bytes} (htail : newline ∉ tail) :
    referenceReads max tail = if tail = [] then [] else [cappedLine max tail] := by
  have hcut : LineSplit.lines newline tail = ([], tail) := LineSplit.linesFrom_of_not_mem [] htail
  simp [referenceReads, hcut]

theorem readLineFrom_tail {max : Nat} {buf : Bytes} {chunks : List Bytes}
    (hbuf : buf.length ≤ max) (hchunks : [] ∉ chunks) (htail : newline ∉ chunks.flatten) :
    readLineFrom max true buf chunks =
      some (if buf ++ chunks.flatten = [] then .eof
        else cappedLine max (buf ++ chunks.flatten), []) := by
  induction chunks generalizing buf with
  | nil =>
    cases buf with
    | nil => rfl
    | cons byte buf =>
      have hcap : cappedLine max (byte :: buf) = .line (lineToString (byte :: buf)) := if_pos hbuf
      simp [readLineFrom, endOfInput, hcap]
  | cons chunk rest ih =>
    obtain ⟨hne, hnone, hrest, hlater⟩ := part_cons hchunks htail
    rw [readLineFrom, isEmpty_eq_false_iff.mpr hne, hnone]
    by_cases hlong : max < buf.length + chunk.length
    · have hcap :
          cappedLine max (buf ++ (chunk ++ rest.flatten)) = .tooLong := by
        rw [cappedLine, if_neg]
        simp only [length_append]
        omega
      simp [hlong, hne, hcap, discardToNewline_part true hrest hlater]
    · have hnext : (buf ++ chunk).length ≤ max := by
        rw [length_append]
        omega
      have hmore := ih hnext hrest hlater
      rw [append_assoc] at hmore
      simpa [hlong] using hmore

theorem readResults_nil (max count : Nat) :
    readResults max count [] = List.replicate count .eof := by
  induction count with
  | zero => rfl
  | succ count ih =>
    rw [replicate_succ, ← ih]
    rfl

/-- Every call gives what the reference gives, and then the end of the input. -/
theorem readResults_eq_take {count : Nat} {chunks : List Bytes} (hchunks : [] ∉ chunks) :
    readResults max count chunks = (referenceReads max chunks.flatten ++
        List.replicate count LineRead.eof).take count := by
  induction count generalizing chunks with
  | zero => rfl
  | succ count ih =>
    rw [readResults]
    by_cases hmem : newline ∈ chunks.flatten
    · obtain ⟨line, tail, hflat, hline⟩ := eq_append_cons_of_mem hmem
      obtain ⟨unread, hread, htail, hnil⟩ := @readCappedLine_line max true _ _ _ hchunks hline hflat
      have hmore := ih hnil
      rw [htail] at hmore
      rw [hread, hflat, referenceReads_line hline]
      rw [cons_append, take_succ_cons]
      change cappedLine max line :: readResults max count unread = _
      rw [hmore]
      simp [take_append, take_replicate]
      omega
    · have hread := @readLineFrom_tail max [] _ (Nat.zero_le max) hchunks hmem
      rw [nil_append] at hread
      rw [readCappedLine, hread, referenceReads_tail hmem]
      by_cases hnil : chunks.flatten = []
      · simp [hnil, readResults_nil, replicate_succ]
      · simp [hnil, readResults_nil, take_replicate]

/-- In its own loop, in that of `discard_to_newline`, or back at its caller. -/
inductive ReadPhase where
  | reading
  | discarding
  | returned
deriving Repr, DecidableEq

/-- What `fill_buf` has still to give, the buffer of the call, and the results. -/
structure LineReader where
  chunks : List Bytes
  buf : Bytes
  phase : ReadPhase
  results : List LineRead
deriving Repr, DecidableEq

def LineReader.start (chunks : List Bytes) : LineReader :=
  ⟨chunks, [], .reading, []⟩

/-- The call returns; its buffer is given up with the next call only. -/
def LineReader.giveOut (reader : LineReader) (read : LineRead) (buf : Bytes)
    (chunks : List Bytes) : LineReader :=
  ⟨chunks, buf, .returned, reader.results ++ [read]⟩

def LineReader.readPass (max : Nat) (reader : LineReader) : LineReader :=
  match reader.chunks with
  | [] => reader.giveOut (endOfInput reader.buf) reader.buf []
  | chunk :: rest =>
    if chunk.isEmpty then
      reader.giveOut (endOfInput reader.buf) reader.buf rest
    else match chunk.findIdx? (· = newline) with
      | some pos =>
        if max < reader.buf.length + pos then
          reader.giveOut .tooLong reader.buf (consume (pos + 1) chunk rest)
        else
          reader.giveOut (.line (lineToString (reader.buf ++ chunk.take pos)))
            (reader.buf ++ chunk.take pos) (consume (pos + 1) chunk rest)
      | none =>
        if max < reader.buf.length + chunk.length then
          { reader with chunks := rest, phase := .discarding }
        else { reader with chunks := rest, buf := reader.buf ++ chunk }

/-- One pass of `discard_to_newline`; the buffer of the call is still alive. -/
def LineReader.discardPass (reader : LineReader) : LineReader :=
  match reader.chunks with
  | [] => reader.giveOut .tooLong reader.buf []
  | chunk :: rest =>
    if chunk.isEmpty then reader.giveOut .tooLong reader.buf rest
    else match chunk.findIdx? (· = newline) with
      | some pos =>
        reader.giveOut .tooLong reader.buf (consume (pos + 1) chunk rest)
      | none => { reader with chunks := rest }

/-- One pass of the loop that the reader is in; it is called again at once. -/
def LineReader.pass (max : Nat) (reader : LineReader) : LineReader :=
  match reader.phase with
  | .reading => reader.readPass max
  | .discarding => reader.discardPass
  | .returned => { reader with buf := [], phase := .reading }

variable {reader : LineReader}

theorem LineReader.readPass_buf_le (hbuf : reader.buf.length ≤ max) :
    (reader.readPass max).buf.length ≤ max := by
  unfold LineReader.readPass
  split
  · exact hbuf
  · split
    · exact hbuf
    · split
      · next pos hpos =>
        split
        · exact hbuf
        · next hshort =>
          change (reader.buf ++ List.take pos _).length ≤ max
          rw [length_append, length_take]
          omega
      · split
        · exact hbuf
        · next hshort =>
          change (reader.buf ++ _).length ≤ max
          rw [length_append]
          omega

theorem LineReader.discardPass_buf (reader : LineReader) : reader.discardPass.buf = reader.buf := by
  unfold LineReader.discardPass
  split
  · rfl
  · split
    · rfl
    · split
      · rfl
      · rfl

theorem LineReader.pass_buf_le (hbuf : reader.buf.length ≤ max) :
    (reader.pass max).buf.length ≤ max := by
  unfold LineReader.pass
  split
  · exact readPass_buf_le hbuf
  · rw [discardPass_buf]
    exact hbuf
  · exact Nat.zero_le max

/-- No number of passes leaves more than the cap in the buffer. -/
theorem LineReader.passes_buf_le (hbuf : reader.buf.length ≤ max) (passes : Nat) :
    ((LineReader.pass max)^[passes] reader).buf.length ≤ max := by
  induction passes generalizing reader with
  | zero => exact hbuf
  | succ passes ih =>
    rw [Function.iterate_succ_apply]
    exact ih (pass_buf_le hbuf)

theorem LineReader.passes_discard {max : Nat} {chunks unread : List Bytes}
    (hdiscard : discardToNewline true chunks = some unread) (buf : Bytes)
    (results : List LineRead) :
    ∃ passes, (LineReader.pass max)^[passes] ⟨chunks, buf, .discarding, results⟩ =
      ⟨unread, buf, .returned, results ++ [.tooLong]⟩ := by
  induction chunks with
  | nil =>
    cases hdiscard
    exact ⟨1, rfl⟩
  | cons chunk rest ih =>
    rw [discardToNewline] at hdiscard
    by_cases hchunk : chunk.isEmpty
    · rw [if_pos hchunk] at hdiscard
      cases hdiscard
      refine ⟨1, ?_⟩
      simp [LineReader.pass, LineReader.discardPass, LineReader.giveOut, hchunk]
    · rw [if_neg hchunk] at hdiscard
      cases hpos : chunk.findIdx? (· = newline) with
      | some pos =>
        rw [hpos] at hdiscard
        cases hdiscard
        refine ⟨1, ?_⟩
        simp [LineReader.pass, LineReader.discardPass, LineReader.giveOut, hchunk, hpos]
      | none =>
        rw [hpos] at hdiscard
        obtain ⟨passes, hpasses⟩ := ih hdiscard
        refine ⟨passes + 1, ?_⟩
        rw [Function.iterate_succ_apply, ← hpasses]
        simp [LineReader.pass, LineReader.discardPass, hchunk, hpos]

theorem LineReader.passes_read {chunks unread : List Bytes} {buf : Bytes} {read : LineRead}
    (hread : readLineFrom max true buf chunks = some (read, unread)) (results : List LineRead) :
    ∃ passes last, (LineReader.pass max)^[passes] ⟨chunks, buf, .reading, results⟩ =
      ⟨unread, last, .returned, results ++ [read]⟩ := by
  induction chunks generalizing buf with
  | nil =>
    cases hread
    exact ⟨1, buf, rfl⟩
  | cons chunk rest ih =>
    rw [readLineFrom] at hread
    by_cases hchunk : chunk.isEmpty
    · rw [if_pos hchunk] at hread
      cases hread
      refine ⟨1, buf, ?_⟩
      simp [LineReader.pass, LineReader.readPass, LineReader.giveOut, hchunk]
    · rw [if_neg hchunk] at hread
      cases hpos : chunk.findIdx? (· = newline) with
      | some pos =>
        simp only [hpos] at hread
        by_cases hlong : max < buf.length + pos
        · rw [if_pos hlong] at hread
          cases hread
          refine ⟨1, buf, ?_⟩
          simp [LineReader.pass, LineReader.readPass, LineReader.giveOut, hchunk, hpos, hlong]
        · rw [if_neg hlong] at hread
          cases hread
          refine ⟨1, buf ++ chunk.take pos, ?_⟩
          simp [LineReader.pass, LineReader.readPass, LineReader.giveOut, hchunk, hpos, hlong]
      | none =>
        simp only [hpos] at hread
        by_cases hlong : max < buf.length + chunk.length
        · rw [if_pos hlong, Option.map_eq_some_iff] at hread
          obtain ⟨later, hdiscard, hlater⟩ := hread
          cases hlater
          obtain ⟨passes, hpasses⟩ := @passes_discard max _ _ hdiscard buf results
          refine ⟨passes + 1, buf, ?_⟩
          rw [Function.iterate_succ_apply, ← hpasses]
          simp [LineReader.pass, LineReader.readPass, hchunk, hpos, hlong]
        · rw [if_neg hlong] at hread
          obtain ⟨passes, last, hpasses⟩ := ih hread
          refine ⟨passes + 1, last, ?_⟩
          rw [Function.iterate_succ_apply, ← hpasses]
          simp [LineReader.pass, LineReader.readPass, hchunk, hpos, hlong]

theorem LineReader.passes_results {max count : Nat} {chunks : List Bytes}
    (results : List LineRead) :
    ∃ passes, ((LineReader.pass max)^[passes] ⟨chunks, [], .reading, results⟩).results =
      results ++ readResults max count chunks := by
  induction count generalizing chunks results with
  | zero => exact ⟨0, (append_nil results).symm⟩
  | succ count ih =>
    rw [readResults]
    cases hread : readCappedLine max true chunks with
    | none => exact ⟨0, (append_nil results).symm⟩
    | some reading =>
      obtain ⟨read, unread⟩ := reading
      obtain ⟨first, last, hfirst⟩ := passes_read hread results
      obtain ⟨later, hlater⟩ := ih (results ++ [read])
      refine ⟨later + (1 + first), ?_⟩
      rw [Function.iterate_add_apply, Function.iterate_add_apply, hfirst]
      rw [append_assoc] at hlater
      exact hlater

/-- The results are those of the reference splitter, and then the end of the
input; the passes give them and never buffer more than the cap. -/
theorem readCappedLine_eq_reference (max : Nat) (chunks : List Bytes) (hchunks : [] ∉ chunks) :
    (∀ count, readResults max count chunks =
        (referenceReads max chunks.flatten ++ List.replicate count LineRead.eof).take count ∧
      ∃ passes, ((LineReader.pass max)^[passes]
          (LineReader.start chunks)).results = readResults max count chunks) ∧
      ∀ passes, ((LineReader.pass max)^[passes] (LineReader.start chunks)).buf.length ≤ max := by
  constructor
  · intro count
    refine ⟨readResults_eq_take hchunks, ?_⟩
    exact @LineReader.passes_results max count chunks []
  · intro passes
    exact LineReader.passes_buf_le (Nat.zero_le max) passes

namespace LineReaderWitness

/-- A line with a carriage return, a line cut before its last byte, and a tail. -/
def chunks : List Bytes :=
  [[97, 98], [13], [10, 99, 100], [101, 10, 102]]

theorem readCappedLine_chunks :
    [] ∉ chunks ∧ readResults 3 4 chunks =
      [.line ['a', 'b'], .line ['c', 'd', 'e'], .line ['f'], .eof] ∧
    readResults 2 4 chunks = [.tooLong, .tooLong, .line ['f'], .eof] := by
  have hchunks : [] ∉ chunks := by decide
  refine ⟨hchunks, ?_, ?_⟩
  · rw [((readCappedLine_eq_reference 3 chunks hchunks).1 4).1]
    decide
  · rw [((readCappedLine_eq_reference 2 chunks hchunks).1 4).1]
    decide

end LineReaderWitness

end McpSdk
