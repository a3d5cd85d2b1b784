/-
The task of `spawn_reader`: it reads lines, and sends what it could deserialize.
At the level TRACE it shows the first 1024 bytes of every line, and panics when
a character lies across that place.
-/
import McpSdk.LineReader
import McpSdk.StartStream

namespace McpSdk.ReaderTask

open List Option StartStream

universe u

variable {X : Type u}

inductive LevelFilter where
  | off
  | error
  | warn
  | info
  | debug
  | trace
deriving Repr, DecidableEq

inductive TransportError where
  /-- The wrapped `SendError` of the channel. -/
  | sendError
  | processError (text : Str)
deriving Repr, DecidableEq

/-- What the task is given, how a line is read, and the level that is logged. -/
structure Task (X : Type u) where
  maxLineLength : Nat
  level : LevelFilter
  fromStr : Str → Option X

inductive Phase (X : Type u) where
  | reading
  | sending (message : X)
  | returned (result : Except TransportError Unit)
  | panicked

/-- The chunks that are not read, and the messages the channel has taken. -/
structure State (X : Type u) where
  unread : List Bytes
  phase : Phase X
  sent : List X

/-- What happens to the task next. -/
inductive Action where
  | cancelled
  | read
  | readFails (error : Str)
  | sent
  /-- The receiver of the channel is gone. -/
  | sendFails
deriving Repr, DecidableEq

def spawnReader (chunks : List Bytes) : State X :=
  { unread := chunks, phase := .reading, sent := [] }

/-- What the task does with a line; `trace!` is evaluated at its level only. -/
def handleLine (task : Task X) (line : Str) : Phase X :=
  if task.level = .trace ∧ tracedSlice line = none then .panicked
  else match task.fromStr line with
    | none => .reading
    | some message => .sending message

def handleRead (task : Task X) : LineRead → Phase X
  | .eof => .returned (.ok ())
  | .tooLong => .reading
  | .line line => handleLine task line

/-- One step; `closed` tells whether the stream ends behind its chunks. -/
def step (task : Task X) (closed : Bool) (state : State X) :
    Action → Option (State X)
  | .cancelled =>
    match state.phase with
    | .reading => some { state with phase := .returned (.ok ()) }
    | _ => none
  | .read =>
    match state.phase, readCappedLine task.maxLineLength closed state.unread with
    | .reading, some (read, unread) =>
      some { state with unread, phase := handleRead task read }
    | _, _ => none
  | .readFails error =>
    match state.phase with
    | .reading =>
      some { state with phase := .returned (.error (.processError
        ("Error reading from readable stream: " ++ error))) }
    | _ => none
  | .sent =>
    match state.phase with
    | .sending message =>
      some { state with phase := .reading, sent := state.sent ++ [message] }
    | _ => none
  | .sendFails =>
    match state.phase with
    | .sending _ =>
      some { state with phase := .returned (.error .sendError) }
    | _ => none

/-- What the calls of `read_capped_line` give before the end of the stream. -/
def arrivedReads (max : Nat) (closed : Bool) (stream : Bytes) : List LineRead :=
  if closed then referenceReads max stream
  else (LineSplit.lines newline stream).1.map (cappedLine max ·.dropLast)

theorem arrivedReads_line {max : Nat} {line : Bytes} (hline : newline ∉ line)
    (closed : Bool) (tail : Bytes) :
    arrivedReads max closed (line ++ newline :: tail) =
      cappedLine max line :: arrivedReads max closed tail := by
  cases closed with
  | true => exact referenceReads_line hline tail
  | false =>
    have hcut := LineSplit.lines_line_append ⟨line, hline, rfl⟩ tail
    rw [append_assoc] at hcut
    change LineSplit.lines newline (line ++ newline :: tail) = _ at hcut
    simp [arrivedReads, hcut]

theorem arrivedReads_tail {max : Nat} {tail : Bytes} (htail : newline ∉ tail) (closed : Bool) :
    arrivedReads max closed tail =
      if closed ∧ tail ≠ [] then [cappedLine max tail] else [] := by
  cases closed with
  | true => simp [arrivedReads, referenceReads_tail htail]
  | false =>
    have hcut : LineSplit.lines newline tail = ([], tail) := LineSplit.linesFrom_of_not_mem [] htail
    simp [arrivedReads, hcut]

theorem arrivedReads_grows (max : Nat) (closed : Bool) (stream later : Bytes) :
    arrivedReads max false stream <+: arrivedReads max closed (stream ++ later) := by
  have hlines : arrivedReads max false stream <+:
      (LineSplit.lines newline (stream ++ later)).1.map
        (cappedLine max ·.dropLast) := by
    rw [LineSplit.lines_append, map_append]
    exact List.prefix_append _ _
  cases closed with
  | true => exact hlines.trans (List.prefix_append _ _)
  | false => exact hlines

/-- A call gives the next of these results, and after the last the end, if any. -/
theorem readCappedLine_arrived {max : Nat} {closed : Bool}
    {chunks : List Bytes} (hchunks : [] ∉ chunks) :
    (∃ read unread, readCappedLine max closed chunks = some (read, unread) ∧
        read ≠ .eof ∧ [] ∉ unread ∧ arrivedReads max closed chunks.flatten =
          read :: arrivedReads max closed unread.flatten) ∨
      arrivedReads max closed chunks.flatten = [] ∧
        readCappedLine max closed chunks =
          if closed then some (.eof, []) else none := by
  by_cases hmem : newline ∈ chunks.flatten
  · obtain ⟨line, tail, hflat, hline⟩ := eq_append_cons_of_mem hmem
    obtain ⟨unread, hread, htail, hnil⟩ := @readCappedLine_line max closed _ _ _ hchunks hline hflat
    refine .inl ⟨_, unread, hread, cappedLine_ne_eof max line, hnil, ?_⟩
    rw [hflat, arrivedReads_line hline, htail]
  · cases closed with
    | false =>
      refine .inr ⟨?_, readCappedLine_pending hchunks hmem⟩
      simp [arrivedReads_tail hmem]
    | true =>
      have hread := @readLineFrom_tail max [] _ (Nat.zero_le max) hchunks hmem
      rw [nil_append] at hread
      by_cases hnil : chunks.flatten = []
      · rw [if_pos hnil] at hread
        exact .inr ⟨by simp [hnil, arrivedReads_tail], hread⟩
      · rw [if_neg hnil] at hread
        refine .inl ⟨_, [], hread, cappedLine_ne_eof max _, by simp, ?_⟩
        simp [arrivedReads_tail hmem, arrivedReads_tail, hnil]

/-- Byte 1024 of a line continues no character. -/
def Sliceable (line : Str) : Prop :=
  ∀ byte, (Utf8.encode line)[1024]? = some byte → Utf8.isTail byte = false

theorem tracedSlice_ne_none_iff (line : Str) : tracedSlice line ≠ none ↔ Sliceable line := by
  rw [tracedSlice, ne_none_iff_isSome, RustStr.sliceTo_isSome, Sliceable, Utf8.isCharBoundary]
  by_cases hlong : 1024 < (Utf8.encode line).length
  · rw [Nat.min_eq_right (Nat.le_of_lt hlong), getElem?_eq_getElem hlong]
    simp
  · rw [Nat.min_eq_left (Nat.le_of_not_lt hlong), getElem?_eq_none (Nat.le_refl _),
      getElem?_eq_none (Nat.le_of_not_lt hlong)]
    simp

theorem handleLine_eq_panicked {task : Task X} {line : Str} :
    handleLine task line = .panicked ↔ task.level = .trace ∧ ¬ Sliceable line := by
  rw [handleLine, ← tracedSlice_ne_none_iff, not_not]
  by_cases hcut : task.level = .trace ∧ tracedSlice line = none
  · simp [hcut]
  · rw [if_neg hcut]
    cases task.fromStr line <;> simp [hcut]

/-- Every line that is still to be read can be shown, or is not shown. -/
def Traceable (task : Task X) (reads : List LineRead) : Prop :=
  task.level ≠ .trace ∨ ∀ line, .line line ∈ reads → Sliceable line

/-- What is kept by every step of a task that cannot panic. -/
structure Safe (task : Task X) (closed : Bool) (state : State X) : Prop where
  chunks : [] ∉ state.unread
  traceable : Traceable task (arrivedReads task.maxLineLength closed state.unread.flatten)
  running : state.phase ≠ .panicked

theorem handleRead_ne_panicked {task : Task X} {read : LineRead} {reads : List LineRead}
    (htraceable : Traceable task (read :: reads)) : handleRead task read ≠ .panicked := by
  cases read with
  | eof | tooLong => nofun
  | line line =>
    intro hpanicked
    obtain ⟨hlevel, hline⟩ := handleLine_eq_panicked.mp hpanicked
    rcases htraceable with hother | hlines
    · exact hother hlevel
    · exact hline (hlines line mem_cons_self)

def Phase.isOver : Phase X → Bool
  | .returned _ | .panicked => true
  | _ => false

variable {state next : State X} {closed : Bool} {action : Action}

/-- What a step can do, with its guard. -/
theorem step_cases {task : Task X} (hstep : step task closed state action = some next) :
    (∃ read unread, state.phase = .reading ∧
        readCappedLine task.maxLineLength closed state.unread = some (read, unread) ∧
        next = { state with unread, phase := handleRead task read }) ∨
      (∃ message, state.phase = .sending message ∧
        next = { state with
          phase := .reading, sent := state.sent ++ [message] }) ∨
      ∃ result, state.phase.isOver = false ∧
        next = { state with phase := .returned result } := by
  cases hphase : state.phase with
  | reading =>
    cases action with
    | cancelled =>
      simp only [step, hphase, some.injEq] at hstep
      exact .inr (.inr ⟨_, rfl, hstep.symm⟩)
    | read =>
      simp only [step, hphase] at hstep
      cases hread : readCappedLine task.maxLineLength closed state.unread with
      | none => simp [hread] at hstep
      | some result =>
        simp only [hread, some.injEq] at hstep
        exact .inl ⟨result.1, result.2, rfl, rfl, hstep.symm⟩
    | readFails error =>
      simp only [step, hphase, some.injEq] at hstep
      exact .inr (.inr ⟨_, rfl, hstep.symm⟩)
    | sent | sendFails => simp [step, hphase] at hstep
  | sending message =>
    cases action with
    | cancelled | read | readFails => simp [step, hphase] at hstep
    | sent =>
      simp only [step, hphase, some.injEq] at hstep
      exact .inr (.inl ⟨message, rfl, hstep.symm⟩)
    | sendFails =>
      simp only [step, hphase, some.injEq] at hstep
      exact .inr (.inr ⟨_, rfl, hstep.symm⟩)
  | returned | panicked => cases action <;> simp [step, hphase] at hstep

/-- A task that cannot panic stays so. -/
theorem step_safe {task : Task X} (hsafe : Safe task closed state)
    (hstep : step task closed state action = some next) : Safe task closed next := by
  obtain ⟨hchunks, htraceable, hrunning⟩ := hsafe
  rcases step_cases hstep with
    ⟨read, unread, -, hread, rfl⟩ | ⟨message, -, rfl⟩ | ⟨result, -, rfl⟩
  · rcases @readCappedLine_arrived task.maxLineLength closed _ hchunks with
      ⟨first, later, hfirst, -, hnil, hreads⟩ | ⟨hreads, hend⟩
    · rw [hfirst] at hread
      cases hread
      rw [hreads] at htraceable
      refine ⟨hnil, ?_, handleRead_ne_panicked htraceable⟩
      exact htraceable.imp_right fun hlines line hline =>
        hlines line (mem_cons_of_mem _ hline)
    · rw [hend] at hread
      cases closed with
      | false => cases hread
      | true =>
        cases hread
        refine ⟨by simp, ?_, nofun⟩
        exact .inr (by simp [arrivedReads_tail])
  · exact ⟨hchunks, htraceable, nofun⟩
  · exact ⟨hchunks, htraceable, nofun⟩

theorem handleRead_cases (task : Task X) {read : LineRead} (hread : read ≠ .eof) :
    handleRead task read = .reading ∨ (∃ message, handleRead task read = .sending message) ∨
      handleRead task read = .panicked := by
  cases read with
  | eof => exact absurd rfl hread
  | tooLong => exact .inl rfl
  | line line =>
    rw [handleRead, handleLine]
    split
    · exact .inr (.inr rfl)
    · split
      · exact .inl rfl
      · exact .inr (.inl ⟨_, rfl⟩)

/-- The task can read on until it meets a line that cannot be shown. -/
theorem exists_panicked {task : Task X} (hlevel : task.level = .trace) {line : Str}
    (hline : ¬ Sliceable line) {reads : List LineRead} (hmem : .line line ∈ reads)
    {unread : List Bytes} (hchunks : [] ∉ unread)
    (hreads : arrivedReads task.maxLineLength closed unread.flatten = reads) (sent : List X) :
    ∃ actions final, Lts.run (step task closed)
        { unread, phase := .reading, sent } actions = some final ∧
      final.phase = .panicked := by
  induction reads generalizing unread sent with
  | nil => cases hmem
  | cons read later ih =>
    rcases @readCappedLine_arrived task.maxLineLength closed _ hchunks with
      ⟨first, rest, hfirst, heof, hnil, hnext⟩ | ⟨hnone, -⟩
    · rw [hreads] at hnext
      cases hnext
      have hread : step task closed { unread, phase := .reading, sent } .read =
          some { unread := rest, phase := handleRead task read, sent } := by
        simp [step, hfirst]
      have hlater : handleRead task read ≠ .panicked →
          .line line ∈ arrivedReads task.maxLineLength closed
            rest.flatten := by
        intro hphase
        refine (mem_cons.mp hmem).resolve_left ?_
        rintro rfl
        exact hphase (handleLine_eq_panicked.mpr ⟨hlevel, hline⟩)
      rcases handleRead_cases task heof with
        hphase | ⟨message, hphase⟩ | hphase
      · rw [hphase] at hread
        obtain ⟨actions, final, hrun, hfinal⟩ := ih (hlater (by rw [hphase]; nofun)) hnil rfl sent
        exact ⟨.read :: actions, final, Lts.run_cons_eq_some.mpr ⟨_, hread, hrun⟩, hfinal⟩
      · rw [hphase] at hread
        obtain ⟨actions, final, hrun, hfinal⟩ :=
          ih (hlater (by rw [hphase]; nofun)) hnil rfl (sent ++ [message])
        refine ⟨.read :: .sent :: actions, final, ?_, hfinal⟩
        refine Lts.run_cons_eq_some.mpr ⟨_, hread, ?_⟩
        exact Lts.run_cons_eq_some.mpr ⟨_, rfl, hrun⟩
      · exact ⟨[.read], _, Lts.run_cons_eq_some.mpr ⟨_, hread, rfl⟩, hphase⟩
    · rw [hreads] at hnone
      cases hnone

def Phase.message : Phase X → Option X
  | .sending message => some message
  | _ => none

def decoded (task : Task X) : LineRead → Option X
  | .line line => task.fromStr line
  | _ => none

def upcoming (task : Task X) (closed : Bool) (state : State X) : List X :=
  state.phase.message.toList ++
    (arrivedReads task.maxLineLength closed state.unread.flatten).filterMap
      (decoded task)

theorem handleRead_message {task : Task X} {read : LineRead}
    (hrunning : (handleRead task read).isOver = false) :
    (handleRead task read).message = decoded task read := by
  cases read with
  | eof => cases hrunning
  | tooLong => rfl
  | line line =>
    rw [handleRead, handleLine] at hrunning ⊢
    split at hrunning
    · cases hrunning
    · next hshown =>
      rw [if_neg hshown, decoded]
      cases task.fromStr line with
      | none | some => rfl

theorem upcoming_grows (task : Task X) (closed : Bool) {later : Bytes}
    (hphase : next.phase = state.phase)
    (hunread : next.unread.flatten = state.unread.flatten ++ later) :
    upcoming task false state <+: upcoming task closed next := by
  rw [upcoming, upcoming, hphase, hunread, List.prefix_append_right_inj]
  exact (arrivedReads_grows _ closed _ later).filterMap _

theorem step_isOver {task : Task X} (hstep : step task closed state action = some next) :
    state.phase.isOver = false := by
  rcases step_cases hstep with
    ⟨read, unread, hphase, -⟩ | ⟨message, hphase, -⟩ | ⟨result, hphase, -⟩
  · rw [hphase]
    rfl
  · rw [hphase]
    rfl
  · exact hphase

/-- The lines to read, the messages to send, and the end. -/
def remaining (task : Task X) (closed : Bool) (state : State X) : Nat :=
  if state.phase.isOver then 0
  else (arrivedReads task.maxLineLength closed state.unread.flatten).length +
    (upcoming task closed state).length + 1

/-- What is sent and to be sent stays the same together, and every step brings
the task nearer to its end. -/
theorem step_upcoming {task : Task X} (hchunks : [] ∉ state.unread)
    (hstep : step task closed state action = some next) :
    [] ∉ next.unread ∧
      (if next.phase.isOver then next.sent = state.sent
        else next.sent ++ upcoming task closed next = state.sent ++ upcoming task closed state) ∧
      remaining task closed next < remaining task closed state := by
  have hrunning : remaining task closed state =
      (arrivedReads task.maxLineLength closed state.unread.flatten).length +
        (upcoming task closed state).length + 1 := by
    rw [remaining, step_isOver hstep]
    rfl
  rw [hrunning]
  rcases step_cases hstep with
    ⟨read, unread, hphase, hread, rfl⟩ | ⟨message, hphase, rfl⟩ |
      ⟨result, -, rfl⟩
  · rcases @readCappedLine_arrived task.maxLineLength closed _ hchunks with
      ⟨first, later, hfirst, -, hnil, hreads⟩ | ⟨hreads, hend⟩
    · cases hread.symm.trans hfirst
      refine ⟨hnil, ?_⟩
      by_cases hover : (handleRead task read).isOver = true
      · rw [remaining, if_pos hover, if_pos hover]
        exact ⟨rfl, Nat.succ_pos _⟩
      · have hsame : upcoming task closed
            { state with unread, phase := handleRead task read } =
              upcoming task closed state := by
          simp only [upcoming, hphase, hreads, filterMap_cons,
            handleRead_message (Bool.eq_false_iff.mpr hover)]
          cases decoded task read with
          | none | some => rfl
        rw [remaining, if_neg hover, if_neg hover, hsame, hreads, length_cons]
        refine ⟨rfl, ?_⟩
        dsimp only
        omega
    · rw [hend] at hread
      cases closed with
      | true =>
        cases hread
        exact ⟨by simp, rfl, Nat.succ_pos _⟩
      | false => cases hread
  · refine ⟨hchunks, ?_, ?_⟩
    · simp [Phase.isOver, upcoming, Phase.message, hphase]
    · simp [remaining, Phase.isOver, upcoming, Phase.message, hphase]
  · exact ⟨hchunks, rfl, Nat.succ_pos _⟩

/-- The reader never panics exactly when TRACE is not logged or byte 1024 of no
line that is returned continues a character. -/
theorem run_ne_panicked_iff (task : Task X) (closed : Bool)
    (chunks : List Bytes) (hchunks : [] ∉ chunks) :
    (∀ actions final, Lts.run (step task closed) (spawnReader chunks) actions =
        some final → final.phase ≠ .panicked) ↔ task.level ≠ .trace ∨
        ∀ line, .line line ∈ arrivedReads task.maxLineLength closed chunks.flatten →
          ∀ byte, (Utf8.encode line)[1024]? = some byte → Utf8.isTail byte = false := by
  constructor
  · intro hruns
    by_contra hbroken
    obtain ⟨hlevel, hlines⟩ := not_or.mp hbroken
    push Not at hlines
    obtain ⟨line, hmem, byte, hbyte, htail⟩ := hlines
    have hcut : ¬ Sliceable line := fun hline => htail (hline byte hbyte)
    obtain ⟨actions, final, hrun, hfinal⟩ := exists_panicked
      (not_not.mp hlevel) hcut hmem hchunks rfl ([] : List X)
    exact hruns actions final hrun hfinal
  · intro htraceable actions final hrun
    have hsafe : Safe task closed (spawnReader chunks) := ⟨hchunks, htraceable, nofun⟩
    exact (Lts.run_keeps step_safe hsafe hrun).running

namespace ReaderTaskWitness

def task : Task Str :=
  ⟨16 * 1024 * 1024, .trace, some⟩

/-- A line of letters that ends with an accented letter of two bytes. -/
def stream (letters : Nat) : Bytes :=
  List.replicate letters 97 ++ [0xC3, 0xA9, 10]

def text (letters : Nat) : Str :=
  List.replicate letters 'a' ++ ['é']

/-- The accented letter starts right behind the slice. -/
theorem ne_panicked_behind :
    arrivedReads task.maxLineLength true [stream 1024].flatten = [.line (text 1024)] ∧
      ∀ actions final, Lts.run (step task true) (spawnReader [stream 1024])
        actions = some final → final.phase ≠ .panicked := by
  have hreads : arrivedReads task.maxLineLength true [stream 1024].flatten =
      [.line (text 1024)] := by
    decide +kernel
  have hbyte : (Utf8.encode (text 1024))[1024]? = some 0xC3 := by
    decide +kernel
  refine ⟨hreads, ?_⟩
  refine (run_ne_panicked_iff task true [stream 1024] (by decide)).mpr ?_
  right
  intro line hline byte hslice
  rw [hreads, mem_singleton] at hline
  cases hline
  rw [hbyte] at hslice
  cases hslice
  decide

/-- The accented letter lies across the end of the slice. -/
theorem panicked_across :
    readCappedLine task.maxLineLength true [stream 1023] = some (.line (text 1023), []) ∧
      Utf8.isCharBoundary (text 1023) (min (Utf8.encode (text 1023)).length 1024) = false ∧
      Lts.run (step task true) (spawnReader [stream 1023]) [.read] = some ⟨[], .panicked, []⟩ := by
  have hread : readCappedLine task.maxLineLength true [stream 1023] =
      some (.line (text 1023), []) := by
    decide +kernel
  have hbyte : (Utf8.encode (text 1023))[1024]? = some 0xA9 := by
    decide +kernel
  have hslice : ¬ Sliceable (text 1023) := by
    intro hslice
    exact absurd (hslice _ hbyte) (by decide)
  have hpanicked : handleLine task (text 1023) = .panicked :=
    handleLine_eq_panicked.mpr ⟨rfl, hslice⟩
  refine ⟨hread, by decide +kernel, ?_⟩
  simp [Lts.run, step, spawnReader, hread, handleRead, hpanicked]

end ReaderTaskWitness

end McpSdk.ReaderTask
