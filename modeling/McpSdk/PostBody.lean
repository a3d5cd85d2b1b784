/-
A POST body on its way through `consume_string_payload`: it is read line by
line, so that the lines, and not the body, are taken for messages.
-/
import McpSdk.IncomingPost

namespace McpSdk

open List
open RustStr (stripReturn linesFrom)

theorem lineToString_encode (line : Str) :
    lineToString (Utf8.encode line) = stripReturn line := by
  rcases eq_nil_or_concat line with rfl | ⟨before, c, rfl⟩
  · rfl
  · rw [concat_eq_append]
    by_cases hc : c = '\r'
    · subst hc
      have hbytes : Utf8.encode (before ++ ['\r']) =
          Utf8.encode before ++ [13] := by
        rw [Utf8.encode_append]
        rfl
      simp [lineToString, hbytes, stripReturn]
    · have hlast : (Utf8.encode (before ++ [c])).getLast? ≠ some 13 := by
        intro hlast
        have hne : Utf8.encode [c] ≠ [] := by
          obtain ⟨lead, tail, hbytes, -⟩ := Utf8.encodeChar_eq_cons c
          simp [hbytes]
        have hmem : (13 : UInt8) ∈ String.utf8EncodeChar c := by
          rw [Utf8.encode_append, getLast?_append_of_ne_nil _ hne] at hlast
          simpa using mem_of_getLast? hlast
        have hcode := Utf8.ascii_mem_encodeChar hmem (by decide)
        exact hc (Char.ext (UInt32.toNat.inj hcode))
      rw [lineToString, if_neg hlast, Utf8.decodeLossy_encode]
      simp [stripReturn, hc]

namespace IncomingPost

open HandleMessage

universe u v w

variable {ι : Type u} {β : Type v} {ε : Type w}

def payloadLines (body : Str) : List Str :=
  RustStr.lines (body ++ ['\n'])

theorem encode_flatMap_line (pieces : List Str) :
    Utf8.encode (pieces.flatMap (· ++ ['\n'])) =
      (pieces.map Utf8.encode).flatMap (· ++ [newline]) := by
  induction pieces with
  | nil => rfl
  | cons piece pieces ih =>
    rw [flatMap_cons, Utf8.encode_append, Utf8.encode_append, ih]
    rfl

theorem length_le_flatMap_line (lines : List Bytes) :
    lines.length ≤ (lines.flatMap (· ++ [newline])).length := by
  induction lines with
  | nil => exact Nat.le_refl _
  | cons line lines ih =>
    simp only [flatMap_cons, length_append, length_cons, length_nil]
    omega

theorem length_encode_le_of_mem {body : Str} {pieces : List Str}
    (hbody : body ++ ['\n'] = pieces.flatMap (· ++ ['\n'])) {piece : Str}
    (hpiece : piece ∈ pieces) : (Utf8.encode piece).length ≤ (Utf8.encode body).length := by
  obtain ⟨before, after, rfl⟩ := append_of_mem hpiece
  have hlength := congrArg (fun text => (Utf8.encode text).length) hbody
  simp only [flatMap_append, flatMap_cons, Utf8.encode_append, length_append] at hlength
  omega

section

variable {server : Server ι β ε}

/-- However the bytes arrive, the transport receives what the lines parse as, if
none can be too long. -/
theorem Delivery.received_eq {body : Str} (self : Delivery server body)
    (hfits : (Utf8.encode body).length ≤ server.maxLineLength) :
    server.received self.chunks = (payloadLines body).filterMap server.clientMessages := by
  obtain ⟨pieces, hpieces, hbody⟩ := RustStr.exists_pieces body
  have hflatten : self.chunks.flatten =
      (pieces.map Utf8.encode).flatMap (· ++ [newline]) := by
    rw [self.chunks_flatten, hbody, encode_flatMap_line]
  have hlines : ∀ line ∈ pieces.map Utf8.encode, newline ∉ line := by
    intro line hline
    obtain ⟨piece, hpiece, rfl⟩ := mem_map.mp hline
    exact @Utf8.ascii_not_mem_encode _ _ '\n' (by decide) rfl (hpieces piece hpiece)
  have hfuel : (pieces.map Utf8.encode).length ≤
      self.chunks.flatten.length := by
    rw [hflatten]
    exact length_le_flatMap_line _
  rw [Server.received, readLines_eq_map self.chunks_ne_nil hlines hflatten hfuel,
    payloadLines, hbody, RustStr.lines_flatMap hpieces, map_map, filterMap_map, filterMap_map]
  refine filterMap_congr fun piece hpiece => ?_
  have hpieceFits := Nat.le_trans (length_encode_le_of_mem hbody hpiece) hfits
  simp [cappedLine, hpieceFits, Server.readMessages, lineToString_encode]

/-- The white space between the tokens of a JSON text. -/
def isJsonSpace (c : Char) : Bool :=
  c = ' ' || c = '\n' || c = '\r' || c = '\t'

def IsBlank (text : Str) : Prop :=
  ∀ c ∈ text, isJsonSpace c = true

/-- A JSON parser on white space at the ends, and on a text without a token. -/
structure SkipsSpaces (server : Server ι β ε) : Prop where
  blank : ∀ {text}, IsBlank text → server.parse text = none
  around : ∀ {left right} (text), IsBlank left → IsBlank right →
    server.parse (left ++ text ++ right) = server.parse text

theorem IsBlank.append {left right : Str} (hleft : IsBlank left)
    (hright : IsBlank right) : IsBlank (left ++ right) :=
  forall_mem_append.mpr ⟨hleft, hright⟩

section

variable (hspaces : SkipsSpaces server)

include hspaces

theorem SkipsSpaces.clientMessages_blank
    {text : Str} (htext : IsBlank text) : server.clientMessages text = none := by
  rw [Server.clientMessages, hspaces.blank htext]
  rfl

theorem SkipsSpaces.clientMessages_around {left right : Str} (text : Str) (hleft : IsBlank left)
    (hright : IsBlank right) :
    server.clientMessages (left ++ text ++ right) = server.clientMessages text := by
  rw [Server.clientMessages, hspaces.around text hleft hright]
  rfl

theorem SkipsSpaces.clientMessages_stripReturn (line : Str) :
    server.clientMessages (stripReturn line) = server.clientMessages line := by
  rcases RustStr.stripReturn_eq line with hline | hline
  · rw [← hline]
  · have hreturn : IsBlank ['\r'] := by simp [IsBlank, isJsonSpace]
    have haround := hspaces.clientMessages_around
      (stripReturn line) (forall_mem_nil _) hreturn
    rw [nil_append, ← hline] at haround
    exact haround.symm

theorem SkipsSpaces.filterMap_blank {acc text : Str} (hacc : IsBlank acc) (htext : IsBlank text) :
    (linesFrom acc text).filterMap server.clientMessages = [] := by
  rw [filterMap_eq_nil_iff]
  intro line hline
  refine hspaces.clientMessages_blank fun c hc => ?_
  exact (RustStr.mem_of_mem_linesFrom hline hc).elim (hacc c) (htext c)

theorem SkipsSpaces.filterMap_core
    {acc core right : Str} (hacc : IsBlank acc) (hcore : '\n' ∉ core) (hright : IsBlank right) :
    (linesFrom acc (core ++ (right ++ ['\n']))).filterMap server.clientMessages =
      (server.clientMessages core).toList := by
  have hmem : '\n' ∈ right ++ ['\n'] := by simp
  obtain ⟨spaces, later, hcut, hspacesLine⟩ := eq_append_cons_of_mem hmem
  have hblank : IsBlank (right ++ ['\n']) := hright.append (by simp [IsBlank, isJsonSpace])
  rw [hcut] at hblank
  obtain ⟨hspacesBlank, hlater⟩ := forall_mem_append.mp hblank
  have hline : '\n' ∉ core ++ spaces := by simp [hcore, hspacesLine]
  rw [hcut, ← append_assoc, RustStr.linesFrom_line hline,
    filterMap_cons, hspaces.clientMessages_stripReturn,
    ← append_assoc, hspaces.clientMessages_around core hacc hspacesBlank,
    hspaces.filterMap_blank (forall_mem_nil _) (forall_mem_cons.mp hlater).2]
  cases server.clientMessages core with
  | none => rfl
  | some messages => rfl

theorem SkipsSpaces.filterMap_left {acc left core right : Str} (hacc : IsBlank acc)
    (hleft : IsBlank left) (hcore : '\n' ∉ core) (hright : IsBlank right) :
    (linesFrom acc (left ++ (core ++ (right ++ ['\n'])))).filterMap server.clientMessages =
      (server.clientMessages core).toList := by
  induction left generalizing acc with
  | nil => exact hspaces.filterMap_core hacc hcore hright
  | cons c left ih =>
    obtain ⟨hc, hlater⟩ := forall_mem_cons.mp hleft
    rw [cons_append, linesFrom]
    split
    · have hfirst : server.clientMessages (stripReturn acc) = none := by
        rw [hspaces.clientMessages_stripReturn, hspaces.clientMessages_blank hacc]
      refine (filterMap_cons_none hfirst).trans ?_
      exact ih (forall_mem_nil _) hlater
    · exact ih (hacc.append (by simpa [IsBlank] using hc)) hlater

end

/-- A body that parses and fits is received as just that, exactly when its lines
give just that; so it is without a newline but in white space at its ends. -/
theorem received_eq_singleton_iff {body : Str}
    {messages : ClientMessages ι β} (hparses : server.clientMessages body = some messages)
    (hfits : (Utf8.encode body).length ≤ server.maxLineLength) (delivery : Delivery server body) :
    (server.received delivery.chunks = [messages] ↔
        (payloadLines body).filterMap server.clientMessages = [messages]) ∧
      (SkipsSpaces server → ∀ left core right,
        body = left ++ core ++ right → IsBlank left → IsBlank right →
          '\n' ∉ core → server.received delivery.chunks = [messages]) := by
  have hreceived := delivery.received_eq hfits
  refine ⟨by rw [hreceived], ?_⟩
  rintro hspaces left core right rfl hleft hright hcore
  rw [hspaces.clientMessages_around core hleft hright] at hparses
  rw [hreceived, payloadLines, append_assoc, append_assoc,
    RustStr.lines, hspaces.filterMap_left (forall_mem_nil _) hleft hcore hright, hparses]
  rfl

end

namespace PostBodyWitness

open IncomingPostWitness (resultText resultValue)

def squeeze (text : Str) : Str :=
  text.filter fun c => !isJsonSpace c

/-- One result, alone or in an array, with any white space between. -/
def server : Server Nat Unit Unit :=
  { IncomingPostWitness.server false with
    parse := fun text =>
      if squeeze text = resultText then some resultValue
      else if squeeze text = ['['] ++ resultText ++ [']'] then
        some (.array [resultValue])
      else none }

theorem squeeze_blank {text : Str} (htext : IsBlank text) : squeeze text = [] := by
  rw [squeeze, filter_eq_nil_iff]
  intro c hc
  simp [htext c hc]

theorem server_skipsSpaces : SkipsSpaces server where
  blank := by
    intro text htext
    change (if squeeze text = _ then _ else _) = none
    rw [squeeze_blank htext]
    rfl
  around := by
    intro left right text hleft hright
    have hsqueeze : squeeze (left ++ text ++ right) = squeeze text := by
      have hends := And.intro (squeeze_blank hleft) (squeeze_blank hright)
      rw [squeeze, squeeze] at hends
      rw [squeeze, squeeze, filter_append, filter_append, hends.1, hends.2, nil_append, append_nil]
    change (if squeeze _ = _ then _ else _) = _
    rw [hsqueeze]
    rfl

def spaced : Str :=
  "\r\n  " ++ resultText ++ "\t\r\n\n"

theorem received_spaced :
    server.clientMessages spaced = some (.single (.response 1 ())) ∧
      server.received (Delivery.whole server spaced).chunks = [.single (.response 1 ())] := by
  have hparses : server.clientMessages spaced =
      some (.single (.response 1 ())) := by
    decide +kernel
  have hleft : IsBlank "\r\n  " := by simp [IsBlank, isJsonSpace]
  have hright : IsBlank "\t\r\n\n" := by simp [IsBlank, isJsonSpace]
  refine ⟨hparses, ?_⟩
  exact (received_eq_singleton_iff hparses (by decide +kernel) _).2
    server_skipsSpaces _ resultText _ rfl hleft hright (by decide +kernel)

def pretty : Str :=
  resultText.take 17 ++ '\n' :: resultText.drop 17

def array : Str :=
  "[\n" ++ resultText ++ "\n]"

/-- Of the object nothing is received, and of the array its element. -/
theorem received_lines :
    (server.clientMessages pretty = some (.single (.response 1 ())) ∧
      (Utf8.encode pretty).length ≤ server.maxLineLength ∧
      server.received (Delivery.whole server pretty).chunks = []) ∧
    (server.clientMessages array = some (.batch [.response 1 ()]) ∧
      (Utf8.encode array).length ≤ server.maxLineLength ∧
      server.received (Delivery.whole server array).chunks = [.single (.response 1 ())]) := by
  decide +kernel

end PostBodyWitness

end IncomingPost

end McpSdk
