/-
The ids of stored events, made of session, stream and clock reading. The server
checks them as a header, and the store takes them apart again.
-/
import McpSdk.StandaloneStream
import McpSdk.TransportMap

namespace McpSdk

open List
open RustStr (splitOnceStr showNat split_eq)

universe u

variable {μ : Type u}

namespace InMemoryEventStore

/-- The end of a name that makes a separator with the one behind it. -/
def separatorStart : Str := "-."

/-- A name is found again before the separator, unless its end makes one. -/
theorem splitOnceStr_idSeparator_iff {name : Str} (hname : ¬ idSeparator <:+: name) (rest : Str) :
    splitOnceStr idSeparator (name ++ idSeparator ++ rest) =
        some (name, rest) ↔ ¬ separatorStart <:+ name := by
  have hcut : name ++ idSeparator.dropLast = name ++ ['-'] ++ ['.'] := by
    rw [append_assoc]
    rfl
  have hdot : ¬ idSeparator <:+ name ++ ['-'] ++ ['.'] := by
    intro hsuffix
    rcases List.suffix_concat_iff.mp hsuffix with hnil | ⟨start, heq, -⟩
    · cases hnil
    · have hlast := congrArg List.getLast? heq
      simp [idSeparator] at hlast
  have hdash : idSeparator <:+ name ++ ['-'] ↔ separatorStart <:+ name := by
    rw [List.suffix_concat_iff]
    constructor
    · rintro (hnil | ⟨start, heq, hstart⟩)
      · cases hnil
      · have hsame : separatorStart ++ ['-'] = start ++ ['-'] := heq
        rwa [append_cancel_right hsame]
    · exact fun hstart => .inr ⟨separatorStart, rfl, hstart⟩
  rw [RustStr.splitOnceStr_eq_some_iff (by decide), hcut,
    List.infix_concat_iff, List.infix_concat_iff, hdash]
  simp only [hdot, hname, false_or, or_false, true_and]

theorem split_generateEventId {sessionId streamId : Str} {timeStamp : Nat}
    (hsession : splitOnceStr idSeparator (sessionId ++ idSeparator ++ (streamId ++
      idSeparator ++ showNat timeStamp)) = some (sessionId,
      streamId ++ idSeparator ++ showNat timeStamp))
    (hstream : splitOnceStr idSeparator (streamId ++ idSeparator ++ showNat
      timeStamp) = some (streamId, showNat timeStamp)) :
    RustStr.split idSeparator (generateEventId sessionId streamId timeStamp) =
      [sessionId, streamId, showNat timeStamp] := by
  have hdigits : splitOnceStr idSeparator (showNat timeStamp) =
      none := by
    rw [RustStr.splitOnceStr_eq_none_iff (by decide)]
    intro hfound
    exact RustStr.not_mem_showNat (by decide) timeStamp (hfound.subset (mem_cons_self (a := '-')))
  have hid : generateEventId sessionId streamId timeStamp =
      sessionId ++ idSeparator ++
        (streamId ++ idSeparator ++ showNat timeStamp) := by
    simp [generateEventId]
  have hsep : idSeparator ≠ [] := by decide
  rw [hid, split_eq hsep, hsession]
  simp only
  rw [split_eq hsep, hstream]
  simp only
  rw [split_eq hsep, hdigits]

theorem split_of_parseEventId {eventId sessionId streamId : Str} {timeStamp : Nat}
    (hparse : parseEventId eventId = .ok (sessionId, streamId, timeStamp)) :
    ∃ digits, RustStr.split idSeparator eventId = [sessionId, streamId, digits] := by
  unfold parseEventId at hparse
  split at hparse
  · cases hparse
  · split at hparse
    · next session stream digits hsplit =>
      split at hparse
      · cases hparse
      · split at hparse
        · cases hparse
          exact ⟨digits, hsplit⟩
        · cases hparse
    · cases hparse

theorem splitOnceStr_of_split {text first second : Str} {parts : List Str}
    (hsplit : RustStr.split idSeparator text = first :: second :: parts) :
    ∃ rest, splitOnceStr idSeparator text = some (first, rest) ∧
      RustStr.split idSeparator rest = second :: parts := by
  rw [split_eq (by decide)] at hsplit
  cases hparts : splitOnceStr idSeparator text with
  | none =>
    rw [hparts] at hsplit
    cases hsplit
  | some found =>
    rw [hparts] at hsplit
    obtain ⟨rfl, hrest⟩ := List.cons.inj hsplit
    exact ⟨found.2, rfl, hrest⟩

/-- An id is taken apart exactly when neither name ends as a separator begins. -/
theorem parseEventId_generateEventId_iff {sessionId streamId : Str} (hsession : sessionId ≠ [])
    (hstream : streamId ≠ []) (hsessionSep : ¬ idSeparator <:+: sessionId)
    (hstreamSep : ¬ idSeparator <:+: streamId) (hsessionNul : '\x00' ∉ sessionId)
    (hstreamNul : '\x00' ∉ streamId) {timeStamp : Nat} (htime : timeStamp < Nat.pow 2 128) :
    parseEventId (generateEventId sessionId streamId timeStamp) =
        .ok (sessionId, streamId, timeStamp) ↔
      ¬ separatorStart <:+ sessionId ∧ ¬ separatorStart <:+ streamId := by
  have hid : generateEventId sessionId streamId timeStamp =
      sessionId ++ idSeparator ++
        (streamId ++ idSeparator ++ showNat timeStamp) := by
    simp [generateEventId]
  constructor
  · intro hparse
    obtain ⟨digits, hsplit⟩ := split_of_parseEventId hparse
    obtain ⟨rest, hfirst, hsplit⟩ := splitOnceStr_of_split hsplit
    have hrest : rest = streamId ++ idSeparator ++ showNat timeStamp := by
      have heq := RustStr.splitOnceStr_eq hfirst
      rw [hid] at heq
      exact (append_cancel_left heq).symm
    obtain ⟨last, hsecond, -⟩ := splitOnceStr_of_split hsplit
    have hlast : last = showNat timeStamp := by
      have heq := RustStr.splitOnceStr_eq hsecond
      rw [hrest] at heq
      exact (append_cancel_left heq).symm
    subst hlast hrest
    rw [hid] at hfirst
    exact ⟨(splitOnceStr_idSeparator_iff hsessionSep _).mp hfirst,
      (splitOnceStr_idSeparator_iff hstreamSep _).mp hsecond⟩
  · rintro ⟨hsessionEnd, hstreamEnd⟩
    have hsplit := split_generateEventId
      ((splitOnceStr_idSeparator_iff hsessionSep _).mpr hsessionEnd)
      ((splitOnceStr_idSeparator_iff hstreamSep (showNat timeStamp)).mpr hstreamEnd)
    have hnul : '\x00' ∉ generateEventId sessionId streamId timeStamp := by
      have hdigits := RustStr.not_mem_showNat
        (show ('\x00' : Char).isDigit = false by decide) timeStamp
      simp [generateEventId, hsessionNul, hstreamNul, hdigits, idSeparator]
    have hne : generateEventId sessionId streamId timeStamp ≠ [] := by
      simp [generateEventId, hsession]
    have hdigits : showNat timeStamp ≠ [] := Nat.toDigits_ne_nil
    rw [parseEventId, if_neg (by simp [hnul, hne]), hsplit]
    simp [hsession, hstream, hdigits, RustStr.parseUnsigned_showNat htime]

namespace EventIdWitness

/-- Neither name ends as the separator begins; the stream begins as it ends. -/
theorem parseEventId_dashed :
    parseEventId (generateEventId "s-.x-" ".-t" 5) = .ok ("s-.x-", ".-t", 5) :=
  (parseEventId_generateEventId_iff (by decide) (by decide) (by decide)
    (by decide) (by decide) (by decide) (by decide)).mpr (by decide)

/-- The session id loses its end to the stream id. -/
theorem parseEventId_overlap :
    ¬ idSeparator <:+: "s-." ∧ ¬ idSeparator <:+: "t" ∧
      parseEventId (generateEventId "s-." "t" 5) =
        .ok ("s", ".-t", 5) := by
  decide

end EventIdWitness

end InMemoryEventStore

def isGraphic (b : UInt8) : Bool :=
  0x21 ≤ b.toNat && b.toNat ≤ 0x7E

theorem isValidSessionId_ok_iff {value : Str} :
    isValidSessionId value = .ok () ↔ value ≠ [] ∧ (Utf8.encode value).length ≤ maxSessionIdLen ∧
        (Utf8.encode value).all isGraphic = true := by
  change (if value.isEmpty then _
    else if maxSessionIdLen < (Utf8.encode value).length then _
    else if !(Utf8.encode value).all isGraphic then _ else _) = _ ↔ _
  split
  · next hempty => simp [List.isEmpty_iff.mp hempty]
  · next hne =>
    rw [List.isEmpty_iff] at hne
    split
    · next hlong =>
      refine iff_of_false (by simp) ?_
      exact fun hvalid => Nat.not_lt.mpr hvalid.2.1 hlong
    · next hshort =>
      cases hall : (Utf8.encode value).all isGraphic with
      | false => simp
      | true => simp [hne, Nat.not_lt.mp hshort]

/-- `HeaderValue::to_str`: visible ASCII, spaces and tabs. -/
def headerText (value : Str) : Option Str :=
  if (Utf8.encode value).all fun b => isGraphic b || b = 32 || b = 9 then
    some value
  else none

theorem headerText_of_graphic {value : Str} (hgraphic : (Utf8.encode value).all isGraphic = true) :
    headerText value = some value := by
  apply if_pos
  rw [all_eq_true] at hgraphic ⊢
  intro b hb
  simp [hgraphic b hb]

theorem encode_digits {text : Str} (hdigits : ∀ c ∈ text, c.isDigit = true) :
    (Utf8.encode text).length = text.length ∧ (Utf8.encode text).all isGraphic = true := by
  induction text with
  | nil => exact ⟨rfl, rfl⟩
  | cons c text ih =>
    obtain ⟨hlength, hgraphic⟩ := ih fun d hd => hdigits d (mem_cons_of_mem c hd)
    obtain ⟨hlow, hhigh⟩ := RustStr.digit_range (hdigits c mem_cons_self)
    have hbyte : isGraphic (UInt8.ofNat c.toNat) = true := by
      have hvalue : (UInt8.ofNat c.toNat).toNat = c.toNat := by
        rw [UInt8.toNat_ofNat']
        omega
      simp only [isGraphic, hvalue, Bool.and_eq_true, decide_eq_true_eq]
      omega
    rw [Utf8.encode_cons, Utf8.encodeChar_of_ascii (by omega)]
    simp [hlength, hgraphic, hbyte]

open InMemoryEventStore TransportMap

/-- What stands between the session id and the clock reading. -/
def standaloneIdPart : Str :=
  InMemoryEventStore.idSeparator ++ defaultStreamId ++ InMemoryEventStore.idSeparator

theorem encode_generateEventId {sessionId : Str} (timeStamp : Nat)
    (hsession : (Utf8.encode sessionId).all isGraphic = true) :
    (Utf8.encode (generateEventId sessionId defaultStreamId timeStamp)).length =
        (Utf8.encode sessionId).length + 23 + (showNat timeStamp).length ∧
      (Utf8.encode (generateEventId sessionId defaultStreamId timeStamp)).all isGraphic = true := by
  obtain ⟨hlength, hgraphic⟩ := @encode_digits (showNat timeStamp)
    fun c hc => RustStr.isDigit_of_mem_showNat hc
  have hpart : (Utf8.encode standaloneIdPart).length = 23 := by decide
  have hpartGraphic : (Utf8.encode standaloneIdPart).all isGraphic = true := by
    decide
  have hid : generateEventId sessionId defaultStreamId timeStamp =
      sessionId ++ standaloneIdPart ++ showNat timeStamp := by
    simp [generateEventId, standaloneIdPart]
  rw [hid, Utf8.encode_append, Utf8.encode_append]
  constructor
  · rw [length_append, length_append, hpart, hlength]
  · rw [all_append, all_append, hsession, hpartGraphic, hgraphic]
    rfl

/-- The id of a standalone event is taken as a Last-Event-ID exactly when the
session id and the clock digits have at most 105 bytes together. -/
theorem parseSessionIdHeader_storeEvent_iff (self : InMemoryEventStore μ) {sessionId : Str}
    (hsession : isValidSessionId sessionId = .ok ()) (timeStamp : Nat) (message : μ) {eventId : Str}
    (hstored : (self.storeEvent sessionId defaultStreamId timeStamp message).1 = .ok eventId)
    {headers : HeaderMap} (hheader : headers.get mcpLastEventIdHeader = some (headerText eventId)) :
    parseSessionIdHeader headers mcpLastEventIdHeader = .ok (some eventId) ↔
      (Utf8.encode sessionId).length + (showNat timeStamp).length ≤ 105 := by
  cases hstored
  obtain ⟨hne, -, hgraphic⟩ := isValidSessionId_ok_iff.mp hsession
  obtain ⟨hlength, hall⟩ := encode_generateEventId timeStamp hgraphic
  have hid : generateEventId sessionId defaultStreamId timeStamp ≠ [] := by
    simp [generateEventId, hne]
  have hvalid : isValidSessionId
      (generateEventId sessionId defaultStreamId timeStamp) = .ok () ↔
        (Utf8.encode sessionId).length + (showNat timeStamp).length ≤
          105 := by
    rw [isValidSessionId_ok_iff, hlength, maxSessionIdLen]
    constructor
    · rintro ⟨-, hle, -⟩
      omega
    · exact fun hle => ⟨hid, by omega, hall⟩
  rw [← hvalid, parseSessionIdHeader, hheader, headerText_of_graphic hall]
  cases hresult : isValidSessionId
      (generateEventId sessionId defaultStreamId timeStamp) with
  | error msg => simp [hresult]
  | ok _ => simp [hresult]

namespace EventIdWitness

def sessionOf (length : Nat) : Str :=
  List.replicate length 'a'

def headersWith (eventId : Str) : HeaderMap :=
  ⟨[(mcpLastEventIdHeader, some eventId)]⟩

/-- A clock reading of 19 digits, as a clock in nanoseconds gives it. -/
def reading : Nat := 1700000000000000000

theorem parseSessionIdHeader_uuidLength :
    parseSessionIdHeader (headersWith (generateEventId (sessionOf 36) defaultStreamId reading))
      mcpLastEventIdHeader = .ok (some (generateEventId (sessionOf 36) defaultStreamId reading)) :=
  (parseSessionIdHeader_storeEvent_iff
    (InMemoryEventStore.new none : InMemoryEventStore Str)
    (by decide) reading [] rfl (by decide)).mpr (by decide)

/-- A valid session id of 87 bytes gives an id that is too long. -/
theorem parseSessionIdHeader_tooLong :
    isValidSessionId (sessionOf 87) = .ok () ∧
      ((InMemoryEventStore.new none : InMemoryEventStore Str).storeEvent
        (sessionOf 87) defaultStreamId reading []).1 =
          .ok (generateEventId (sessionOf 87) defaultStreamId reading) ∧
      parseSessionIdHeader (headersWith (generateEventId (sessionOf 87) defaultStreamId reading))
        mcpLastEventIdHeader =
          .error "session ID exceeds maximum length of 128 bytes" := by
  refine ⟨by decide +kernel, rfl, by decide +kernel⟩

end EventIdWitness

end McpSdk
