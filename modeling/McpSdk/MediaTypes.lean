/-
The `Content-Type` of a reply. The client compares the whole value with two
media types, so that one with parameters or blanks is none of them.
-/
import McpSdk.HttpStream

namespace McpSdk.MediaTypes

open List
open StartStream (ResponseType validateResponseType headerToStr replied Body)

def text : ResponseType → Str
  | .eventStream => "text/event-stream"
  | .json => "application/json"

def isOws (byte : UInt8) : Bool :=
  byte = 32 ∨ byte = 9

def trimOws (value : Bytes) : Bytes :=
  (value.dropWhile isOws).rdropWhile isOws

/-- The bytes as characters, the ASCII letters in lower case. -/
def lowerText (value : Bytes) : Str :=
  value.map fun byte => (Char.ofNat byte.toNat).toLower

/-- What stands before the parameters, without blanks around it. -/
def mediaType (value : Bytes) : Str :=
  lowerText (trimOws (value.takeWhile (· ≠ 59)))

/-- Nothing but a media type: no parameters, and no blanks around it. -/
structure IsBare (value : Bytes) : Prop where
  semicolon : 59 ∉ value
  trimmed : trimOws value = value

/-- A reply with that header is processed as that kind of body, an event stream
also for the standalone stream. -/
def Processed (value : Bytes) : ResponseType → Prop
  | .json => ∀ body : Body, replied (.ok ⟨200, some value, body⟩) =
      match body.bytes with
      | .ok bytes => .json bytes
      | .error error => .returned (.error error)
  | .eventStream =>
    (∀ body : Body, replied (.ok ⟨200, some value, body⟩) = .eventStream body) ∧
    ∀ client sessionId headers retryCount status mcpSessionId,
      200 ≤ status → status < 300 →
        HttpStream.getPhase client sessionId headers retryCount
          (.ok ⟨status, some value, mcpSessionId⟩) = .reading

theorem mem_text {kind : ResponseType} {c : Char} (hc : c ∈ text kind) :
    32 < c.toNat ∧ c.toNat < 127 ∧ c ≠ ';' := by
  have hall : (text kind).all (fun c =>
      32 < c.toNat ∧ c.toNat < 127 ∧ c ≠ ';') = true := by
    cases kind with
    | eventStream => decide +kernel
    | json => decide +kernel
  exact of_decide_eq_true (all_eq_true.mp hall c hc)

theorem byte_of_lower_range {byte : UInt8} (hlow : 32 < (Char.ofNat byte.toNat).toLower.toNat)
    (hhigh : (Char.ofNat byte.toNat).toLower.toNat < 127) : 32 < byte.toNat ∧ byte.toNat < 127 := by
  have hall : ∀ n < 256, 32 < (Char.ofNat n).toLower.toNat →
      (Char.ofNat n).toLower.toNat < 127 → 32 < n ∧ n < 127 := by
    decide +kernel
  exact hall byte.toNat byte.toNat_lt hlow hhigh

section Value

variable {value : Bytes} {kind : ResponseType}

theorem range_of_lowerText (hlower : lowerText value = text kind) {byte : UInt8}
    (hbyte : byte ∈ value) : 32 < byte.toNat ∧ byte.toNat < 127 ∧ byte ≠ 59 := by
  have hmem : (Char.ofNat byte.toNat).toLower ∈ text kind := by
    rw [← hlower]
    exact mem_map_of_mem hbyte
  obtain ⟨hlow, hhigh, hne⟩ := mem_text hmem
  obtain ⟨hfirst, hlast⟩ := byte_of_lower_range hlow hhigh
  refine ⟨hfirst, hlast, ?_⟩
  rintro rfl
  exact hne (by decide)

theorem headerToStr_of_lowerText (hlower : lowerText value = text kind) :
    headerToStr value = some (value.map fun byte => Char.ofNat byte.toNat) := by
  refine if_pos (all_eq_true.mpr ?_)
  intro byte hbyte
  obtain ⟨hlow, hhigh, -⟩ := range_of_lowerText hlower hbyte
  refine decide_eq_true (.inr ⟨?_, ?_⟩)
  · exact UInt8.le_iff_toNat_le.mpr (Nat.le_of_lt hlow)
  · exact UInt8.lt_iff_toNat_lt.mpr hhigh

theorem text_eventStream_ne_json : text .eventStream ≠ text .json := by
  decide

theorem validateResponseType_iff :
    validateResponseType (some value) = .ok kind ↔ lowerText value = text kind := by
  constructor
  · intro htype
    rw [validateResponseType] at htype
    dsimp only at htype
    split at htype
    · next read hread =>
      obtain ⟨-, hread⟩ := Option.ite_none_right_eq_some.mp hread
      cases hread
      rw [map_map] at htype
      change (if lowerText value = text .eventStream then _
        else if lowerText value = text .json then _ else _) = _ at htype
      split at htype
      · next hlower =>
        cases htype
        exact hlower
      · split at htype
        · next hlower =>
          cases htype
          exact hlower
        · cases htype
    · cases htype
  · intro hlower
    rw [validateResponseType, headerToStr_of_lowerText hlower]
    dsimp only
    rw [map_map]
    change (if lowerText value = text .eventStream then _
      else if lowerText value = text .json then _ else _) = _
    cases kind with
    | eventStream => rw [if_pos hlower]
    | json =>
      rw [if_neg (fun heq => text_eventStream_ne_json (heq.symm.trans hlower)), if_pos hlower]

theorem replied_eq (value : Bytes) (body : Body) :
    replied (.ok ⟨200, some value, body⟩) =
      match validateResponseType (some value) with
      | .error error => .returned (.error error)
      | .ok .eventStream => .eventStream body
      | .ok .json =>
        match body.bytes with
        | .ok bytes => .json bytes
        | .error error => .returned (.error error) := rfl

theorem processed_iff : Processed value kind ↔ validateResponseType (some value) = .ok kind := by
  cases kind with
  | json =>
    constructor
    · intro hprocessed
      have hempty := hprocessed ⟨[], none⟩
      rw [replied_eq] at hempty
      split at hempty
      · cases hempty
      · cases hempty
      · next htype => exact htype
    · intro htype body
      rw [replied_eq, htype]
  | eventStream =>
    constructor
    · rintro ⟨hprocessed, -⟩
      have hempty := hprocessed ⟨[], none⟩
      rw [replied_eq] at hempty
      split at hempty
      · cases hempty
      · next htype => exact htype
      · cases hempty
    · intro htype
      refine ⟨?_, ?_⟩
      · intro body
        rw [replied_eq, htype]
      · intro client sessionId headers retryCount status mcpSessionId hlow hhigh
        rw [HttpStream.getPhase, HttpStream.httpReply, if_pos ⟨hlow, hhigh⟩]
        dsimp only
        rw [htype]

theorem isBare_of_lowerText (hlower : lowerText value = text kind) : IsBare value := by
  have hows : ∀ byte ∈ value, isOws byte ≠ true := by
    intro byte hbyte hblank
    obtain ⟨hlow, -, -⟩ := range_of_lowerText hlower hbyte
    rcases of_decide_eq_true hblank with rfl | rfl
    · exact absurd hlow (by decide)
    · exact absurd hlow (by decide)
  refine ⟨?_, ?_⟩
  · intro hsemicolon
    exact (range_of_lowerText hlower hsemicolon).2.2 rfl
  · have hdrop : value.dropWhile isOws = value := by
      cases value with
      | nil => rfl
      | cons byte value =>
        exact dropWhile_cons_of_neg (hows byte mem_cons_self)
    rw [trimOws, hdrop, rdropWhile_eq_self_iff]
    intro hne
    exact hows _ (getLast_mem hne)

theorem IsBare.mediaType_eq (hbare : IsBare value) : mediaType value = lowerText value := by
  have htake : value.takeWhile (· ≠ 59) = value := by
    rw [takeWhile_eq_self_iff]
    intro byte hbyte
    refine decide_eq_true ?_
    rintro rfl
    exact hbare.semicolon hbyte
  rw [mediaType, htake, hbare.trimmed]

/-- For every `Content-Type` of one of the two media types: the reply is
processed as that kind of body exactly when the value is nothing else. -/
theorem mediaType_processed_iff (hkind : mediaType value = text kind) :
    Processed value kind ↔ IsBare value := by
  rw [processed_iff, validateResponseType_iff]
  constructor
  · intro hlower
    exact isBare_of_lowerText hlower
  · intro hbare
    rw [← hbare.mediaType_eq]
    exact hkind

end Value

namespace MediaTypesWitness

def bytes (value : String) : Bytes :=
  Utf8.encode value.toList

/-- The usual value for JSON, and one for an event stream. -/
theorem parameters_refused :
    mediaType (bytes "application/json; charset=utf-8") = text .json ∧
      replied (.ok ⟨200, some (bytes "application/json; charset=utf-8"), ⟨[], none⟩⟩) =
        .returned (.error (.unexpectedContentType "application/json; charset=utf-8")) ∧
      mediaType (bytes "text/event-stream;charset=UTF-8") = text .eventStream ∧
      HttpStream.getPhase ⟨⟨fun name => .ok name, fun _ => .ok ()⟩, none, 3, 0⟩
          none none 0
          (.ok ⟨200, some (bytes "text/event-stream;charset=UTF-8"), none⟩) =
        .returned (.error (.failedToOpenSseStream
          "SSE stream response returned an unexpected Content-Type.")) := by
  refine ⟨by decide +kernel, ?_, by decide +kernel, by decide +kernel⟩
  have htype : validateResponseType
      (some (bytes "application/json; charset=utf-8")) =
        .error (.unexpectedContentType
          "application/json; charset=utf-8") := by
    decide +kernel
  rw [replied_eq, htype]

theorem json_processed : Processed (bytes "Application/JSON") .json :=
  (mediaType_processed_iff (by decide +kernel)).mpr ⟨by decide +kernel, by decide +kernel⟩

end MediaTypesWitness

end McpSdk.MediaTypes
