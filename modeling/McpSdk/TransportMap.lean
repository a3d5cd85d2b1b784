/-
The transports of a session and the slot for the one of the standalone stream. A
shared pointer is a number here.
-/
import Mathlib.Logic.Function.Basic
import McpSdk.SseEvent

namespace McpSdk.TransportMap

def defaultStreamId : Str := "STANDALONE-STREAM"

structure SseTransport where
  /-- The streams that `start` takes are still there. -/
  readWriteStreams : Bool
  shutdownSource : Bool
  isShutDown : Bool
deriving Repr, DecidableEq

namespace SseTransport

def new : SseTransport :=
  ⟨true, false, false⟩

def start (self : SseTransport) : Except Str Unit × SseTransport :=
  if self.readWriteStreams then
    (.ok (), ⟨false, true, self.isShutDown⟩)
  else
    (.error "SSE streams already taken or transport not initialized",
      { self with shutdownSource := true })

/-- A transport whose reader has stopped listening is not marked. -/
def shutDown (self : SseTransport) (listening : Bool) : Except Str Unit × SseTransport :=
  if self.shutdownSource && !listening then
    (.error "Cancellation channel closed", self)
  else (.ok (), { self with shutdownSource := false, isShutDown := true })

/-- Started, and not shut down. -/
def Live (self : SseTransport) : Prop :=
  self.readWriteStreams = false ∧ self.isShutDown = false

instance (self : SseTransport) : Decidable self.Live :=
  inferInstanceAs (Decidable (_ ∧ _))

theorem not_live_new : ¬ new.Live := by
  decide

theorem isShutDown_of_start {self transport : SseTransport} {result : Except Str Unit}
    (hstart : self.start = (result, transport)) : transport.isShutDown = self.isShutDown := by
  rw [start] at hstart
  split at hstart
  · cases hstart
    rfl
  · cases hstart
    rfl

theorem live_of_start_error {self transport : SseTransport} {message : Str}
    (hstart : self.start = (.error message, transport)) (hlive : transport.Live) : self.Live := by
  rw [start] at hstart
  split at hstart
  · cases hstart
  · cases hstart
    exact hlive

theorem eq_of_isShutDown_shutDown {self : SseTransport} {listening : Bool}
    (hopen : (self.shutDown listening).2.isShutDown = false) :
    (self.shutDown listening).2 = self := by
  by_cases hsource : (self.shutdownSource && !listening) = true
  · rw [shutDown, if_pos hsource]
  · rw [shutDown, if_neg hsource] at hopen
    cases hopen

end SseTransport

structure ServerRuntime where
  transports : Nat → SseTransport
  transportMap : Option Nat

namespace ServerRuntime

/-- No transport has been made; their numbers are still free. -/
def new : ServerRuntime :=
  ⟨fun _ => .new, none⟩

def setTransport (self : ServerRuntime) (id : Nat) (transport : SseTransport) : ServerRuntime :=
  { self with transports := Function.update self.transports id transport }

/-- `store_transport` while it holds the lock of the map. -/
def storeTransport (self : ServerRuntime) (streamId : Str) (id : Nat) : ServerRuntime :=
  if streamId ≠ defaultStreamId then self
  else { self with transportMap := some id }

def removeTransport (self : ServerRuntime) (streamId : Str) (id : Nat)
    (listening : Bool) : Except Str Unit × ServerRuntime :=
  if streamId ≠ defaultStreamId then (.ok (), self)
  else if self.transportMap = some id then
    let result := (self.transports id).shutDown listening
    (result.1, self.setTransport id result.2)
  else (.ok (), self)

/-- The first half of `shutdown`: what was in the map, and the runtime. -/
def takeTransport (self : ServerRuntime) : Option Nat × ServerRuntime :=
  (self.transportMap, { self with transportMap := none })

/-- The second half of `shutdown`, which ignores an error. -/
def shutDownTaken (self : ServerRuntime) (taken : Option Nat) (listening : Bool) : ServerRuntime :=
  match taken with
  | some id =>
    self.setTransport id ((self.transports id).shutDown listening).2
  | none => self

def defaultStreamExists (self : ServerRuntime) : Bool :=
  match self.transportMap with
  | some id => !(self.transports id).isShutDown
  | none => false

variable {runtime : ServerRuntime} {id : Nat}

theorem defaultStreamExists_iff :
    runtime.defaultStreamExists = true ↔ ∃ id, runtime.transportMap = some id ∧
        (runtime.transports id).isShutDown = false := by
  rw [defaultStreamExists]
  cases runtime.transportMap with
  | none => simp
  | some id => simp

theorem isShutDown_of_not_exists (hexists : runtime.defaultStreamExists = false)
    (hmap : runtime.transportMap = some id) : (runtime.transports id).isShutDown = true := by
  simpa [defaultStreamExists, hmap] using hexists

theorem not_live_of_not_exists (hexists : runtime.defaultStreamExists = false)
    (hmap : runtime.transportMap = some id) : ¬ (runtime.transports id).Live := by
  rintro ⟨-, hopen⟩
  rw [isShutDown_of_not_exists hexists hmap] at hopen
  cases hopen

variable (transport : SseTransport)

theorem setTransport_self : (runtime.setTransport id transport).transports id = transport :=
  Function.update_self ..

theorem setTransport_of_ne {other : Nat} (hne : other ≠ id) :
    (runtime.setTransport id transport).transports other = runtime.transports other :=
  Function.update_of_ne hne ..

theorem defaultStreamExists_setTransport_of_ne (hmap : runtime.transportMap ≠ some id) :
    (runtime.setTransport id transport).defaultStreamExists = runtime.defaultStreamExists := by
  rw [Bool.eq_iff_iff, defaultStreamExists_iff, defaultStreamExists_iff]
  refine exists_congr fun other => and_congr_right fun hother => ?_
  have hne : other ≠ id := fun heq => hmap (heq ▸ hother)
  rw [setTransport_of_ne transport hne]

/-- The map holds a live transport afterwards only if it did before. -/
theorem of_defaultStreamExists_setTransport {transport : SseTransport}
    (htransport : transport.isShutDown = false → (runtime.transports id).isShutDown = false)
    (hexists : (runtime.setTransport id transport).defaultStreamExists = true) :
    runtime.defaultStreamExists = true := by
  obtain ⟨other, hother, hopen⟩ := defaultStreamExists_iff.mp hexists
  refine defaultStreamExists_iff.mpr ⟨other, hother, ?_⟩
  by_cases heq : other = id
  · subst heq
    rw [setTransport_self] at hopen
    exact htransport hopen
  · rwa [setTransport_of_ne transport heq] at hopen

@[simp] theorem storeTransport_default :
    runtime.storeTransport defaultStreamId id = { runtime with transportMap := some id } :=
  if_neg (not_not_intro rfl)

variable {streamId : Str}

theorem storeTransport_of_ne (hstream : streamId ≠ defaultStreamId) :
    runtime.storeTransport streamId id = runtime :=
  if_pos hstream

theorem removeTransport_of_ne (listening : Bool) (hstream : streamId ≠ defaultStreamId) :
    (runtime.removeTransport streamId id listening).2 = runtime := by
  rw [removeTransport, if_pos hstream]

theorem removeTransport_cases (runtime : ServerRuntime) (streamId : Str)
    (id : Nat) (listening : Bool) :
    (runtime.removeTransport streamId id listening).2 = runtime ∨
      (runtime.removeTransport streamId id listening).2 = runtime.setTransport id
          ((runtime.transports id).shutDown listening).2 := by
  rw [removeTransport]
  split
  · exact .inl rfl
  · split
    · exact .inr rfl
    · exact .inl rfl

@[simp] theorem transportMap_removeTransport (streamId : Str) (listening : Bool) :
    (runtime.removeTransport streamId id listening).2.transportMap = runtime.transportMap := by
  rcases runtime.removeTransport_cases streamId id listening with heq | heq
  · rw [heq]
  · rw [heq]
    rfl

theorem removeTransport_of_open {listening : Bool} {other : Nat}
    (hopen : ((runtime.removeTransport streamId id listening).2.transports other).isShutDown =
      false) :
    (runtime.removeTransport streamId id listening).2.transports other =
      runtime.transports other := by
  rcases runtime.removeTransport_cases streamId id listening with heq | heq
  · rw [heq]
  · rw [heq] at hopen ⊢
    by_cases hid : other = id
    · subst hid
      rw [setTransport_self] at hopen ⊢
      exact SseTransport.eq_of_isShutDown_shutDown hopen
    · exact setTransport_of_ne _ hid

theorem of_defaultStreamExists_removeTransport {listening : Bool}
    (hexists : (runtime.removeTransport streamId id listening).2.defaultStreamExists = true) :
    runtime.defaultStreamExists = true := by
  obtain ⟨other, hother, hopen⟩ := defaultStreamExists_iff.mp hexists
  rw [removeTransport_of_open hopen] at hopen
  rw [transportMap_removeTransport] at hother
  exact defaultStreamExists_iff.mpr ⟨other, hother, hopen⟩

@[simp] theorem transportMap_shutDownTaken (taken : Option Nat) (listening : Bool) :
    (runtime.shutDownTaken taken listening).transportMap = runtime.transportMap := by
  cases taken with
  | none => rfl
  | some id => rfl

theorem of_defaultStreamExists_shutDownTaken {taken : Option Nat} {listening : Bool}
    (hexists : (runtime.shutDownTaken taken listening).defaultStreamExists = true) :
    runtime.defaultStreamExists = true := by
  cases taken with
  | none => exact hexists
  | some id =>
    refine of_defaultStreamExists_setTransport ?_ hexists
    intro hopen
    rwa [SseTransport.eq_of_isShutDown_shutDown hopen] at hopen

end ServerRuntime

end McpSdk.TransportMap
