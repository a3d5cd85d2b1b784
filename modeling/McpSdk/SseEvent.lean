/-
One server-sent event and its text form, which `SseParser` reads back.
-/
import McpSdk.RustStr

namespace McpSdk

/-- A Rust string: a sequence of Unicode characters. -/
abbrev Str := List Char

abbrev Bytes := List UInt8

structure SseEvent where
  event : Option Str
  data : Option Bytes
  id : Option Str
  retry : Option Nat
deriving Repr, DecidableEq

namespace SseEvent

def empty : SseEvent :=
  ⟨none, none, none, none⟩

def withData (self : SseEvent) (data : Str) : SseEvent :=
  { self with data := some (Utf8.encode data) }

def withId (self : SseEvent) (id : Str) : SseEvent :=
  { self with id := some id }

/-- `writeln!` of one `name: value` line. -/
def fieldLine (name value : Str) : Str :=
  name ++ ": " ++ value ++ ['\n']

/-- One data line for each line of the text, or a fixed one for other bytes. -/
def dataLines (data : Bytes) : Str :=
  match Utf8.decode? data with
  | some text => (RustStr.lines text).flatMap (fieldLine "data")
  | none => fieldLine "data" "[binary data]"

/-- The `Display` text: retry, id, event name, data, and an empty line. -/
def display (self : SseEvent) : Str :=
  (self.retry.elim [] fun n => fieldLine "retry" (RustStr.showNat n)) ++
    (self.id.elim [] (fieldLine "id")) ++
    (self.event.elim [] (fieldLine "event")) ++
    (self.data.elim [] dataLines) ++ ['\n']

def asBytes (self : SseEvent) : Bytes :=
  Utf8.encode self.display

end SseEvent

end McpSdk
