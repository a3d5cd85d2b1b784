/-
Short identifiers from a counter: its eight bytes, least significant first, in
the URL-safe Base64 alphabet without padding.
-/
import McpSdk.Base64
import McpSdk.SseEvent

namespace McpSdk

structure FastIdGenerator where
  counter : UInt64
  prefixText : Str
deriving Repr, DecidableEq

namespace FastIdGenerator

def new (prefixText : Option Str) : FastIdGenerator :=
  ⟨0, prefixText.getD []⟩

def idFor (self : FastIdGenerator) (counter : UInt64) : Str :=
  self.prefixText ++ Base64.encode (Base64.leBytes 8 counter.toNat)

/-- `fetch_add` wraps around. -/
def generate (self : FastIdGenerator) : Str × FastIdGenerator :=
  (self.idFor self.counter, { self with counter := self.counter + 1 })

theorem idFor_inj (self : FastIdGenerator) {a b : UInt64} :
    self.idFor a = self.idFor b ↔ a = b := by
  constructor
  · intro heq
    have hbytes := Base64.encode_injective (List.append_cancel_left heq)
    have ha : a.toNat < Nat.pow 256 8 := a.toNat_lt
    have hb : b.toNat < Nat.pow 256 8 := b.toNat_lt
    exact UInt64.toNat_inj.mp (Base64.leBytes_injective ha hb hbytes)
  · rintro rfl
    rfl

end FastIdGenerator

end McpSdk
