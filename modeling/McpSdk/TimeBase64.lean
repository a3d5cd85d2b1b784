/-
`TimeBase64Generator`: the id is the eight bytes of the milliseconds since the
UNIX epoch, least significant first, in the URL-safe Base64 alphabet.
-/
import McpSdk.Base64
import McpSdk.SseEvent

namespace McpSdk

structure TimeBase64Generator where
  prefixText : Str
deriving Repr, DecidableEq

namespace TimeBase64Generator

def new (prefixText : Option Str) : TimeBase64Generator :=
  ⟨prefixText.getD []⟩

def generate (self : TimeBase64Generator) (timestamp : UInt64) : Str :=
  let bytes := Base64.leBytes 8 timestamp.toNat
  let encoded := Base64.encode bytes
  if self.prefixText.isEmpty then encoded else self.prefixText ++ encoded

/-- The timestamp with its bytes in the opposite order, and two zero bits. -/
def swapped (timestamp : UInt64) : Nat :=
  4 * Base64.swapBytes 8 timestamp.toNat

def sixBits (timestamp : UInt64) (place : Nat) : Nat :=
  swapped timestamp / Nat.pow 64 place % 64

/-- The highest six bits of the swapped timestamps that differ. -/
def apart (left right : UInt64) : Nat :=
  Base64.apart (swapped left) (swapped right)

theorem utf8_generate (self : TimeBase64Generator) (timestamp : UInt64) :
    Utf8.encode (self.generate timestamp) = Utf8.encode self.prefixText ++
      (Base64.beDigits 11 (swapped timestamp)).map Base64.code := by
  have hgenerate : self.generate timestamp = self.prefixText ++
      Base64.encode (Base64.leBytes 8 timestamp.toNat) := by
    unfold generate
    cases self.prefixText <;> rfl
  rw [hgenerate, Utf8.encode_append, Base64.utf8_encode, Base64.digits_leBytes]
  rfl

theorem append_lt_append_iff (front left right : Bytes) :
    front ++ left < front ++ right ↔ left < right := by
  induction front with
  | nil => rfl
  | cons head front ih => simp [ih]

/-- The characters of the highest six bits that differ decide; for letters this
is the order of the swapped timestamps, in which the lowest byte counts most. -/
theorem generate_lt_iff (self : TimeBase64Generator) (left right : UInt64) :
    (Utf8.encode (self.generate left) < Utf8.encode (self.generate right) ↔
      Base64.rank (sixBits left (apart left right)) <
        Base64.rank (sixBits right (apart left right))) ∧
    (sixBits left (apart left right) < 52 ∧ sixBits right (apart left right) < 52 →
      (Utf8.encode (self.generate left) < Utf8.encode (self.generate right) ↔
        swapped left < swapped right)) := by
  have hsmall : ∀ timestamp, swapped timestamp < Nat.pow 64 11 := by
    intro timestamp
    exact (Nat.mul_lt_mul_left (by decide)).mpr (Base64.swapBytes_lt 8 timestamp.toNat)
  have horder : Utf8.encode (self.generate left) < Utf8.encode (self.generate right) ↔
      Base64.rank (sixBits left (apart left right)) <
        Base64.rank (sixBits right (apart left right)) := by
    rw [utf8_generate, utf8_generate, append_lt_append_iff]
    refine Base64.map_code_beDigits_lt_iff 11 ?_
    rw [Nat.div_eq_of_lt (hsmall left), Nat.div_eq_of_lt (hsmall right)]
  refine ⟨horder, fun ⟨hleft, hright⟩ => ?_⟩
  rw [horder, Base64.rank_lt_iff hleft hright, Base64.lt_iff_digit_lt (swapped left)]
  rfl

/-- `_wAAAAAAAAA` comes after `AAEAAAAAAAA`. -/
theorem generate_255_256 :
    ¬ Utf8.encode ((new none).generate 255) < Utf8.encode ((new none).generate 256) := by
  decide +kernel

end TimeBase64Generator

end McpSdk
