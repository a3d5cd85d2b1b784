/-
The URL-safe Base64 alphabet without padding, and the bytes of a number. The
order of the texts is that of the bytes read as a number only for letters.
-/
import McpSdk.Utf8
import Mathlib.Data.List.Nodup
import Mathlib.Data.Nat.Bitwise
import Mathlib.Tactic.Common

namespace Base64

open List

def alphabet : List Char :=
  "ABCDEFGHIJKLMNOPQRSTUVWXYZabcdefghijklmnopqrstuvwxyz0123456789-_".toList

def char (index : Nat) : Char :=
  alphabet.getD index '_'

/-- `URL_SAFE_NO_PAD.encode`: three bytes make four characters. -/
def encode : List UInt8 → List Char
  | [] => []
  | [a] =>
    [char (a.toNat / 4), char (a.toNat % 4 * 16)]
  | [a, b] =>
    [char (a.toNat / 4),
      char (a.toNat % 4 * 16 + b.toNat / 16),
      char (b.toNat % 16 * 4)]
  | a :: b :: c :: rest =>
    char (a.toNat / 4) ::
      char (a.toNat % 4 * 16 + b.toNat / 16) ::
      char (b.toNat % 16 * 4 + c.toNat / 64) ::
      char (c.toNat % 64) :: encode rest

/-- The digits of `encode`, six bits each. -/
def digits : List UInt8 → List Nat
  | [] => []
  | [a] => [a.toNat / 4, a.toNat % 4 * 16]
  | [a, b] =>
    [a.toNat / 4, a.toNat % 4 * 16 + b.toNat / 16, b.toNat % 16 * 4]
  | a :: b :: c :: rest =>
    a.toNat / 4 :: (a.toNat % 4 * 16 + b.toNat / 16) ::
      (b.toNat % 16 * 4 + c.toNat / 64) :: c.toNat % 64 :: digits rest

def code (digit : Nat) : UInt8 :=
  UInt8.ofNat (char digit).toNat

/-- The lowest `count` bytes of a number, least significant first. -/
def leBytes : Nat → Nat → List UInt8
  | 0, _ => []
  | count + 1, n => UInt8.ofNat n :: leBytes count (n / 256)

/-- The bytes as a number, most significant first. -/
def ofBytes : List UInt8 → Nat
  | [] => 0
  | byte :: rest => byte.toNat * Nat.pow 256 rest.length + ofBytes rest

/-- The lowest `count` digits of six bits, most significant first. -/
def beDigits : Nat → Nat → List Nat
  | 0, _ => []
  | count + 1, n => n / Nat.pow 64 count % 64 :: beDigits count n

/-- The highest digit of six bits at which two numbers differ. -/
def apart (left right : Nat) : Nat :=
  (left ^^^ right).log2 / 6

/-- The lowest `count` bytes of a number in the opposite order. -/
def swapBytes : Nat → Nat → Nat
  | 0, _ => 0
  | count + 1, n => n % 256 * Nat.pow 256 count + swapBytes count (n / 256)

theorem length_alphabet : alphabet.length = 64 := by
  decide +kernel

theorem alphabet_nodup : alphabet.Nodup := by
  decide +kernel

theorem char_inj {i j : Nat} (hi : i < 64) (hj : j < 64) (heq : char i = char j) : i = j := by
  have hi' : i < alphabet.length := by rwa [length_alphabet]
  have hj' : j < alphabet.length := by rwa [length_alphabet]
  have hget : alphabet[i] = alphabet[j] := by
    simpa [char, getD_eq_getElem?_getD, hi', hj'] using heq
  exact (List.Nodup.getElem_inj_iff alphabet_nodup).mp hget

theorem encode_injective {left right : List UInt8}
    (heq : encode left = encode right) : left = right := by
  induction left using encode.induct generalizing right with
  | case1 =>
    match right with
    | [] => rfl
    | [_] | [_, _] | _ :: _ :: _ :: _ => simp [encode] at heq
  | case2 a =>
    match right with
    | [] | [_, _] | _ :: _ :: _ :: _ => simp [encode] at heq
    | [a'] =>
      simp only [encode, cons.injEq, and_true] at heq
      have ha := a.toNat_lt
      have ha' := a'.toNat_lt
      have h1 := char_inj (by omega) (by omega) heq.1
      have h2 := char_inj (by omega) (by omega) heq.2
      have hbyte : a = a' := UInt8.toNat_inj.mp (by omega)
      rw [hbyte]
  | case3 a b =>
    match right with
    | [] | [_] | _ :: _ :: _ :: _ => simp [encode] at heq
    | [a', b'] =>
      simp only [encode, cons.injEq, and_true] at heq
      have ha := a.toNat_lt
      have ha' := a'.toNat_lt
      have hb := b.toNat_lt
      have hb' := b'.toNat_lt
      have h1 := char_inj (by omega) (by omega) heq.1
      have h2 := char_inj (by omega) (by omega) heq.2.1
      have h3 := char_inj (by omega) (by omega) heq.2.2
      have hfirst : a = a' := UInt8.toNat_inj.mp (by omega)
      have hsecond : b = b' := UInt8.toNat_inj.mp (by omega)
      rw [hfirst, hsecond]
  | case4 a b c rest ih =>
    match right with
    | [] | [_] | [_, _] => simp [encode] at heq
    | a' :: b' :: c' :: rest' =>
      simp only [encode, cons.injEq] at heq
      have ha := a.toNat_lt
      have ha' := a'.toNat_lt
      have hb := b.toNat_lt
      have hb' := b'.toNat_lt
      have hc := c.toNat_lt
      have hc' := c'.toNat_lt
      have h1 := char_inj (by omega) (by omega) heq.1
      have h2 := char_inj (by omega) (by omega) heq.2.1
      have h3 := char_inj (by omega) (by omega) heq.2.2.1
      have h4 := char_inj (by omega) (by omega) heq.2.2.2.1
      have hfirst : a = a' := UInt8.toNat_inj.mp (by omega)
      have hsecond : b = b' := UInt8.toNat_inj.mp (by omega)
      have hthird : c = c' := UInt8.toNat_inj.mp (by omega)
      rw [hfirst, hsecond, hthird, ih heq.2.2.2.2]

theorem leBytes_injective {count a b : Nat} (ha : a < Nat.pow 256 count)
    (hb : b < Nat.pow 256 count) (heq : leBytes count a = leBytes count b) : a = b := by
  induction count generalizing a b with
  | zero =>
    change a < 1 at ha
    change b < 1 at hb
    omega
  | succ count ih =>
    simp only [leBytes, cons.injEq] at heq
    have hlow : a % 256 = b % 256 := by
      have hbyte := congrArg UInt8.toNat heq.1
      simpa using hbyte
    have hhigh : a / 256 = b / 256 :=
      ih (Nat.div_lt_of_lt_mul (by rwa [Nat.mul_comm]))
        (Nat.div_lt_of_lt_mul (by rwa [Nat.mul_comm])) heq.2
    omega

theorem char_ascii (digit : Nat) : (char digit).toNat < 0x80 := by
  have hall : alphabet.all (·.toNat < 0x80) = true := by
    decide +kernel
  rw [char, getD_eq_getElem?_getD]
  cases hget : alphabet[digit]? with
  | none => decide
  | some c => simpa using all_eq_true.mp hall c (mem_of_getElem? hget)

theorem encode_eq_map (bytes : List UInt8) : encode bytes = (digits bytes).map char := by
  fun_induction digits bytes <;> simp_all [encode]

theorem utf8_encode (bytes : List UInt8) :
    Utf8.encode (encode bytes) = (digits bytes).map code := by
  rw [encode_eq_map]
  induction digits bytes with
  | nil => rfl
  | cons digit rest ih =>
    simp [Utf8.encodeChar_of_ascii (char_ascii digit), ih, code]

/-- The place of the character of a digit in the order of the bytes. -/
def rank (digit : Nat) : Nat :=
  if digit < 26 then digit + 11
  else if digit < 52 then digit + 12
  else if digit < 62 then digit - 51
  else if digit = 62 then 0
  else 37

theorem code_lt_iff {left right : Nat} (hleft : left < 64)
    (hright : right < 64) : code left < code right ↔ rank left < rank right := by
  have hall : ∀ i < 64, ∀ j < 64, (code i < code j ↔ rank i < rank j) := by
    decide +kernel
  exact hall left hleft right hright

theorem code_inj {left right : Nat} (hleft : left < 64) (hright : right < 64)
    (heq : code left = code right) : left = right := by
  have hbyte := congrArg UInt8.toNat heq
  have hleftChar := char_ascii left
  have hrightChar := char_ascii right
  simp only [code, UInt8.toNat_ofNat'] at hbyte
  exact char_inj hleft hright (Char.toNat_inj.mp (by omega))

theorem length_leBytes (count n : Nat) : (leBytes count n).length = count := by
  induction count generalizing n with
  | zero => rfl
  | succ count ih => rw [leBytes, length_cons, ih]

theorem ofBytes_leBytes (count n : Nat) : ofBytes (leBytes count n) = swapBytes count n := by
  induction count generalizing n with
  | zero => rfl
  | succ count ih => simp [leBytes, ofBytes, swapBytes, ih, length_leBytes]

theorem swapBytes_lt (count n : Nat) : swapBytes count n < Nat.pow 256 count := by
  induction count generalizing n with
  | zero => exact Nat.zero_lt_one
  | succ count ih =>
    have hrest := ih (n / 256)
    have hbyte : n % 256 * Nat.pow 256 count ≤ 255 * Nat.pow 256 count :=
      Nat.mul_le_mul_right _ (by omega)
    have hpow : Nat.pow 256 (count + 1) = 256 * Nat.pow 256 count := Nat.pow_succ'
    rw [swapBytes, hpow]
    omega

/-- Eight bytes make eleven digits; two zero bits fill up the last one. -/
theorem digits_eight (a b c d e f g h : UInt8) :
    digits [a, b, c, d, e, f, g, h] = beDigits 11 (4 * ofBytes [a, b, c, d, e, f, g, h]) := by
  have ha := a.toNat_lt
  have hb := b.toNat_lt
  have hc := c.toNat_lt
  have hd := d.toNat_lt
  have he := e.toNat_lt
  have hf := f.toNat_lt
  have hg := g.toNat_lt
  have hh := h.toNat_lt
  simp only [digits, beDigits, ofBytes, length_cons, length_nil, Nat.pow_eq, Nat.reducePow,
    Nat.reduceAdd, cons.injEq, and_true]
  refine ⟨?_, ?_, ?_, ?_, ?_, ?_, ?_, ?_, ?_, ?_, ?_⟩ <;> omega

theorem digits_leBytes (n : Nat) : digits (leBytes 8 n) = beDigits 11 (4 * swapBytes 8 n) := by
  rw [← ofBytes_leBytes]
  exact digits_eight ..

theorem div_pow_eq_iff (left right count : Nat) :
    left / Nat.pow 64 count = right / Nat.pow 64 count ↔
      left ^^^ right < Nat.pow 2 (6 * count) := by
  have hpow : Nat.pow 64 count = Nat.pow 2 (6 * count) := (Nat.pow_mul 2 6 count).symm
  rw [hpow]
  change left / 2 ^ (6 * count) = right / 2 ^ (6 * count) ↔ left ^^^ right < 2 ^ (6 * count)
  rw [← Nat.div_eq_zero_iff_lt (Nat.two_pow_pos _)]
  simp only [← Nat.shiftRight_eq_div_pow, Nat.shiftRight_xor_distrib, Nat.xor_eq_zero_iff]

theorem apart_eq {left right count : Nat}
    (habove : left / Nat.pow 64 (count + 1) = right / Nat.pow 64 (count + 1))
    (hhere : left / Nat.pow 64 count ≠ right / Nat.pow 64 count) : apart left right = count := by
  rw [div_pow_eq_iff] at habove
  rw [ne_eq, div_pow_eq_iff, Nat.not_lt] at hhere
  have hne : left ^^^ right ≠ 0 := Nat.pos_iff_ne_zero.mp (Nat.lt_of_lt_of_le (Nat.two_pow_pos _) hhere)
  have hupper := (Nat.log2_lt hne).mpr habove
  have hlower := (Nat.le_log2 hne).mpr hhere
  unfold apart
  omega

theorem div_pow_succ (n count : Nat) :
    n / Nat.pow 64 count = 64 * (n / Nat.pow 64 (count + 1)) + n / Nat.pow 64 count % 64 := by
  have hsucc : n / Nat.pow 64 (count + 1) = n / Nat.pow 64 count / 64 := by
    rw [Nat.div_div_eq_div_mul]
    rfl
  omega

/-- The highest digit that differs decides the order of the texts. -/
theorem map_code_beDigits_lt_iff (count : Nat) {left right : Nat}
    (habove : left / Nat.pow 64 count = right / Nat.pow 64 count) :
    (beDigits count left).map code < (beDigits count right).map code ↔
      rank (left / Nat.pow 64 (apart left right) % 64) <
        rank (right / Nat.pow 64 (apart left right) % 64) := by
  induction count with
  | zero =>
    have heq : left = right := by simpa using habove
    simp [heq, beDigits]
  | succ count ih =>
    have hleft := div_pow_succ left count
    have hright := div_pow_succ right count
    have hdigit : ∀ n, n % 64 < 64 := fun n => Nat.mod_lt n (by decide)
    rw [beDigits, beDigits, map_cons, map_cons, cons_lt_cons_iff, code_lt_iff (hdigit _) (hdigit _)]
    by_cases hhere : left / Nat.pow 64 count = right / Nat.pow 64 count
    · rw [hhere, ih hhere]
      simp
    · rw [apart_eq habove hhere]
      have hne : code (left / Nat.pow 64 count % 64) ≠ code (right / Nat.pow 64 count % 64) := by
        intro heq
        have hsame := code_inj (hdigit _) (hdigit _) heq
        omega
      exact ⟨fun hlt => hlt.resolve_right fun hsame => hne hsame.1, .inl⟩

theorem div_pow_apart_succ (left right : Nat) :
    left / Nat.pow 64 (apart left right + 1) = right / Nat.pow 64 (apart left right + 1) := by
  rw [div_pow_eq_iff]
  refine Nat.lt_of_lt_of_le Nat.lt_log2_self (Nat.pow_le_pow_right (by decide) ?_)
  unfold apart
  omega

theorem eq_of_div_pow_apart {left right : Nat}
    (heq : left / Nat.pow 64 (apart left right) = right / Nat.pow 64 (apart left right)) :
    left = right := by
  by_contra hne
  have hxor : left ^^^ right ≠ 0 := mt Nat.xor_eq_zero_iff.mp hne
  have hlow : Nat.pow 2 (6 * apart left right) ≤ left ^^^ right :=
    Nat.le_trans (Nat.pow_le_pow_right (by decide) (Nat.mul_div_le _ 6)) (Nat.log2_self_le hxor)
  exact Nat.not_lt.mpr hlow ((div_pow_eq_iff ..).mp heq)

/-- The digits that differ at the highest place are ordered as the numbers. -/
theorem lt_iff_digit_lt (left right : Nat) :
    left < right ↔ left / Nat.pow 64 (apart left right) % 64 <
      right / Nat.pow 64 (apart left right) % 64 := by
  have habove := div_pow_apart_succ left right
  have hleft := div_pow_succ left (apart left right)
  have hright := div_pow_succ right (apart left right)
  have hmono : ∀ {a b : Nat}, a ≤ b →
      a / Nat.pow 64 (apart left right) ≤ b / Nat.pow 64 (apart left right) := Nat.div_le_div_right
  constructor
  · intro hlt
    have hle := hmono hlt.le
    have hne := mt eq_of_div_pow_apart hlt.ne
    omega
  · intro hlt
    by_contra hnot
    have hle := hmono (Nat.not_lt.mp hnot)
    omega

theorem rank_lt_iff {left right : Nat} (hleft : left < 52) (hright : right < 52) :
    rank left < rank right ↔ left < right := by
  have hletter : ∀ digit < 52, rank digit = if digit < 26 then digit + 11 else digit + 12 := by
    intro digit hdigit
    simp [rank, hdigit]
  rw [hletter left hleft, hletter right hright]
  split <;> split <;> omega

end Base64
