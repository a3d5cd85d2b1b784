/-
UTF-8 text as lists of characters and of bytes. Decoding replaces every maximal
ill-formed subsequence by one replacement character, and strict decoding refuses
it.
-/
import Mathlib.Data.List.Basic
import Mathlib.Tactic.Common

namespace Utf8

open List

def encode (text : List Char) : List UInt8 :=
  text.flatMap String.utf8EncodeChar

@[simp] theorem encode_nil : encode [] = [] := rfl

@[simp] theorem encode_cons (c : Char) (text : List Char) :
    encode (c :: text) = String.utf8EncodeChar c ++ encode text := rfl

@[simp] theorem encode_append (left right : List Char) :
    encode (left ++ right) = encode left ++ encode right := by
  simp [encode]

theorem encode_flatten (texts : List (List Char)) :
    encode texts.flatten = (texts.map encode).flatten := by
  induction texts with
  | nil => rfl
  | cons text texts ih => simp [ih]

variable (text : List Char)

theorem length_le_length_encode : text.length ≤ (encode text).length := by
  induction text with
  | nil => exact Nat.le_refl _
  | cons c text ih =>
    have hsize := c.utf8Size_pos
    rw [encode_cons, length_append, String.length_utf8EncodeChar, length_cons]
    omega

theorem encodeChar_of_ascii {c : Char} (hc : c.toNat < 0x80) :
    String.utf8EncodeChar c = [UInt8.ofNat c.toNat] := by
  have hle : c.val.toNat ≤ 0x7F := Nat.le_of_lt_succ hc
  unfold String.utf8EncodeChar
  simp only [hle, ↓reduceIte]
  rfl

def isTail (b : UInt8) : Bool :=
  0x80 ≤ b.toNat && b.toNat ≤ 0xBF

/-- The least and the greatest second byte after a lead byte. -/
def secondRange (lead : Nat) : Nat × Nat :=
  if lead = 0xE0 then (0xA0, 0xBF)
  else if lead = 0xED then (0x80, 0x9F)
  else if lead = 0xF0 then (0x90, 0xBF)
  else if lead = 0xF4 then (0x80, 0x8F)
  else (0x80, 0xBF)

def isSecond (lead : Nat) (b : UInt8) : Bool :=
  (secondRange lead).1 ≤ b.toNat && b.toNat ≤ (secondRange lead).2

/-- Read the character that starts with `lead`, and count its bytes, or those of
the longest ill-formed part. -/
def decodeHead (lead : UInt8) (rest : List UInt8) : Option Char × Nat :=
  let a := lead.toNat
  if a < 0x80 then (some (Char.ofNat a), 1)
  else if 0xC2 ≤ a ∧ a ≤ 0xDF then
    match rest with
    | b :: _ =>
      if isTail b then
        (some (Char.ofNat ((a - 0xC0) * 64 + (b.toNat - 0x80))), 2)
      else (none, 1)
    | [] => (none, 1)
  else if 0xE0 ≤ a ∧ a ≤ 0xEF then
    match rest with
    | b :: rest =>
      if isSecond a b then
        match rest with
        | c :: _ =>
          if isTail c then
            (some (Char.ofNat ((a - 0xE0) * 4096 + (b.toNat - 0x80) * 64 + (c.toNat - 0x80))), 3)
          else (none, 2)
        | [] => (none, 2)
      else (none, 1)
    | [] => (none, 1)
  else if 0xF0 ≤ a ∧ a ≤ 0xF4 then
    match rest with
    | b :: rest =>
      if isSecond a b then
        match rest with
        | c :: rest =>
          if isTail c then
            match rest with
            | d :: _ =>
              if isTail d then
                (some (Char.ofNat ((a - 0xF0) * 262144 +
                  (b.toNat - 0x80) * 4096 + (c.toNat - 0x80) * 64 +
                  (d.toNat - 0x80))), 4)
              else (none, 3)
            | [] => (none, 3)
          else (none, 2)
        | [] => (none, 2)
      else (none, 1)
    | [] => (none, 1)
  else (none, 1)

/-- Read from left to right; `none` is an ill-formed part. The number counts
what is left to skip. -/
def decodeFrom : Nat → List UInt8 → List (Option Char)
  | _, [] => []
  | skip + 1, _ :: rest => decodeFrom skip rest
  | 0, lead :: rest =>
    let head := decodeHead lead rest
    head.1 :: decodeFrom (head.2 - 1) rest

/-- Decoding that puts U+FFFD in the place of every ill-formed part. -/
def decodeLossy (bytes : List UInt8) : List Char :=
  (decodeFrom 0 bytes).map fun c => c.getD (Char.ofNat 0xFFFD)

/-- Decoding that refuses ill-formed bytes. -/
def decode? (bytes : List UInt8) : Option (List Char) :=
  (decodeFrom 0 bytes).mapM id

theorem decodeFrom_drop (skip : Nat) (bytes : List UInt8) :
    decodeFrom skip bytes = decodeFrom 0 (bytes.drop skip) := by
  induction bytes generalizing skip with
  | nil => cases skip <;> simp [decodeFrom]
  | cons lead rest ih =>
    cases skip with
    | zero => rfl
    | succ skip => simpa [decodeFrom] using ih skip

theorem decodeHead_append_ascii {a : UInt8} (ha : a.toNat < 0x80) (lead : UInt8)
    (rest tail : List UInt8) : decodeHead lead (rest ++ a :: tail) = decodeHead lead rest := by
  have htail : isTail a = false := by
    simp only [isTail, Bool.and_eq_false_iff, decide_eq_false_iff_not]
    omega
  have hsecond : ∀ lead, isSecond lead a = false := by
    intro lead
    have hlow : 0x80 ≤ (secondRange lead).1 := by
      unfold secondRange
      split_ifs <;> simp
    simp only [isSecond, Bool.and_eq_false_iff, decide_eq_false_iff_not]
    omega
  match rest with
  | [] => simp [decodeHead, htail, hsecond]
  | [b] => simp [decodeHead, htail]
  | [b, c] => simp [decodeHead, htail]
  | b :: c :: d :: rest => simp [decodeHead]

theorem decodeHead_le (lead : UInt8) (rest : List UInt8) :
    (decodeHead lead rest).2 - 1 ≤ rest.length := by
  unfold decodeHead
  simp only
  repeat' split
  all_goals simp

theorem decodeFrom_append_ascii {a : UInt8} (ha : a.toNat < 0x80) {skip : Nat} {bytes : List UInt8}
    (hskip : skip ≤ bytes.length) (tail : List UInt8) :
    decodeFrom skip (bytes ++ a :: tail) = decodeFrom skip bytes ++ decodeFrom 0 (a :: tail) := by
  induction bytes generalizing skip with
  | nil =>
    cases hskip
    rfl
  | cons lead rest ih =>
    cases skip with
    | zero =>
      rw [cons_append, decodeFrom, decodeFrom,
        decodeHead_append_ascii ha, ih (decodeHead_le lead rest)]
      rfl
    | succ skip => exact ih (Nat.le_of_succ_le_succ hskip)

/-- In front of a byte below 0x80 any bytes can be decoded on their own. -/
theorem decodeLossy_append_ascii {a : UInt8} (ha : a.toNat < 0x80) (bytes tail : List UInt8) :
    decodeLossy (bytes ++ a :: tail) = decodeLossy bytes ++ decodeLossy (a :: tail) := by
  rw [decodeLossy, decodeFrom_append_ascii ha (Nat.zero_le _), map_append]
  rfl

theorem decodeLossy_ne_nil {bytes : List UInt8} (hbytes : bytes ≠ []) : decodeLossy bytes ≠ [] := by
  cases bytes with
  | nil => exact absurd rfl hbytes
  | cons lead rest => exact cons_ne_nil _ _

private theorem toNat_ofNat_of_lt {n : Nat} (hn : n < 256) : (UInt8.ofNat n).toNat = n := by
  simp [UInt8.toNat_ofNat', Nat.mod_eq_of_lt hn]

private theorem char_range (c : Char) :
    c.val.toNat < 0xD800 ∨ 0xDFFF < c.val.toNat ∧ c.val.toNat < 0x110000 := by
  have hvalid := c.valid
  simpa [UInt32.isValidChar, Nat.isValidChar] using hvalid

private theorem charOfNat_eq (c : Char) {n : Nat} (hn : n = c.val.toNat) : Char.ofNat n = c := by
  subst hn
  exact Char.ofNat_toNat c

/-- The bytes of a character are read back, whatever follows. -/
theorem decodeHead_encodeChar (c : Char) (rest : List UInt8) :
    ∃ lead tail, String.utf8EncodeChar c = lead :: tail ∧
      decodeHead lead (tail ++ rest) = (some c, tail.length + 1) := by
  have hrange := char_range c
  have hc := charOfNat_eq c (n := c.val.toNat) rfl
  unfold String.utf8EncodeChar
  generalize hv : c.val.toNat = v at *
  simp only
  split
  · exact ⟨_, [], rfl, by
      simp [decodeHead, toNat_ofNat_of_lt (show v < 256 by omega), show v < 128 by omega, hc]⟩
  · split
    · refine ⟨_, _, rfl, ?_⟩
      have hlead := toNat_ofNat_of_lt (show v / 64 % 32 + 192 < 256 by omega)
      have htail := toNat_ofNat_of_lt (show v % 64 + 128 < 256 by omega)
      simp only [decodeHead, hlead, cons_append, nil_append]
      rw [if_neg (by omega), if_pos (by omega), if_pos (by
        simp only [isTail, htail, Bool.and_eq_true, decide_eq_true_eq]; omega)]
      simp only [htail]
      rw [charOfNat_eq c (by omega)]
      rfl
    · split
      · refine ⟨_, _, rfl, ?_⟩
        have hlead := toNat_ofNat_of_lt (show v / 4096 % 16 + 224 < 256 by omega)
        have hmid := toNat_ofNat_of_lt (show v / 64 % 64 + 128 < 256 by omega)
        have htail := toNat_ofNat_of_lt (show v % 64 + 128 < 256 by omega)
        simp only [decodeHead, hlead, cons_append, nil_append]
        have hsecond : isSecond (v / 4096 % 16 + 224)
            (UInt8.ofNat (v / 64 % 64 + 128)) = true := by
          simp only [isSecond, secondRange, hmid, Bool.and_eq_true, decide_eq_true_eq]
          split_ifs <;> simp only <;> omega
        rw [if_neg (by omega), if_neg (by omega), if_pos (by omega),
          if_pos hsecond, if_pos (by
            simp only [isTail, htail, Bool.and_eq_true, decide_eq_true_eq]
            omega)]
        simp only [hmid, htail]
        rw [charOfNat_eq c (by omega)]
        rfl
      · refine ⟨_, _, rfl, ?_⟩
        have hlead := toNat_ofNat_of_lt (show v / 262144 % 8 + 240 < 256 by omega)
        have hsnd := toNat_ofNat_of_lt (show v / 4096 % 64 + 128 < 256 by omega)
        have hthd := toNat_ofNat_of_lt (show v / 64 % 64 + 128 < 256 by omega)
        have htail := toNat_ofNat_of_lt (show v % 64 + 128 < 256 by omega)
        simp only [decodeHead, hlead, cons_append, nil_append]
        have hsecond : isSecond (v / 262144 % 8 + 240)
            (UInt8.ofNat (v / 4096 % 64 + 128)) = true := by
          simp only [isSecond, secondRange, hsnd, Bool.and_eq_true, decide_eq_true_eq]
          split_ifs <;> simp only <;> omega
        rw [if_neg (by omega), if_neg (by omega), if_neg (by omega),
          if_pos (by omega), if_pos hsecond, if_pos (by
            simp only [isTail, hthd, Bool.and_eq_true, decide_eq_true_eq]
            omega), if_pos (by
            simp only [isTail, htail, Bool.and_eq_true, decide_eq_true_eq]
            omega)]
        simp only [hsnd, hthd, htail]
        rw [charOfNat_eq c (by omega)]
        rfl

theorem decodeFrom_encode : decodeFrom 0 (encode text) = text.map some := by
  induction text with
  | nil => rfl
  | cons c text ih =>
    obtain ⟨lead, tail, hbytes, hhead⟩ := decodeHead_encodeChar c (encode text)
    rw [encode_cons, hbytes, cons_append]
    simp only [decodeFrom, hhead, Nat.add_sub_cancel, map_cons]
    rw [decodeFrom_drop, drop_left, ih]

@[simp] theorem decodeLossy_encode : decodeLossy (encode text) = text := by
  simp [decodeLossy, decodeFrom_encode, Function.comp_def]

@[simp] theorem decode?_encode : decode? (encode text) = some text := by
  rw [decode?, decodeFrom_encode]
  induction text with
  | nil => rfl
  | cons c text ih => simp [mapM_cons, ih]

theorem encode_injective : Function.Injective encode := by
  intro left right heq
  have hdecode := congrArg decode? heq
  rw [decode?_encode, decode?_encode] at hdecode
  exact Option.some.inj hdecode

private theorem isTail_ofNat (n : Nat) : isTail (UInt8.ofNat (n % 64 + 128)) = true := by
  simp only [isTail, UInt8.toNat_ofNat', Bool.and_eq_true, decide_eq_true_eq]
  omega

private theorem isTail_ofNat_of_lead {n : Nat} (hbyte : n < 256)
    (hlead : n < 0x80 ∨ 0xBF < n) : isTail (UInt8.ofNat n) = false := by
  simp only [isTail, UInt8.toNat_ofNat', Bool.and_eq_false_iff, decide_eq_false_iff_not]
  omega

theorem encodeChar_eq_cons (c : Char) :
    ∃ lead tail, String.utf8EncodeChar c = lead :: tail ∧
      isTail lead = false ∧ ∀ b ∈ tail, isTail b = true := by
  unfold String.utf8EncodeChar
  generalize c.val.toNat = v
  simp only
  split
  · exact ⟨_, _, rfl, isTail_ofNat_of_lead (by omega) (by omega), by simp⟩
  · split
    · exact ⟨_, _, rfl, isTail_ofNat_of_lead (by omega) (by omega),
        by simp only [forall_mem_cons, isTail_ofNat]; simp⟩
    · split
      · exact ⟨_, _, rfl, isTail_ofNat_of_lead (by omega) (by omega),
          by simp only [forall_mem_cons, isTail_ofNat]; simp⟩
      · exact ⟨_, _, rfl, isTail_ofNat_of_lead (by omega) (by omega),
          by simp only [forall_mem_cons, isTail_ofNat]; simp⟩

/-- `str::is_char_boundary`: the end, or a byte that continues no character. -/
def isCharBoundary (text : List Char) (index : Nat) : Bool :=
  match (encode text)[index]? with
  | some b => !isTail b
  | none => index == (encode text).length

@[simp] theorem isCharBoundary_zero : isCharBoundary text 0 = true := by
  cases text with
  | nil => rfl
  | cons c text =>
    obtain ⟨lead, tail, hbytes, hlead, -⟩ := encodeChar_eq_cons c
    simp [isCharBoundary, hbytes, hlead]

theorem isCharBoundary_inside {c : Char} {index : Nat} (hpos : 0 < index)
    (hinside : index < c.utf8Size) (text : List Char) :
    isCharBoundary (c :: text) index = false := by
  obtain ⟨lead, tail, hbytes, -, htail⟩ := encodeChar_eq_cons c
  have hsize := String.length_utf8EncodeChar c
  obtain ⟨before, rfl⟩ := Nat.exists_eq_succ_of_ne_zero (Nat.ne_of_gt hpos)
  rw [hbytes, length_cons] at hsize
  have hbefore : before < tail.length := by omega
  have hbyte : (encode (c :: text))[before + 1]? = some tail[before] := by
    rw [encode_cons, hbytes, cons_append, getElem?_cons_succ,
      getElem?_append_left hbefore, getElem?_eq_getElem hbefore]
  rw [isCharBoundary, hbyte]
  simp [htail]

theorem isCharBoundary_cons {c : Char} {index : Nat} (hbehind : c.utf8Size ≤ index)
    (text : List Char) :
    isCharBoundary (c :: text) index = isCharBoundary text (index - c.utf8Size) := by
  have hsize := String.length_utf8EncodeChar c
  have hbyte : (encode (c :: text))[index]? =
      (encode text)[index - c.utf8Size]? := by
    rw [encode_cons, getElem?_append_right (by omega), hsize]
  rw [isCharBoundary, isCharBoundary, hbyte]
  cases (encode text)[index - c.utf8Size]? with
  | some b => rfl
  | none =>
    rw [encode_cons, length_append, hsize]
    simp only [beq_eq_beq]
    omega

theorem ascii_mem_encodeChar {c : Char} {b : UInt8} (hmem : b ∈ String.utf8EncodeChar c)
    (hascii : b.toNat < 0x80) : c.toNat = b.toNat := by
  unfold String.utf8EncodeChar at hmem
  have hrange := char_range c
  change c.val.toNat = b.toNat
  generalize hv : c.val.toNat = v at *
  simp only at hmem
  split at hmem
  · simp only [mem_singleton] at hmem
    subst hmem
    exact (toNat_ofNat_of_lt (show v < 256 by omega)).symm
  · exfalso
    split at hmem
    · simp only [mem_cons, not_mem_nil, or_false] at hmem
      rcases hmem with rfl | rfl <;> simp only [UInt8.toNat_ofNat'] at hascii <;> omega
    · split at hmem
      · simp only [mem_cons, not_mem_nil, or_false] at hmem
        rcases hmem with rfl | rfl | rfl <;> simp only [UInt8.toNat_ofNat'] at hascii <;> omega
      · simp only [mem_cons, not_mem_nil, or_false] at hmem
        rcases hmem with rfl | rfl | rfl | rfl <;>
          simp only [UInt8.toNat_ofNat'] at hascii <;> omega

/-- An encoded text holds an ASCII byte only where it holds the character. -/
theorem ascii_not_mem_encode {text : List Char} {b : UInt8} {c : Char} (hascii : b.toNat < 0x80)
    (hbyte : c.toNat = b.toNat) (hc : c ∉ text) : b ∉ encode text := by
  intro hmem
  simp only [encode, mem_flatMap] at hmem
  obtain ⟨d, hd, hb⟩ := hmem
  have hdb := ascii_mem_encodeChar hb hascii
  have hdc : d = c := by
    apply Char.ext
    apply UInt32.toNat.inj
    exact hdb.trans hbyte.symm
  exact hc (hdc ▸ hd)

end Utf8
