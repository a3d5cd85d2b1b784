/-
The string operations of the Rust standard library that the development
needs, over texts as lists of characters.
-/
import McpSdk.Utf8
import Mathlib.Data.List.DropRight

namespace RustStr

open List Option

instance coeText : Coe String (List Char) := ⟨String.toList⟩

/-- The Unicode property White_Space. -/
def isWhitespace (c : Char) : Bool :=
  let n := c.toNat
  (0x09 ≤ n && n ≤ 0x0D) || n == 0x20 || n == 0x85 || n == 0xA0 ||
    n == 0x1680 || (0x2000 ≤ n && n ≤ 0x200A) || n == 0x2028 || n == 0x2029 ||
    n == 0x202F || n == 0x205F || n == 0x3000

def trim (text : List Char) : List Char :=
  (text.dropWhile isWhitespace).rdropWhile isWhitespace

def trimStart (text : List Char) : List Char :=
  text.dropWhile isWhitespace

/-- `str::trim_end_matches` for one character. -/
def trimEndMatches (c : Char) (text : List Char) : List Char :=
  text.rdropWhile (· == c)

/-- `str::trim_matches` with a character. -/
def trimMatches (c : Char) (text : List Char) : List Char :=
  trimEndMatches c (text.dropWhile (· == c))

/-- `str::strip_prefix`. -/
def stripStart (start text : List Char) : Option (List Char) :=
  if start.isPrefixOf text then some (text.drop start.length) else none

/-- The slice `[..stop]` in bytes, unless that is inside a character or behind the text. -/
def sliceTo : Nat → List Char → Option (List Char)
  | 0, _ => some []
  | _ + 1, [] => none
  | stop + 1, c :: text =>
    if c.utf8Size ≤ stop + 1 then
      (sliceTo (stop + 1 - c.utf8Size) text).map (c :: ·)
    else none

/-- `str::split_once` for one character. -/
def splitOnce (c : Char) : List Char → Option (List Char × List Char)
  | [] => none
  | a :: text =>
    if a = c then some ([], text)
    else (splitOnce c text).map fun parts => (a :: parts.1, parts.2)

/-- The text before the first occurrence of a character, and that behind it. -/
def cutAt (c : Char) (text : List Char) : List Char × Option (List Char) :=
  match splitOnce c text with
  | some (left, right) => (left, some right)
  | none => (text, none)

/-- `str::split_once` for a string pattern. -/
def splitOnceStr (sep : List Char) : List Char → Option (List Char × List Char)
  | [] => if sep.isEmpty then some ([], []) else none
  | c :: text =>
    if sep.isPrefixOf (c :: text) then some ([], (c :: text).drop sep.length)
    else (splitOnceStr sep text).map fun parts => (c :: parts.1, parts.2)

/-- `str::eq_ignore_ascii_case`; `Char.toLower` changes ASCII letters only. -/
def eqIgnoreAsciiCase (left right : List Char) : Bool :=
  left.map Char.toLower = right.map Char.toLower

/-- `str::split` for a string: the parts between the matches, from left to
right. The number counts what is left to skip of the last match. -/
def splitFrom (sep : List Char) : Nat → List Char → List Char → List (List Char)
  | _, acc, [] => [acc]
  | skip + 1, acc, _ :: text => splitFrom sep skip acc text
  | 0, acc, c :: text =>
    if sep.isPrefixOf (c :: text) then
      acc :: splitFrom sep (sep.length - 1) [] text
    else splitFrom sep 0 (acc ++ [c]) text

def split (sep text : List Char) : List (List Char) :=
  splitFrom sep 0 [] text

def splitWhitespace (text : List Char) : List (List Char) :=
  (text.splitOnP isWhitespace).filter (· ≠ [])

/-- The order of `String`, which is that of the bytes. -/
def ByteLe (left right : List Char) : Prop :=
  Utf8.encode left ≤ Utf8.encode right

/-- `std::num::IntErrorKind`, as far as unsigned parsing produces it. -/
inductive IntError where
  | empty
  | invalidDigit
  | posOverflow
deriving Repr, DecidableEq

/-- The `Display` text of `std::num::ParseIntError`. -/
def IntError.text : IntError → List Char
  | .empty => "cannot parse integer from empty string"
  | .invalidDigit => "invalid digit found in string"
  | .posOverflow => "number too large to fit in target type"

/-- Read decimal digits on top of the value `acc`. -/
def parseDigits (bound : Nat) : Nat → List Char → Except IntError Nat
  | acc, [] => .ok acc
  | acc, c :: text =>
    if !c.isDigit then .error .invalidDigit
    else if 10 * acc + (c.toNat - '0'.toNat) < bound then
      parseDigits bound (10 * acc + (c.toNat - '0'.toNat)) text
    else .error .posOverflow

/-- `str::parse` for an unsigned type below `bound`; a leading plus sign is accepted. -/
def parseUnsigned (bound : Nat) : List Char → Except IntError Nat
  | [] => .error .empty
  | [c] => parseDigits bound 0 [c]
  | c :: text =>
    if c = '+' then parseDigits bound 0 text
    else parseDigits bound 0 (c :: text)

def showNat (n : Nat) : List Char :=
  Nat.toDigits 10 n

/-- `str::lines`: the parts between line feeds, without a carriage return before
one, and no empty part at the end. -/
def linesFrom : List Char → List Char → List (List Char)
  | acc, [] => if acc.isEmpty then [] else [acc]
  | acc, c :: text =>
    if c = '\n' then
      (if acc.getLast? = some '\r' then acc.dropLast else acc) :: linesFrom [] text
    else linesFrom (acc ++ [c]) text

def lines (text : List Char) : List (List Char) :=
  linesFrom [] text

theorem sliceTo_isSome (stop : Nat) (text : List Char) :
    (sliceTo stop text).isSome = Utf8.isCharBoundary text stop := by
  induction text generalizing stop with
  | nil =>
    cases stop with
    | zero | succ => rfl
  | cons c text ih =>
    cases stop with
    | zero => simp [sliceTo]
    | succ stop =>
      rw [sliceTo]
      by_cases hsize : c.utf8Size ≤ stop + 1
      · rw [if_pos hsize, isSome_map, ih, Utf8.isCharBoundary_cons hsize]
      · rw [if_neg hsize, Utf8.isCharBoundary_inside (Nat.succ_pos stop) (Nat.lt_of_not_le hsize)]
        rfl

variable {text : List Char} {c : Char}

theorem trim_subset (hc : c ∈ trim text) : c ∈ text := by
  have hdrop := (List.rdropWhile_prefix isWhitespace (text.dropWhile isWhitespace)).subset hc
  exact (List.dropWhile_suffix isWhitespace).subset hdrop

theorem mem_trimStart (hc : c ∈ text) (hblack : isWhitespace c = false) : c ∈ trimStart text := by
  unfold trimStart
  induction text with
  | nil => exact hc
  | cons d text ih =>
    by_cases hd : isWhitespace d = true
    · rw [dropWhile_cons_of_pos hd]
      rcases mem_cons.mp hc with rfl | hc
      · rw [hblack] at hd
        cases hd
      · exact ih hc
    · rwa [dropWhile_cons_of_neg hd]

theorem mem_trim (hc : c ∈ text) (hblack : isWhitespace c = false) : c ∈ trim text := by
  rw [trim, List.rdropWhile, mem_reverse]
  apply mem_trimStart _ hblack
  rw [mem_reverse]
  exact mem_trimStart hc hblack

theorem trim_concat (text : List Char) (hwhite : isWhitespace c = true) :
    trim (text ++ [c]) = trim text := by
  rw [trim, trim, dropWhile_append]
  split
  · next hall =>
    rw [isEmpty_iff.mp hall, dropWhile_cons_of_pos hwhite]
    rfl
  · rw [rdropWhile_concat_pos _ _ _ hwhite]

theorem trim_eq_self (hhead : ∀ c ∈ text.head?, isWhitespace c = false)
    (hlast : ∀ c ∈ text.getLast?, isWhitespace c = false) : trim text = text := by
  have hdrop : text.dropWhile isWhitespace = text := by
    rw [dropWhile_eq_self_iff]
    intro hlength hwhite
    rw [hhead _ (head?_eq_some_head (length_pos_iff.mp hlength) ▸
      mem_some_iff.mpr (head_eq_getElem _))] at hwhite
    cases hwhite
  rw [trim, hdrop, rdropWhile_eq_self_iff]
  intro hne hwhite
  rw [hlast _ (getLast?_eq_some_getLast hne)] at hwhite
  cases hwhite

theorem trimEndMatches_concat_self (hc : c ∉ text) : trimEndMatches c (text ++ [c]) = text := by
  rw [trimEndMatches, rdropWhile_concat_pos _ _ _ (by simp)]
  apply rdropWhile_eq_self_iff.mpr
  intro hne hlast
  rw [beq_iff_eq] at hlast
  exact hc (hlast ▸ getLast_mem hne)

theorem trimEndMatches_eq_self_iff : trimEndMatches c text = text ↔ text.getLast? ≠ some c := by
  rw [trimEndMatches, rdropWhile_eq_self_iff]
  cases text using List.reverseRecOn with
  | nil | append_singleton => simp

theorem mem_of_mem_trimMatches {d : Char} (hd : d ∈ trimMatches c text) : d ∈ text :=
  (List.dropWhile_suffix _).subset ((List.rdropWhile_prefix _ _).subset hd)

theorem trimMatches_quoted (hc : c ∉ text) : trimMatches c (c :: (text ++ [c])) = text := by
  rw [trimMatches, dropWhile_cons_of_pos (by simp)]
  cases text with
  | nil => simp [trimEndMatches]
  | cons d text =>
    have hd : d ≠ c := fun heq => hc (heq ▸ mem_cons_self)
    rw [cons_append, dropWhile_cons_of_neg (by simpa using hd), ← cons_append]
    exact trimEndMatches_concat_self hc

@[simp] theorem stripStart_append (start text : List Char) :
    stripStart start (start ++ text) = some text := by
  have hstart : start.isPrefixOf (start ++ text) = true :=
    List.isPrefixOf_iff_prefix.mpr (List.prefix_append start text)
  simp [stripStart, hstart]

theorem eq_append_of_stripStart {start rest : List Char}
    (hstrip : stripStart start text = some rest) : text = start ++ rest := by
  obtain ⟨hstart, hrest⟩ := ite_none_right_eq_some.mp hstrip
  obtain ⟨tail, rfl⟩ := List.isPrefixOf_iff_prefix.mp hstart
  rw [some.injEq, drop_left] at hrest
  rw [hrest]

theorem trimEndMatches_ne {d e : Char} (hne : d ≠ e) (text rest : List Char) :
    trimEndMatches c (d :: text) ≠ e :: rest := by
  intro heq
  have hprefix := List.rdropWhile_prefix (· == c) (d :: text)
  rw [trimEndMatches] at heq
  rw [heq, List.cons_prefix_cons] at hprefix
  exact hne hprefix.1.symm

theorem parseDigits_of_isDigit {bound acc : Nat} (hdigits : ∀ c ∈ text, c.isDigit = true)
    (hbound : Nat.ofDigitChars 10 text acc < bound) :
    parseDigits bound acc text = .ok (Nat.ofDigitChars 10 text acc) := by
  induction text generalizing acc with
  | nil => rfl
  | cons c text ih =>
    have hrest : Nat.ofDigitChars 10 text (10 * acc + (c.toNat - '0'.toNat)) < bound := hbound
    have hgrows : ∀ {text : List Char} {acc : Nat},
        acc ≤ Nat.ofDigitChars 10 text acc := by
      intro text
      induction text with
      | nil => exact fun {_} => Nat.le_refl _
      | cons d text ih =>
        intro acc
        have hnext := @ih (10 * acc + (d.toNat - '0'.toNat))
        exact Nat.le_trans (by omega) hnext
    have hsmall := Nat.lt_of_le_of_lt hgrows hrest
    rw [parseDigits, hdigits c mem_cons_self]
    simp only [Bool.not_true, Bool.false_eq_true, if_false, if_pos hsmall]
    exact ih (fun d hd => hdigits d (mem_cons_of_mem c hd)) hrest

theorem parseUnsigned_of_isDigit {bound : Nat} {text : List Char} (hne : text ≠ [])
    (hdigits : ∀ c ∈ text, c.isDigit = true) (hbound : Nat.ofDigitChars 10 text 0 < bound) :
    parseUnsigned bound text = .ok (Nat.ofDigitChars 10 text 0) := by
  match text, hne with
  | [c], _ => exact parseDigits_of_isDigit hdigits hbound
  | c :: d :: text, _ =>
    have hplus : c ≠ '+' := by
      rintro rfl
      exact absurd (hdigits '+' mem_cons_self) (by decide)
    rw [parseUnsigned, if_neg hplus]
    · exact parseDigits_of_isDigit hdigits hbound
    · simp

theorem isDigit_of_mem_showNat {n : Nat} (hc : c ∈ showNat n) : c.isDigit = true :=
  Nat.isDigit_of_mem_toDigits (by decide) (by decide) hc

theorem not_mem_showNat (hc : c.isDigit = false) (n : Nat) : c ∉ showNat n := by
  intro hmem
  rw [isDigit_of_mem_showNat hmem] at hc
  cases hc

theorem showNat_inj {m n : Nat} (hshow : showNat m = showNat n) : m = n := by
  have hvalue : ∀ k, Nat.ofDigitChars 10 (showNat k) 0 = k :=
    fun _ => Nat.ofDigitChars_toDigits (by decide) (by decide)
  rw [← hvalue m, hshow, hvalue]

theorem parseUnsigned_showNat {n bound : Nat} (hbound : n < bound) :
    parseUnsigned bound (showNat n) = .ok n := by
  have hvalue : Nat.ofDigitChars 10 (showNat n) 0 = n :=
    Nat.ofDigitChars_toDigits (by decide) (by decide)
  have hread := @parseUnsigned_of_isDigit bound (showNat n)
    Nat.toDigits_ne_nil (fun c hc => isDigit_of_mem_showNat hc) (by rwa [hvalue])
  rwa [hvalue] at hread

theorem digit_range (hc : c.isDigit = true) : 48 ≤ c.toNat ∧ c.toNat ≤ 57 := by
  rw [Char.isDigit, Bool.and_eq_true, decide_eq_true_eq, decide_eq_true_eq] at hc
  exact ⟨UInt32.le_iff_toNat_le.mp hc.1, UInt32.le_iff_toNat_le.mp hc.2⟩

theorem isWhitespace_of_isDigit (hc : c.isDigit = true) : isWhitespace c = false := by
  have hrange := digit_range hc
  simp only [isWhitespace, Bool.or_eq_false_iff, Bool.and_eq_false_iff,
    decide_eq_false_iff_not, beq_eq_false_iff_ne]
  omega

theorem trim_of_isDigit (hdigits : ∀ c ∈ text, c.isDigit = true) : trim text = text := by
  apply trim_eq_self
  · intro c hc
    exact isWhitespace_of_isDigit (hdigits c (mem_of_mem_head? hc))
  · intro c hc
    exact isWhitespace_of_isDigit (hdigits c (mem_of_getLast? hc))

theorem splitOnce_of_not_mem (hc : c ∉ text) : splitOnce c text = none := by
  induction text with
  | nil => rfl
  | cons d text ih =>
    simp only [mem_cons, not_or] at hc
    simp [splitOnce, Ne.symm hc.1, ih hc.2]

theorem splitOnce_append {c : Char} {left : List Char} (hc : c ∉ left)
    (right : List Char) : splitOnce c (left ++ c :: right) = some (left, right) := by
  induction left with
  | nil => simp [splitOnce]
  | cons d left ih =>
    simp only [mem_cons, not_or] at hc
    simp [splitOnce, Ne.symm hc.1, ih hc.2]

theorem splitOnce_of_mem (hc : c ∈ text) :
    ∃ left right, c ∉ left ∧ text = left ++ c :: right ∧ splitOnce c text = some (left, right) := by
  obtain ⟨left, right, htext, hleft⟩ := eq_append_cons_of_mem hc
  exact ⟨left, right, hleft, htext, htext ▸ splitOnce_append hleft right⟩

theorem cutAt_of_not_mem (hc : c ∉ text) : cutAt c text = (text, none) := by
  rw [cutAt, splitOnce_of_not_mem hc]

theorem cutAt_append {left : List Char} (hc : c ∉ left) (right : List Char) :
    cutAt c (left ++ c :: right) = (left, some right) := by
  rw [cutAt, splitOnce_append hc]

/-- A cut leaves the text as it is, or is at the first occurrence. -/
theorem cutAt_cases (c : Char) (text : List Char) :
    c ∉ (cutAt c text).1 ∧ (cutAt c text = (text, none) ∨
        ∃ right, cutAt c text = ((cutAt c text).1, some right) ∧
          text = (cutAt c text).1 ++ c :: right) := by
  by_cases hc : c ∈ text
  · obtain ⟨left, right, hleft, rfl, -⟩ := splitOnce_of_mem hc
    rw [cutAt_append hleft]
    exact ⟨hleft, Or.inr ⟨right, rfl, rfl⟩⟩
  · rw [cutAt_of_not_mem hc]
    exact ⟨hc, Or.inl rfl⟩

variable {sep : List Char}

theorem splitOnceStr_eq {left right : List Char}
    (hsplit : splitOnceStr sep text = some (left, right)) : text = left ++ sep ++ right := by
  induction text generalizing left with
  | nil =>
    rw [splitOnceStr] at hsplit
    split at hsplit
    · next hsep =>
      cases hsplit
      simpa using hsep
    · cases hsplit
  | cons c text ih =>
    rw [splitOnceStr] at hsplit
    split at hsplit
    · next hstart =>
      cases hsplit
      obtain ⟨rest, hrest⟩ := List.isPrefixOf_iff_prefix.mp hstart
      rw [← hrest]
      simp
    · obtain ⟨⟨before, after⟩, hparts, heq⟩ := map_eq_some_iff.mp hsplit
      cases heq
      rw [ih hparts]
      simp

/-- The split is at the first match. -/
theorem splitOnceStr_eq_some_iff {left right : List Char} (hsep : sep ≠ []) :
    splitOnceStr sep text = some (left, right) ↔
      text = left ++ sep ++ right ∧ ¬ sep <:+: left ++ sep.dropLast := by
  have hlength : sep.dropLast.length + 1 = sep.length := by
    rw [length_dropLast]
    have := length_pos_iff.mpr hsep
    omega
  -- a match at the first character ends before the last one of `left ++ sep`
  have hhead : ∀ (c : Char) (before : List Char),
      sep <+: c :: (before ++ sep ++ right) ↔
        sep <+: c :: (before ++ sep.dropLast) := by
    intro c before
    have hwhole : c :: (before ++ sep.dropLast) <+:
        c :: (before ++ sep ++ right) := by
      rw [List.prefix_cons_inj, append_assoc, List.prefix_append_right_inj]
      exact (List.dropLast_prefix sep).trans (List.prefix_append sep right)
    constructor
    · intro hmatch
      apply List.prefix_of_prefix_length_le hmatch hwhole
      simp only [length_cons, length_append]
      omega
    · exact fun hmatch => hmatch.trans hwhole
  constructor
  · intro hsplit
    refine ⟨splitOnceStr_eq hsplit, ?_⟩
    induction text generalizing left with
    | nil => simp [splitOnceStr, hsep] at hsplit
    | cons c text ih =>
      have htext := splitOnceStr_eq hsplit
      rw [splitOnceStr] at hsplit
      split at hsplit
      · cases hsplit
        intro hfound
        have hle := hfound.length_le
        rw [nil_append] at hle
        omega
      · next hstart =>
        obtain ⟨⟨before, after⟩, hparts, heq⟩ := map_eq_some_iff.mp hsplit
        cases heq
        rw [cons_append, List.infix_cons_iff, not_or]
        rw [List.isPrefixOf_iff_prefix, htext] at hstart
        exact ⟨fun hmatch => hstart ((hhead c before).mpr hmatch), ih hparts⟩
  · rintro ⟨rfl, hfirst⟩
    induction left with
    | nil =>
      obtain ⟨d, tail, rfl⟩ := exists_cons_of_ne_nil hsep
      have hstart : (d :: tail).isPrefixOf (d :: (tail ++ right)) = true :=
        List.isPrefixOf_iff_prefix.mpr (List.prefix_append (d :: tail) right)
      simp [splitOnceStr, hstart]
    | cons c left ih =>
      rw [cons_append, List.infix_cons_iff, not_or] at hfirst
      have hstart : ¬ sep.isPrefixOf (c :: (left ++ sep ++ right)) = true := by
        rw [List.isPrefixOf_iff_prefix, hhead]
        exact hfirst.1
      change splitOnceStr sep (c :: (left ++ sep ++ right)) = _
      rw [splitOnceStr, if_neg hstart, ih hfirst.2]
      rfl

theorem splitOnceStr_replace {left right : List Char}
    (hsplit : splitOnceStr sep text = some (left, right)) (later : List Char) (hsep : sep ≠ []) :
    splitOnceStr sep (left ++ sep ++ later) = some (left, later) := by
  obtain ⟨-, hfirst⟩ := (splitOnceStr_eq_some_iff hsep).mp hsplit
  exact (splitOnceStr_eq_some_iff hsep).mpr ⟨rfl, hfirst⟩

theorem splitOnceStr_eq_none_iff (hsep : sep ≠ []) :
    splitOnceStr sep text = none ↔ ¬ sep <:+: text := by
  induction text with
  | nil => simp [splitOnceStr, hsep]
  | cons c text ih =>
    rw [splitOnceStr, List.infix_cons_iff, ← List.isPrefixOf_iff_prefix]
    split
    · next hstart => simp [hstart]
    · next hstart => simp [hstart, ih]

theorem splitFrom_append (sep acc : List Char) (passed text : List Char) :
    splitFrom sep passed.length acc (passed ++ text) = splitFrom sep 0 acc text := by
  induction passed with
  | nil => rfl
  | cons c passed ih => simpa [splitFrom] using ih

theorem splitFrom_eq (hsep : sep ≠ []) (acc text : List Char) :
    splitFrom sep 0 acc text = match splitOnceStr sep text with
      | none => [acc ++ text]
      | some (left, right) => (acc ++ left) :: split sep right := by
  induction text generalizing acc with
  | nil => simp [splitFrom, splitOnceStr, hsep]
  | cons c text ih =>
    rw [splitFrom, splitOnceStr]
    split
    · next hstart =>
      obtain ⟨d, tail, rfl⟩ := exists_cons_of_ne_nil hsep
      obtain ⟨right, hright⟩ := List.isPrefixOf_iff_prefix.mp hstart
      obtain ⟨rfl, rfl⟩ := List.cons.inj hright
      simp [splitFrom_append, split]
    · rw [ih]
      cases splitOnceStr sep text with
      | none | some => simp

theorem split_eq (hsep : sep ≠ []) (text : List Char) :
    split sep text = match splitOnceStr sep text with
      | none => [text]
      | some (left, right) => left :: split sep right := by
  rw [split, splitFrom_eq hsep]
  simp

theorem splitFrom_append_cons (c : Char) (acc left right : List Char) :
    splitFrom [c] 0 acc (left ++ c :: right) = splitFrom [c] 0 acc left ++ split [c] right := by
  induction left generalizing acc with
  | nil => simp [splitFrom, split]
  | cons d left ih =>
    by_cases hd : c = d
    · subst hd
      simp [splitFrom, ih]
    · simp [splitFrom, hd, ih]

theorem split_append_cons (c : Char) (left right : List Char) :
    split [c] (left ++ c :: right) = split [c] left ++ split [c] right :=
  splitFrom_append_cons c [] left right

theorem splitFrom_of_not_mem (hc : c ∉ text) (acc : List Char) :
    splitFrom [c] 0 acc text = [acc ++ text] := by
  induction text generalizing acc with
  | nil => simp [splitFrom]
  | cons d text ih =>
    simp only [mem_cons, not_or] at hc
    simp [splitFrom, hc.1, ih hc.2]

theorem split_of_not_mem (hc : c ∉ text) : split [c] text = [text] :=
  splitFrom_of_not_mem hc []

theorem splitFrom_head? (c : Char) (acc text : List Char) :
    (splitFrom [c] 0 acc text).head? = some (acc ++ text.takeWhile (· ≠ c)) := by
  induction text generalizing acc with
  | nil => simp [splitFrom]
  | cons d text ih =>
    by_cases hd : d = c
    · subst hd
      simp [splitFrom]
    · have hnot : c ≠ d := Ne.symm hd
      simp [splitFrom, hd, hnot, ih]

theorem split_head? (c : Char) (text : List Char) :
    (split [c] text).head? = some (text.takeWhile (· ≠ c)) :=
  splitFrom_head? c [] text

theorem not_mem_of_mem_splitFrom {acc part : List Char} (hacc : c ∉ acc)
    (hpart : part ∈ splitFrom [c] 0 acc text) : c ∉ part := by
  induction text generalizing acc with
  | nil =>
    rw [splitFrom, mem_singleton] at hpart
    exact hpart ▸ hacc
  | cons d text ih =>
    by_cases hd : c = d
    · subst hd
      simp only [splitFrom, isPrefixOf_cons_cons, beq_self_eq_true,
        isPrefixOf_nil_left, Bool.and_self, ↓reduceIte,
        length_singleton, Nat.sub_self, mem_cons] at hpart
      rcases hpart with rfl | hlater
      · exact hacc
      · exact ih not_mem_nil hlater
    · have hnext : part ∈ splitFrom [c] 0 (acc ++ [d]) text := by
        simpa [splitFrom, hd] using hpart
      refine ih ?_ hnext
      simp [hacc, hd]

theorem not_mem_of_mem_split {part : List Char} (hpart : part ∈ split [c] text) : c ∉ part :=
  not_mem_of_mem_splitFrom not_mem_nil hpart

theorem split_intercalate {parts : List (List Char)} (hne : parts ≠ [])
    (hparts : ∀ part ∈ parts, c ∉ part) : split [c] ([c].intercalate parts) = parts := by
  induction parts with
  | nil => exact absurd rfl hne
  | cons part parts ih =>
    obtain ⟨hpart, hlater⟩ := forall_mem_cons.mp hparts
    cases parts with
    | nil => simpa using split_of_not_mem hpart
    | cons next parts =>
      rw [intercalate_cons_cons, append_assoc,
        singleton_append, split_append_cons, split_of_not_mem hpart, ih (cons_ne_nil _ _) hlater]
      rfl

/-- The texts that `split_whitespace` yields. -/
def IsWord (word : List Char) : Prop :=
  word ≠ [] ∧ ∀ c ∈ word, isWhitespace c = false

theorem isWord_of_mem_splitWhitespace {word : List Char}
    (hword : word ∈ splitWhitespace text) : IsWord word := by
  obtain ⟨hmem, hne⟩ := mem_filter.mp hword
  refine ⟨of_decide_eq_true hne, ?_⟩
  clear hne hword
  induction text generalizing word with
  | nil =>
    rw [splitOnP_nil, mem_singleton] at hmem
    simp [hmem]
  | cons d text ih =>
    rw [splitOnP_cons_eq_if_modifyHead] at hmem
    split at hmem
    · rcases mem_cons.mp hmem with rfl | hlater
      · simp
      · exact ih hlater
    · next hd =>
      cases hparts : text.splitOnP isWhitespace with
      | nil => exact absurd hparts (splitOnP_ne_nil _ _)
      | cons part parts =>
        rw [hparts, modifyHead_cons] at hmem
        rcases mem_cons.mp hmem with rfl | hlater
        · intro c hc
          rcases mem_cons.mp hc with rfl | hc
          · exact Bool.eq_false_iff.mpr hd
          · exact ih (hparts ▸ mem_cons_self) c hc
        · exact ih (hparts ▸ mem_cons_of_mem _ hlater)

/-- Words that are joined by blanks are found again. -/
theorem splitWhitespace_intercalate {words : List (List Char)}
    (hwords : ∀ word ∈ words, IsWord word) : splitWhitespace ([' '].intercalate words) = words := by
  induction words with
  | nil => rfl
  | cons word words ih =>
    obtain ⟨⟨hne, hblack⟩, hlater⟩ := forall_mem_cons.mp hwords
    cases words with
    | nil =>
      rw [splitWhitespace, intercalate_singleton, splitOnP_eq_singleton hblack]
      simp [hne]
    | cons next words =>
      rw [intercalate_cons_cons, append_assoc, singleton_append, splitWhitespace,
        splitOnP_append_cons_of_forall_mem hblack ' ' rfl, filter_cons_of_pos (by simpa using hne)]
      exact congrArg (word :: ·) (ih hlater)

instance : DecidableRel ByteLe :=
  fun left right => inferInstanceAs
    (Decidable (Utf8.encode left ≤ Utf8.encode right))

instance : IsTrans (List Char) ByteLe :=
  ⟨fun _ _ _ hfirst hsecond => List.le_trans hfirst hsecond⟩

instance : Std.Antisymm ByteLe :=
  ⟨fun _ _ hfirst hsecond =>
    Utf8.encode_injective (List.le_antisymm hfirst hsecond)⟩

instance : Std.Total ByteLe :=
  ⟨fun left right => List.le_total (Utf8.encode left) (Utf8.encode right)⟩

theorem linesFrom_of_not_mem {acc text : List Char} (hline : '\n' ∉ text)
    (hne : acc ++ text ≠ []) : linesFrom acc text = [acc ++ text] := by
  induction text generalizing acc with
  | nil =>
    have hacc : acc ≠ [] := by simpa using hne
    simp [linesFrom, hacc]
  | cons c text ih =>
    simp only [mem_cons, not_or] at hline
    rw [linesFrom, if_neg (Ne.symm hline.1), ih hline.2 (by simp)]
    simp

theorem lines_of_not_mem (hline : '\n' ∉ text) (hne : text ≠ []) : lines text = [text] :=
  @linesFrom_of_not_mem [] text hline hne

def stripReturn (line : List Char) : List Char :=
  if line.getLast? = some '\r' then line.dropLast else line

theorem stripReturn_eq (line : List Char) :
    line = stripReturn line ∨ line = stripReturn line ++ ['\r'] := by
  unfold stripReturn
  split
  · next hlast =>
    right
    exact (dropLast_append_getLast? '\r' hlast).symm
  · exact .inl rfl

theorem linesFrom_line {line : List Char} (hline : '\n' ∉ line) (acc rest : List Char) :
    linesFrom acc (line ++ '\n' :: rest) = stripReturn (acc ++ line) :: linesFrom [] rest := by
  induction line generalizing acc with
  | nil => simp [linesFrom, stripReturn]
  | cons c line ih =>
    simp only [mem_cons, not_or] at hline
    rw [cons_append, linesFrom, if_neg (Ne.symm hline.1), ih hline.2,
      append_assoc, singleton_append]

theorem lines_flatMap {pieces : List (List Char)} (hpieces : ∀ piece ∈ pieces, '\n' ∉ piece) :
    lines (pieces.flatMap (· ++ ['\n'])) = pieces.map stripReturn := by
  induction pieces with
  | nil => rfl
  | cons piece pieces ih =>
    obtain ⟨hpiece, hlater⟩ := forall_mem_cons.mp hpieces
    rw [lines, flatMap_cons, append_assoc, singleton_append,
      linesFrom_line hpiece, map_cons, ← ih hlater]
    rfl

theorem exists_pieces (text : List Char) :
    ∃ pieces : List (List Char), (∀ piece ∈ pieces, '\n' ∉ piece) ∧
      text ++ ['\n'] = pieces.flatMap (· ++ ['\n']) := by
  induction text with
  | nil => exact ⟨[[]], by simp, by simp⟩
  | cons c text ih =>
    obtain ⟨pieces, hpieces, htext⟩ := ih
    by_cases hc : c = '\n'
    · subst hc
      refine ⟨[] :: pieces, by simpa using hpieces, ?_⟩
      simp [htext]
    · cases pieces with
      | nil => simp at htext
      | cons piece pieces =>
        refine ⟨(c :: piece) :: pieces, ?_, ?_⟩
        · simpa [Ne.symm hc] using hpieces
        · simpa using htext

theorem mem_of_mem_linesFrom {acc line : List Char} (hline : line ∈ linesFrom acc text)
    (hc : c ∈ line) : c ∈ acc ∨ c ∈ text := by
  induction text generalizing acc with
  | nil =>
    rw [linesFrom] at hline
    split at hline
    · cases hline
    · cases mem_singleton.mp hline
      exact .inl hc
  | cons d text ih =>
    rw [linesFrom] at hline
    split at hline
    · rcases mem_cons.mp hline with rfl | hlater
      · left
        split at hc
        · exact dropLast_subset _ hc
        · exact hc
      · rcases ih hlater with hnil | htext
        · cases hnil
        · exact .inr (mem_cons_of_mem _ htext)
    · rcases ih hline with hacc | htext
      · rcases mem_append.mp hacc with hacc | hd
        · exact .inl hacc
        · exact .inr (mem_cons.mpr (.inl (mem_singleton.mp hd)))
      · exact .inr (mem_cons_of_mem _ htext)

end RustStr
