/-
Cutting a sequence into lines, which keep their separators, and a remainder. The
cut can be made piecewise, carrying the remainder along.
-/
import Mathlib.Data.List.Basic
import Mathlib.Tactic.Common

namespace LineSplit

open List

universe u

variable {A : Type u} [DecidableEq A] {sep : A}

/-- Cut `input` after every separator; `acc` is the start of the current line. -/
def linesFrom (sep : A) : List A → List A → List (List A) × List A
  | acc, [] => ([], acc)
  | acc, a :: rest =>
    if a = sep then
      ((acc ++ [a]) :: (linesFrom sep [] rest).1, (linesFrom sep [] rest).2)
    else linesFrom sep (acc ++ [a]) rest

/-- The complete lines of a sequence and its remainder. -/
def lines (sep : A) (input : List A) : List (List A) × List A :=
  linesFrom sep [] input

/-- A sequence with exactly one separator, at its end. -/
def IsLine (sep : A) (line : List A) : Prop :=
  ∃ body, sep ∉ body ∧ line = body ++ [sep]

@[simp] theorem lines_nil : lines sep [] = ([], []) := rfl

theorem linesFrom_append (acc left right : List A) :
    linesFrom sep acc (left ++ right) =
      ((linesFrom sep acc left).1 ++ (linesFrom sep (linesFrom sep acc left).2 right).1,
        (linesFrom sep (linesFrom sep acc left).2 right).2) := by
  induction left generalizing acc with
  | nil => simp [linesFrom]
  | cons a left ih =>
    by_cases ha : a = sep
    · simp [linesFrom, ha, ih]
    · simp [linesFrom, ha, ih]

theorem linesFrom_of_not_mem (acc : List A) {part : List A}
    (hpart : sep ∉ part) : linesFrom sep acc part = ([], acc ++ part) := by
  induction part generalizing acc with
  | nil => simp [linesFrom]
  | cons a part ih =>
    simp only [mem_cons, not_or] at hpart
    have hne : a ≠ sep := Ne.symm hpart.1
    simp [linesFrom, hne, ih _ hpart.2]

theorem linesFrom_eq_lines_append {part : List A} (hpart : sep ∉ part)
    (input : List A) : linesFrom sep part input = lines sep (part ++ input) := by
  rw [lines, linesFrom_append, linesFrom_of_not_mem [] hpart]
  simp

theorem linesFrom_remainder_not_mem {acc : List A} (hacc : sep ∉ acc)
    (input : List A) : sep ∉ (linesFrom sep acc input).2 := by
  induction input generalizing acc with
  | nil => simpa [linesFrom] using hacc
  | cons a rest ih =>
    by_cases ha : a = sep
    · have hnil : sep ∉ ([] : List A) := by simp
      simpa [linesFrom, ha] using ih hnil
    · have hstep : sep ∉ acc ++ [a] := by
        simp [hacc, Ne.symm ha]
      simpa [linesFrom, ha] using ih hstep

theorem lines_remainder_not_mem (input : List A) : sep ∉ (lines sep input).2 :=
  linesFrom_remainder_not_mem (by simp) input

theorem linesFrom_isLine {acc : List A} (hacc : sep ∉ acc) (input : List A) :
    ∀ line ∈ (linesFrom sep acc input).1, IsLine sep line := by
  induction input generalizing acc with
  | nil => simp [linesFrom]
  | cons a rest ih =>
    by_cases ha : a = sep
    · subst ha
      intro line hline
      simp only [linesFrom, ↓reduceIte, mem_cons] at hline
      rcases hline with rfl | hline
      · exact ⟨acc, hacc, rfl⟩
      · have hnil : a ∉ ([] : List A) := by simp
        exact ih hnil line hline
    · have hstep : sep ∉ acc ++ [a] := by
        simp [hacc, Ne.symm ha]
      simpa [linesFrom, ha] using ih hstep

theorem lines_isLine (input : List A) : ∀ line ∈ (lines sep input).1, IsLine sep line :=
  linesFrom_isLine (by simp) input

theorem lines_append (left right : List A) :
    lines sep (left ++ right) = ((lines sep left).1 ++ (lines sep ((lines sep left).2 ++ right)).1,
        (lines sep ((lines sep left).2 ++ right)).2) := by
  have hrest : sep ∉ (lines sep left).2 := lines_remainder_not_mem left
  have hcarry := linesFrom_eq_lines_append hrest right
  rw [← hcarry]
  exact linesFrom_append [] left right

theorem lines_line_append {line : List A} (hline : IsLine sep line) (rest : List A) :
    lines sep (line ++ rest) = (line :: (lines sep rest).1, (lines sep rest).2) := by
  obtain ⟨body, hbody, rfl⟩ := hline
  rw [lines_append]
  have hcut : lines sep (body ++ [sep]) = ([body ++ [sep]], []) := by
    rw [lines, linesFrom_append, linesFrom_of_not_mem [] hbody]
    simp [linesFrom]
  simp [hcut]

/-- Lines put one after the other are cut apart again. -/
theorem lines_flatten_append {pieces : List (List A)} (hpieces : ∀ line ∈ pieces, IsLine sep line)
    (rest : List A) :
    lines sep (pieces.flatten ++ rest) = (pieces ++ (lines sep rest).1, (lines sep rest).2) := by
  induction pieces with
  | nil => simp
  | cons line pieces ih =>
    have hline := hpieces line mem_cons_self
    have htail := ih fun other hother =>
      hpieces other (mem_cons_of_mem line hother)
    rw [flatten_cons, append_assoc, lines_line_append hline, htail]
    simp

end LineSplit
