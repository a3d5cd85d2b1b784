/-
A channel that holds one value. To send gives it a new version, and a receiver
waits for a version that it has not seen.
-/
import Mathlib.Tactic.Common

universe u

structure Watch (α : Type u) where
  value : α
  version : Nat
  /-- There is no sender any more. -/
  closed : Bool
deriving Repr, DecidableEq

namespace Watch

variable {α : Type u} {watch : Watch α} {wanted : α → Bool} {seen : Nat}

def new (value : α) : Watch α :=
  ⟨value, 0, false⟩

/-- Nothing is sent without a receiver. -/
def send (watch : Watch α) (receivers : Nat) (value : α) : Option (Watch α) :=
  if receivers ≠ 0 then some { watch with value, version := watch.version + 1 }
  else none

/-- A receiver gets a new version, learns that there is none, or waits. -/
def changed (watch : Watch α) (seen : Nat) : Option (Except Unit Nat) :=
  if seen ≠ watch.version then some (.ok watch.version)
  else if watch.closed then some (.error ())
  else none

/-- A receiver that waits for a wanted value has not missed one. -/
structure Awaits (watch : Watch α) (wanted : α → Bool) (seen : Nat) : Prop where
  le : seen ≤ watch.version
  unwanted : seen = watch.version → wanted watch.value = false

theorem Awaits.of_unwanted (hle : seen ≤ watch.version)
    (hvalue : wanted watch.value = false) : watch.Awaits wanted seen :=
  ⟨hle, fun _ => hvalue⟩

theorem Awaits.send {next : Watch α} {receivers : Nat} {value : α}
    (hawaits : watch.Awaits wanted seen) (hsend : watch.send receivers value = some next) :
    next.Awaits wanted seen := by
  obtain ⟨-, hnext⟩ := Option.ite_none_right_eq_some.mp hsend
  cases hnext
  have hle := hawaits.le
  exact ⟨by simp only; omega, fun hseen => by simp only at hseen; omega⟩

/-- No wakeup is missed. -/
theorem Awaits.changed_of_wanted (hawaits : watch.Awaits wanted seen)
    (hwanted : wanted watch.value = true) : watch.changed seen = some (.ok watch.version) := by
  have hseen : seen ≠ watch.version := by
    intro hseen
    rw [hawaits.unwanted hseen] at hwanted
    cases hwanted
  rw [Watch.changed, if_pos hseen]

theorem changed_error (hchanged : watch.changed seen = some (.error ())) :
    seen = watch.version ∧ watch.closed = true := by
  unfold Watch.changed at hchanged
  grind

end Watch
