/-
A notification for one waiter at a time. To notify wakes the oldest waiter, or
leaves one permit. A waiter that goes away passes its notification on.
-/
import Mathlib.Data.List.Basic
import Mathlib.Tactic.Common

universe u

structure Notify (ι : Type u) where
  permit : Bool
  /-- The waiters that sleep, the oldest first. -/
  parked : List ι
  /-- The waiters that have been woken and have not run since. -/
  notified : List ι
deriving Repr, DecidableEq

namespace Notify

variable {ι : Type u}

def new : Notify ι :=
  ⟨false, [], []⟩

def notifyOne (self : Notify ι) : Notify ι :=
  match self.parked with
  | [] => { self with permit := true }
  | oldest :: rest =>
    { self with parked := rest, notified := oldest :: self.notified }

/-- A waiter comes: it takes the permit, or it is parked. -/
def poll (self : Notify ι) (waiter : ι) : Bool × Notify ι :=
  if self.permit then (true, { self with permit := false })
  else (false, { self with parked := self.parked ++ [waiter] })

def resume [DecidableEq ι] (self : Notify ι) (waiter : ι) : Notify ι :=
  { self with notified := self.notified.erase waiter }

def drop [DecidableEq ι] (self : Notify ι) (waiter : ι) : Notify ι :=
  if waiter ∈ self.notified then (self.resume waiter).notifyOne
  else { self with parked := self.parked.erase waiter }

/-- A notification is there for the next waiter, or is on its way to one. -/
def Armed (self : Notify ι) : Prop :=
  self.permit = true ∨ self.notified ≠ []

theorem armed_notifyOne (self : Notify ι) : self.notifyOne.Armed := by
  rw [notifyOne]
  cases self.parked with
  | nil => exact .inl rfl
  | cons oldest rest => exact .inr (List.cons_ne_nil _ _)

theorem Armed.poll {self : Notify ι} (harmed : self.Armed) (waiter : ι) :
    (self.poll waiter).1 = true ∨ (self.poll waiter).2.Armed := by
  rw [Notify.poll]
  by_cases hpermit : self.permit = true
  · rw [if_pos hpermit]
    exact .inl rfl
  · rw [if_neg hpermit]
    exact .inr harmed

theorem Armed.drop [DecidableEq ι] {self : Notify ι} (harmed : self.Armed)
    (waiter : ι) : (self.drop waiter).Armed := by
  rw [Notify.drop]
  by_cases hmem : waiter ∈ self.notified
  · rw [if_pos hmem]
    exact armed_notifyOne _
  · rw [if_neg hmem]
    exact harmed

end Notify
