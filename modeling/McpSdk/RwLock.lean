/-
A lock for many readers or one writer, with a queue. Only its head is let in, so
that a reader behind a waiting writer waits too.
-/
import Mathlib.Data.List.Count
import Mathlib.Tactic.Common

namespace RwLock

universe u

variable {τ : Type u} [DecidableEq τ]

inductive Mode where
  | read
  | write
deriving Repr, DecidableEq

structure Lock (τ : Type u) where
  readers : List τ
  writer : Option τ
  queue : List (τ × Mode)
deriving Repr, DecidableEq

def Lock.new : Lock τ :=
  ⟨[], none, []⟩

def Lock.request (lock : Lock τ) (task : τ) (mode : Mode) : Lock τ :=
  { lock with queue := lock.queue ++ [(task, mode)] }

/-- The head of the queue is let in, if it can be. -/
def Lock.grant (lock : Lock τ) : Option (τ × Lock τ) :=
  match lock.queue with
  | [] => none
  | (task, .read) :: rest =>
    if lock.writer = none then
      some (task, { lock with
        readers := task :: lock.readers
        queue := rest })
    else none
  | (task, .write) :: rest =>
    if lock.writer = none ∧ lock.readers = [] then
      some (task, { lock with writer := some task, queue := rest })
    else none

def Lock.release (lock : Lock τ) (task : τ) : Lock τ :=
  if lock.writer = some task then { lock with writer := none }
  else { lock with readers := lock.readers.erase task }

/-- A task drops every guard, and does not wait for another. -/
def Lock.leave (lock : Lock τ) (task : τ) : Lock τ where
  readers := lock.readers.filter (· ≠ task)
  writer := lock.writer.filter (· ≠ task)
  queue := lock.queue.filter (·.1 ≠ task)

def Lock.guards (lock : Lock τ) (task : τ) : Nat :=
  lock.readers.count task + if lock.writer = some task then 1 else 0

theorem grant_cases {lock next : Lock τ} {task : τ} (hgrant : lock.grant = some (task, next)) :
    ∃ mode rest, lock.queue = (task, mode) :: rest ∧ next.queue = rest ∧
      (mode = .write → ∀ other, lock.guards other = 0) ∧
      ∀ other, next.guards other =
        lock.guards other + if other = task then 1 else 0 := by
  rw [Lock.grant] at hgrant
  split at hgrant
  · cases hgrant
  · rename_i reader rest hqueue
    split at hgrant
    · rename_i hwriter
      cases hgrant
      refine ⟨.read, rest, hqueue, rfl, ?_, ?_⟩
      · intro hmode
        cases hmode
      · intro other
        simp only [Lock.guards, hwriter, List.count_cons, beq_iff_eq]
        by_cases heq : other = task
        · simp [heq]
        · simp [heq, Ne.symm heq]
    · cases hgrant
  · rename_i writer rest hqueue
    split at hgrant
    · rename_i hfree
      cases hgrant
      refine ⟨.write, rest, hqueue, rfl, ?_, ?_⟩
      · intro hmode other
        simp [Lock.guards, hfree.1, hfree.2]
      · intro other
        simp only [Lock.guards, hfree.1, hfree.2, List.count_nil]
        by_cases heq : other = task
        · simp [heq]
        · simp [heq, Ne.symm heq]
    · cases hgrant

theorem guards_release (lock : Lock τ) (task other : τ) :
    (lock.release task).guards other =
      lock.guards other - if other = task then 1 else 0 := by
  rw [Lock.release]
  by_cases hwriter : lock.writer = some task
  · rw [if_pos hwriter]
    by_cases heq : other = task
    · simp [Lock.guards, hwriter, heq]
    · simp [Lock.guards, hwriter, heq, Ne.symm heq]
  · rw [if_neg hwriter]
    by_cases heq : other = task
    · simp [Lock.guards, hwriter, heq]
    · simp [Lock.guards, heq, List.count_erase_of_ne heq]

theorem guards_leave_of_ne (lock : Lock τ) {task other : τ}
    (hne : other ≠ task) : (lock.leave task).guards other = lock.guards other := by
  have hwriter : (lock.leave task).writer = some other ↔
      lock.writer = some other := by
    simp [Lock.leave, Option.filter_eq_some_iff, hne]
  have hreaders : (lock.leave task).readers.count other = lock.readers.count other :=
    List.count_filter (by simpa using hne)
  simp only [Lock.guards, hwriter, hreaders]

end RwLock
