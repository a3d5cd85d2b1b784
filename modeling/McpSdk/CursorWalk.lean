/-
Walking through a list page by page, while elements come to its front or are
taken out. What a walk has still to give is always an end of the list.
-/
import Mathlib.Data.List.Nodup
import Mathlib.Tactic.Common

namespace CursorWalk

open List

universe u

variable {α : Type u}

/-- What a walk has returned and has pending of what was there at its start. -/
structure Progress (items : List α) (cursor : Option α)
    (pending returned atStart : List α) : Prop where
  nodup : items.Nodup
  suffix : pending <:+ items
  distinct : (returned ++ pending).Nodup
  subset : returned ++ pending ⊆ atStart
  covers : ∀ item ∈ atStart, item ∈ items → item ∈ returned ++ pending
  head : ∀ item, cursor = some item → item ∈ atStart ∧ (item ∈ items → pending.head? = some item)

variable {items pending returned atStart : List α} {cursor : Option α}

theorem Progress.start (hnodup : items.Nodup) : Progress items none items [] items := by
  refine ⟨hnodup, List.suffix_rfl, hnodup, List.Subset.refl _, ?_, ?_⟩
  · intro item hitem _
    exact hitem
  · intro item hcursor
    cases hcursor

theorem Progress.insert (hwalk : Progress items cursor pending returned atStart)
    {item : α} (hitem : item ∉ items) (hnew : item ∉ atStart) :
    Progress (item :: items) cursor pending returned atStart := by
  refine ⟨nodup_cons.mpr ⟨hitem, hwalk.nodup⟩,
    hwalk.suffix.trans (List.suffix_cons item items), hwalk.distinct, hwalk.subset, ?_, ?_⟩
  · intro other hother hmem
    refine hwalk.covers other hother ((mem_cons.mp hmem).resolve_left ?_)
    rintro rfl
    exact hnew hother
  · intro other hcursor
    obtain ⟨hother, hhead⟩ := hwalk.head other hcursor
    refine ⟨hother, ?_⟩
    intro hmem
    refine hhead ((mem_cons.mp hmem).resolve_left ?_)
    rintro rfl
    exact hnew hother

theorem erase_suffix_erase [BEq α] [LawfulBEq α] {front back : List α}
    (hnodup : (front ++ back).Nodup) (item : α) :
    back.erase item <:+ (front ++ back).erase item := by
  by_cases hfront : item ∈ front
  · rw [erase_append_left _ hfront]
    have hback : item ∉ back := fun hback => (disjoint_of_nodup_append hnodup) hfront hback
    rw [erase_of_not_mem hback]
    exact List.suffix_append ..
  · rw [erase_append_right _ hfront]
    exact List.suffix_append ..

theorem Progress.erase [BEq α] [LawfulBEq α]
    (hwalk : Progress items cursor pending returned atStart) (item : α) :
    Progress (items.erase item) cursor (pending.erase item) returned atStart := by
  have hsublist : (returned ++ pending.erase item).Sublist
      (returned ++ pending) := erase_sublist.append_left returned
  refine ⟨hwalk.nodup.erase item, ?_, hwalk.distinct.sublist hsublist,
    List.Subset.trans hsublist.subset hwalk.subset, ?_, ?_⟩
  · obtain ⟨front, rfl⟩ := hwalk.suffix
    exact erase_suffix_erase hwalk.nodup item
  · intro other hother hmem
    rw [hwalk.nodup.mem_erase_iff] at hmem
    have hcovered := hwalk.covers other hother hmem.2
    rw [mem_append] at hcovered ⊢
    exact hcovered.imp_right (mem_erase_of_ne hmem.1).mpr
  · intro other hcursor
    obtain ⟨hother, hhead⟩ := hwalk.head other hcursor
    refine ⟨hother, ?_⟩
    intro hmem
    rw [hwalk.nodup.mem_erase_iff] at hmem
    obtain ⟨tail, htail⟩ := head?_eq_some_iff.mp (hhead hmem.2)
    rw [htail, erase_cons_tail (by simpa using hmem.1), head?_cons]

variable [DecidableEq α]

/-- Where the page of a cursor begins: at the front, if it is not there. -/
def startIndex (items : List α) (cursor : Option α) : Nat :=
  (cursor.bind fun item => items.findIdx? (· = item)).getD 0

def page (size : Nat) (items : List α) (cursor : Option α) : List α :=
  (items.drop (startIndex items cursor)).take size

def nextCursor (size : Nat) (items : List α) (cursor : Option α) : Option α :=
  items[startIndex items cursor + size]?

theorem findIdx?_append_cons {front tail : List α} {item : α} (hitem : item ∉ front) :
    (front ++ item :: tail).findIdx? (· = item) = some front.length := by
  induction front with
  | nil => simp [findIdx?_cons]
  | cons head front ih =>
    simp only [mem_cons, not_or] at hitem
    rw [cons_append, findIdx?_cons, ih hitem.2]
    simp [Ne.symm hitem.1]

theorem Progress.drop_startIndex (hwalk : Progress items cursor pending returned atStart)
    {item : α} (hcursor : cursor = some item) (hitem : item ∈ items) :
    items.drop (startIndex items cursor) = pending := by
  obtain ⟨tail, rfl⟩ := head?_eq_some_iff.mp ((hwalk.head item hcursor).2 hitem)
  obtain ⟨front, rfl⟩ := hwalk.suffix
  have hfront : item ∉ front := fun hfront =>
    disjoint_of_nodup_append hwalk.nodup hfront mem_cons_self
  rw [startIndex, hcursor, Option.bind_some, findIdx?_append_cons hfront,
    Option.getD_some, drop_left]

theorem Progress.turn (hwalk : Progress items cursor pending returned atStart)
    (hstart : items.drop (startIndex items cursor) = pending) (size : Nat) :
    page size items cursor = pending.take size ∧
      nextCursor size items cursor = (pending.drop size).head? ∧
      Progress items (nextCursor size items cursor) (pending.drop size)
        (returned ++ page size items cursor) atStart := by
  have hpage : page size items cursor = pending.take size := by
    rw [page, hstart]
  have hnext : nextCursor size items cursor = (pending.drop size).head? := by
    rw [nextCursor, ← hstart, drop_drop, head?_drop]
  have hsame : (returned ++ page size items cursor) ++ pending.drop size =
      returned ++ pending := by
    rw [hpage, append_assoc, take_append_drop]
  refine ⟨hpage, hnext, hwalk.nodup,
    (List.drop_suffix size pending).trans hwalk.suffix, ?_, ?_, ?_, ?_⟩
  · rw [hsame]
    exact hwalk.distinct
  · rw [hsame]
    exact hwalk.subset
  · rw [hsame]
    exact hwalk.covers
  · intro item hitem
    rw [hnext] at hitem
    refine ⟨hwalk.subset ?_, fun _ => hitem⟩
    exact mem_append_right _ (mem_of_mem_drop (mem_of_mem_head? hitem))

end CursorWalk
