/-
Lists of calls in progress. A call keeps its place, which is its name for good.
-/
import McpSdk.Lts
import Mathlib.Data.List.Basic

namespace CallList

open List

universe u v

variable {α : Type u} {β : Type v} {items : List α} {index : Nat}

theorem getElem?_concat_of_some {found : α} (hfound : items[index]? = some found) (item : α) :
    (items ++ [item])[index]? = some found := by
  obtain ⟨hindex, -⟩ := List.getElem?_eq_some_iff.mp hfound
  rw [List.getElem?_append_left hindex, hfound]

theorem getElem?_concat_cases {item found : α} (hfound : (items ++ [item])[index]? = some found) :
    (index = items.length ∧ found = item) ∨ items[index]? = some found := by
  rcases Nat.lt_or_ge index items.length with hlt | hge
  · rw [List.getElem?_append_left hlt] at hfound
    exact .inr hfound
  · rw [getElem?_append_right hge, getElem?_singleton] at hfound
    split at hfound
    · exact .inl ⟨by omega, (Option.some.inj hfound).symm⟩
    · cases hfound

variable {old : α}

theorem getElem?_set_of_some (hold : items[index]? = some old) (item : α) (other : Nat) :
    (items.set index item)[other]? =
      if other = index then some item else items[other]? := by
  obtain ⟨hindex, -⟩ := List.getElem?_eq_some_iff.mp hold
  rw [List.getElem?_set]
  by_cases heq : index = other
  · subst heq
    simp [hindex]
  · simp [heq, Ne.symm heq]

theorem mem_set_self (hold : items[index]? = some old) (item : α) :
    item ∈ items.set index item := by
  refine mem_of_getElem? (i := index) ?_
  rw [getElem?_set_of_some hold, if_pos rfl]

theorem eq_or_mem_set {found : α} (hold : items[index]? = some old) (hfound : found ∈ items)
    (item : α) : found = old ∨ found ∈ items.set index item := by
  obtain ⟨other, hother⟩ := mem_iff_getElem?.mp hfound
  by_cases heq : other = index
  · subst heq
    exact .inl (Option.some.inj (hother.symm.trans hold))
  · refine .inr (mem_of_getElem? (i := other) ?_)
    rw [getElem?_set_of_some hold, if_neg heq, hother]

theorem forall_mem_set {property : α → Prop} (hitems : ∀ item ∈ items, property item) {item : α}
    (hitem : property item) (index : Nat) : ∀ found ∈ items.set index item, property found := by
  intro found hfound
  rcases mem_or_eq_of_mem_set hfound with hmem | rfl
  · exact hitems found hmem
  · exact hitem

theorem filterMap_set_of_eq {f : α → Option β} {item : α} (hold : items[index]? = some old)
    (hsame : f item = f old) : (items.set index item).filterMap f = items.filterMap f := by
  induction items generalizing index with
  | nil => cases hold
  | cons head tail ih =>
    cases index with
    | zero =>
      cases hold
      simp [filterMap_cons, hsame]
    | succ index =>
      simp only [set_cons_succ, filterMap_cons]
      rw [ih (by simpa using hold)]

theorem map_set_of_eq {f : α → β} {item : α} (hold : items[index]? = some old)
    (hsame : f item = f old) : (items.set index item).map f = items.map f := by
  obtain ⟨hindex, rfl⟩ := List.getElem?_eq_some_iff.mp hold
  rw [List.map_set, hsame, ← List.getElem_map f (h := by simpa using hindex), List.set_getElem_self]

theorem flatMap_set_perm {f : α → List β} (hold : items[index]? = some old) (item : α) :
    (f old ++ (items.set index item).flatMap f).Perm (f item ++ items.flatMap f) := by
  induction items generalizing index with
  | nil => cases hold
  | cons head tail ih =>
    cases index with
    | zero =>
      cases hold
      rw [set_cons_zero, flatMap_cons, flatMap_cons, ← append_assoc, ← append_assoc]
      exact perm_append_comm.append_right _
    | succ index =>
      have htail := ih (by simpa using hold)
      rw [set_cons_succ, flatMap_cons, flatMap_cons]
      refine (perm_append_comm_assoc _ _ _).trans ?_
      refine (htail.append_left (f head)).trans ?_
      exact perm_append_comm_assoc _ _ _

/-- What all calls together have before them. -/
def total (f : α → Nat) (items : List α) : Nat :=
  items.foldr (fun item sum => f item + sum) 0

variable (f : α → Nat)

theorem total_cons (item : α) (items : List α) : total f (item :: items) = f item + total f items :=
  rfl

theorem total_append (items later : List α) :
    total f (items ++ later) = total f items + total f later := by
  induction items with
  | nil => simp [total]
  | cons head tail ih => rw [cons_append, total_cons, total_cons, ih, Nat.add_assoc]

theorem total_concat (items : List α) (item : α) :
    total f (items ++ [item]) = total f items + f item :=
  total_append f items [item]

theorem total_set (hold : items[index]? = some old) (item : α) :
    f old + total f (items.set index item) = f item + total f items := by
  induction items generalizing index with
  | nil => cases hold
  | cons head tail ih =>
    cases index with
    | zero =>
      cases hold
      rw [set_cons_zero, total_cons, total_cons]
      omega
    | succ index =>
      have htail := ih (by simpa using hold)
      rw [set_cons_succ, total_cons, total_cons]
      omega

theorem total_modify (hold : items[index]? = some old) (change : α → α) :
    f old + total f (items.modify index change) = f (change old) + total f items := by
  rw [modify_eq_set_getElem?, hold]
  exact total_set f hold (change old)

theorem forall_mem_modify {change : α → α} {property : α → Prop}
    (hitems : ∀ item ∈ items, property item)
    (hchange : ∀ item, items[index]? = some item → property (change item)) :
    ∀ item ∈ items.modify index change, property item := by
  intro item hitem
  obtain ⟨k, hget⟩ := mem_iff_getElem?.mp hitem
  by_cases hk : index = k
  · subst hk
    rw [getElem?_modify_eq] at hget
    obtain ⟨old, hold, rfl⟩ := Option.map_eq_some_iff.mp hget
    exact hchange old hold
  · rw [getElem?_modify_ne _ _ hk] at hget
    exact hitems item (mem_of_getElem? hget)

/-- Calls that come nearer to their end with every step all end, in any order. -/
theorem inevitable_of_rank {S : Type} {step : S → Nat → Option S} {put : List α → S}
    {calls : S → List α} {advance : α → Option α} {rank : α → Nat} {right ended : α → Prop}
    {goal : S → Prop} (hcalls : ∀ items, calls (put items) = items)
    (hstep : ∀ items index, step (put items) index =
      (items[index]?.bind advance).map fun next => put (items.set index next))
    (hadvance : ∀ {item next}, right item → advance item = some next →
      right next ∧ rank next < rank item)
    (hended : ∀ {item}, right item → advance item = none → ended item)
    (hgoal : ∀ {items}, (∀ item ∈ items, ended item) → goal (put items))
    (hitems : ∀ item ∈ items, right item) : Lts.Inevitable step (put items) goal := by
  refine @Lts.inevitable_of_measure _ _ _ (fun state => total rank (calls state))
    (fun state => ∃ items, state = put items ∧ ∀ item ∈ items, right item) _ _ ?_ ?_
    ⟨items, rfl, hitems⟩
  · rintro _ next index ⟨items, rfl, hitems⟩ hnext
    rw [hstep] at hnext
    obtain ⟨item, hitem, rfl⟩ := Option.map_eq_some_iff.mp hnext
    obtain ⟨old, hold, hitem⟩ := Option.bind_eq_some_iff.mp hitem
    obtain ⟨hright, hless⟩ := hadvance (hitems old (mem_of_getElem? hold)) hitem
    have htotal := total_set rank hold item
    refine ⟨⟨_, rfl, forall_mem_set hitems hright index⟩, ?_⟩
    simp only [hcalls]
    omega
  · rintro _ ⟨items, rfl, hitems⟩ hnone
    refine hgoal fun item hitem => hended (hitems item hitem) ?_
    obtain ⟨index, hindex⟩ := mem_iff_getElem?.mp hitem
    simpa [hstep, hindex] using hnone index

end CallList
