/-
Maps with one or more values for a key, and what an iteration by value yields:
every key with its first value, and its further values without a key.
-/
import Mathlib.Data.List.AList

universe u v

/-- Every key has a first value and a list of further values. -/
abbrev MultiMap (κ : Type u) (ν : Type v) := AList fun _ : κ => ν × List ν

namespace MultiMap

open List

variable {κ : Type u} {ν : Type v} [DecidableEq κ]

def values (map : MultiMap κ ν) (key : κ) : List ν :=
  match map.lookup key with
  | some (first, more) => first :: more
  | none => []

/-- The value replaces all that the key had. -/
def put (map : MultiMap κ ν) (key : κ) (value : ν) : MultiMap κ ν :=
  AList.insert key (value, []) map

/-- The value comes behind those that the key has. -/
def append (map : MultiMap κ ν) (key : κ) (value : ν) : MultiMap κ ν :=
  match map.lookup key with
  | some (first, more) => AList.insert key (first, more ++ [value]) map
  | none => AList.insert key (value, []) map

def keyItems (key : κ) (first : ν) (more : List ν) : List (Option κ × ν) :=
  (some key, first) :: more.map fun value => (none, value)

def items (map : MultiMap κ ν) : List (Option κ × ν) :=
  map.entries.flatMap fun entry => keyItems entry.1 entry.2.1 entry.2.2

@[simp] theorem values_empty (key : κ) : values (∅ : MultiMap κ ν) key = [] := rfl

theorem values_put (map : MultiMap κ ν) (key other : κ) (value : ν) :
    (map.put key value).values other =
      if other = key then [value] else map.values other := by
  unfold put values
  split_ifs with hother
  · rw [hother, AList.lookup_insert]
  · rw [AList.lookup_insert_ne hother]

theorem values_append (map : MultiMap κ ν) (key other : κ) (value : ν) :
    (map.append key value).values other =
      if other = key then map.values other ++ [value] else map.values other := by
  unfold append values
  split_ifs with hother
  · rw [hother]
    cases hkey : map.lookup key with
    | none | some => simp
  · cases hkey : map.lookup key with
    | none | some => simp [AList.lookup_insert_ne hother]

theorem mem_iff_values_ne_nil {map : MultiMap κ ν} {key : κ} : key ∈ map ↔ map.values key ≠ [] := by
  rw [← AList.lookup_isSome]
  unfold values
  cases map.lookup key with
  | none | some => simp

section Fold

universe w

variable {σ : Type w} {step : σ → Option κ × ν → σ} {read : σ → κ → List ν}
  {result : List ν → List ν} {valid : σ → Prop}

theorem foldl_keyItems
    (hentry : ∀ {state : σ} {key : κ} (first : ν) (more : List ν), valid state → read state key =
      [] → valid ((keyItems key first more).foldl step state) ∧
      read ((keyItems key first more).foldl step state) =
      Function.update (read state) key (result (first :: more)))
    {entries : List (Sigma fun _ : κ => ν × List ν)} (hnodup : entries.NodupKeys) {start : σ}
    (hvalid : valid start) (hstart : ∀ key ∈ entries.keys, read start key = []) :
    let final := (entries.flatMap fun entry =>
      keyItems entry.1 entry.2.1 entry.2.2).foldl step start
    valid final ∧ ∀ key, read final key = match entries.dlookup key with
      | some (first, more) => result (first :: more)
      | none => read start key := by
  induction entries generalizing start with
  | nil => exact ⟨hvalid, fun key => rfl⟩
  | cons entry entries ih =>
    obtain ⟨key, first, more⟩ := entry
    rw [nodupKeys_cons] at hnodup
    obtain ⟨hvalid, hread⟩ := hentry first more hvalid (hstart key (mem_cons_self ..))
    have hrest : ∀ other ∈ entries.keys,
        read ((keyItems key first more).foldl step start) other = [] := by
      intro other hother
      have hne : other ≠ key := ne_of_mem_of_not_mem hother hnodup.1
      rw [hread, Function.update_of_ne hne]
      exact hstart other (mem_cons_of_mem _ hother)
    obtain ⟨hfinal, hvalues⟩ := ih hnodup.2 hvalid hrest
    rw [flatMap_cons, foldl_append]
    refine ⟨hfinal, ?_⟩
    intro other
    refine (hvalues other).trans ?_
    by_cases hother : other = key
    · -- the key is in no later entry
      subst hother
      rw [dlookup_eq_none.mpr hnodup.1, dlookup_cons_eq, hread, Function.update_self]
    · rw [dlookup_cons_ne _ _ hother, hread, Function.update_of_ne hother]

theorem foldl_items (read : σ → κ → List ν) (result : List ν → List ν) (valid : σ → Prop)
    (hnil : result [] = [])
    (hentry : ∀ {state : σ} {key : κ} (first : ν) (more : List ν), valid state → read state key =
      [] → valid ((keyItems key first more).foldl step state) ∧
      read ((keyItems key first more).foldl step state) =
      Function.update (read state) key (result (first :: more)))
    {start : σ} (hvalid : valid start) (hstart : ∀ key, read start key = []) (map : MultiMap κ ν) :
    valid (map.items.foldl step start) ∧ ∀ key, read (map.items.foldl step start) key =
        result (map.values key) := by
  obtain ⟨hfinal, hread⟩ := foldl_keyItems hentry map.nodupKeys hvalid fun key _ => hstart key
  refine ⟨hfinal, ?_⟩
  intro key
  refine (hread key).trans ?_
  unfold values AList.lookup
  cases map.entries.dlookup key with
  | none => exact (hstart key).trans hnil.symm
  | some pair => rfl

end Fold

end MultiMap
