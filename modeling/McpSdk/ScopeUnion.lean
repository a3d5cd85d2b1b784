/-
The scopes that a client asks for after a refusal: those it had, and those of
the challenge. Texts stand for sets of words, and the union is written in one
way only.
-/
import McpSdk.SseEvent
import Mathlib.Data.Finset.Sort

namespace McpSdk.ClientAuth

open List
open RustStr (splitWhitespace ByteLe IsWord)

def insertScopes (set : Finset Str) (scope : Option Str) : Finset Str :=
  (scope.toList.flatMap splitWhitespace).foldl
    (fun set s => if s ≠ [] then insert s set else set) set

/-- The words of a set in their order, with blanks between them. -/
def joinScopes (set : Finset Str) : Str :=
  [' '].intercalate (set.sort ByteLe)

def unionScopes (prior challenged : Option Str) : Option Str :=
  let set := insertScopes (insertScopes ∅ prior) challenged
  if set = ∅ then none else some (joinScopes set)

def scopeSet (scope : Option Str) : Finset Str :=
  (scope.toList.flatMap splitWhitespace).toFinset

def renderScopes (set : Finset Str) : Option Str :=
  if set = ∅ then none else some (joinScopes set)

theorem isWord_of_mem_scopeSet {scope : Option Str} {word : Str}
    (hword : word ∈ scopeSet scope) : IsWord word := by
  obtain ⟨text, -, hmem⟩ := mem_flatMap.mp (mem_toFinset.mp hword)
  exact RustStr.isWord_of_mem_splitWhitespace hmem

theorem foldl_insert_eq {words : List Str} (hwords : ∀ word ∈ words, word ≠ []) (set : Finset Str) :
    words.foldl (fun set s => if s ≠ [] then insert s set else set) set =
      set ∪ words.toFinset := by
  induction words generalizing set with
  | nil => simp
  | cons word words ih =>
    obtain ⟨hword, hlater⟩ := forall_mem_cons.mp hwords
    rw [foldl_cons, if_pos hword, ih hlater, toFinset_cons,
      Finset.insert_union, Finset.union_insert]

theorem insertScopes_eq (set : Finset Str) (scope : Option Str) :
    insertScopes set scope = set ∪ scopeSet scope := by
  refine foldl_insert_eq ?_ set
  intro word hword
  exact (isWord_of_mem_scopeSet (mem_toFinset.mpr hword)).1

theorem unionScopes_eq (prior challenged : Option Str) :
    unionScopes prior challenged = renderScopes (scopeSet prior ∪ scopeSet challenged) := by
  rw [unionScopes, insertScopes_eq, insertScopes_eq, Finset.empty_union]
  rfl

variable {set : Finset Str}

theorem splitWhitespace_joinScopes (hset : ∀ word ∈ set, IsWord word) :
    splitWhitespace (joinScopes set) = set.sort ByteLe := by
  apply RustStr.splitWhitespace_intercalate
  intro word hword
  exact hset word ((Finset.mem_sort _).mp hword)

/-- What is written for a set of words is read as that set. -/
theorem scopeSet_renderScopes (hset : ∀ word ∈ set, IsWord word) :
    scopeSet (renderScopes set) = set := by
  rw [renderScopes]
  split
  · next hempty =>
    rw [hempty]
    rfl
  · rw [scopeSet, Option.toList_some, flatMap_singleton,
      splitWhitespace_joinScopes hset, Finset.sort_toFinset]

theorem renderScopes_eq_none_iff : renderScopes set = none ↔ set = ∅ := by
  rw [renderScopes]
  split
  · next hempty => simp [hempty]
  · next hne => simp [hne]

theorem scopeSet_unionScopes (prior challenged : Option Str) :
    scopeSet (unionScopes prior challenged) = scopeSet prior ∪ scopeSet challenged := by
  rw [unionScopes_eq]
  apply scopeSet_renderScopes
  intro word hword
  rcases Finset.mem_union.mp hword with hprior | hchallenged
  · exact isWord_of_mem_scopeSet hprior
  · exact isWord_of_mem_scopeSet hchallenged

/-- The words of the text ascend, and one blank stands between two of them. -/
structure IsCanonical (text : Str) : Prop where
  ascending : (splitWhitespace text).Pairwise fun left right => Utf8.encode left < Utf8.encode right
  spaced : [' '].intercalate (splitWhitespace text) = text

theorem isCanonical_joinScopes (hset : ∀ word ∈ set, IsWord word) :
    IsCanonical (joinScopes set) := by
  have hwords := splitWhitespace_joinScopes hset
  refine ⟨?_, ?_⟩
  · rw [hwords]
    have hsorted := (set.pairwise_sort ByteLe).and (set.sort_nodup ByteLe)
    refine hsorted.imp ?_
    rintro left right ⟨hle, hne⟩
    exact Std.lt_of_le_of_ne hle fun heq => hne (Utf8.encode_injective heq)
  · rw [hwords]
    rfl

theorem isCanonical_unionScopes {prior challenged : Option Str} {text : Str}
    (htext : unionScopes prior challenged = some text) : IsCanonical text := by
  rw [unionScopes_eq, renderScopes] at htext
  split at htext
  · cases htext
  · cases htext
    apply isCanonical_joinScopes
    intro word hword
    rw [← scopeSet_unionScopes] at hword
    exact isWord_of_mem_scopeSet hword

/-- For all optional scope texts: their union is that of their sets, in
canonical form, and missing exactly when both are empty; it is commutative,
idempotent and associative. -/
theorem unionScopes_laws (a b c : Option Str) :
    scopeSet (unionScopes a b) = scopeSet a ∪ scopeSet b ∧
      (∀ text, unionScopes a b = some text → IsCanonical text) ∧
      (unionScopes a b = none ↔ scopeSet a = ∅ ∧ scopeSet b = ∅) ∧
      unionScopes a b = unionScopes b a ∧ scopeSet (unionScopes a a) = scopeSet a ∧
      unionScopes (unionScopes a b) (unionScopes a b) = unionScopes a b ∧
      unionScopes (unionScopes a b) c = unionScopes a (unionScopes b c) := by
  refine ⟨scopeSet_unionScopes a b, ?_, ?_, ?_, ?_, ?_, ?_⟩
  · intro text htext
    exact isCanonical_unionScopes htext
  · rw [unionScopes_eq, renderScopes_eq_none_iff, Finset.union_eq_empty]
  · rw [unionScopes_eq, unionScopes_eq, Finset.union_comm]
  · rw [scopeSet_unionScopes, Finset.union_self]
  · rw [unionScopes_eq (unionScopes a b), scopeSet_unionScopes, Finset.union_self, unionScopes_eq]
  · rw [unionScopes_eq (unionScopes a b), unionScopes_eq a (unionScopes b c),
      scopeSet_unionScopes, scopeSet_unionScopes, Finset.union_assoc]

end McpSdk.ClientAuth
