/-
Systems that take one action after the other, as partial step functions. An
invariant is carried along a run by showing what one step keeps, perhaps under a
condition that the run meets at every step.
-/
import Mathlib.Data.List.Induction
import Mathlib.Tactic.Common

namespace Lts

universe u v

variable {S : Type u} {A : Type v} {step : S → A → Option S}

theorem of_guard {condition : Prop} [Decidable condition] {after : Option S} {next : S}
    (hstep : (if condition then after else none) = some next) : condition ∧ after = some next :=
  Option.ite_none_right_eq_some.mp hstep

/-- Take the actions in order. -/
def run (step : S → A → Option S) : S → List A → Option S
  | state, [] => some state
  | state, action :: actions =>
    (step state action).bind fun next => run step next actions

/-- The condition holds whenever an action of the run is taken. -/
def Along (step : S → A → Option S) (condition : S → A → Prop) :
    S → List A → Prop
  | _, [] => True
  | state, action :: actions =>
    condition state action ∧
      ∀ next, step state action = some next → Along step condition next actions

theorem along_cons_of_some {condition : S → A → Prop} {state next : S}
    {action : A} {actions : List A} (hnext : step state action = some next) :
    Along step condition state (action :: actions) ↔
      condition state action ∧ Along step condition next actions := by
  constructor
  · rintro ⟨hcondition, hlater⟩
    exact ⟨hcondition, hlater next hnext⟩
  · rintro ⟨hcondition, hlater⟩
    refine ⟨hcondition, ?_⟩
    intro other hother
    rw [hnext] at hother
    cases hother
    exact hlater

theorem along_cons_of_none {condition : S → A → Prop} {state : S} {action : A} {actions : List A}
    (hnone : step state action = none) :
    Along step condition state (action :: actions) ↔ condition state action := by
  constructor
  · rintro ⟨hcondition, -⟩
    exact hcondition
  · intro hcondition
    refine ⟨hcondition, ?_⟩
    intro next hnext
    rw [hnone] at hnext
    cases hnext

instance decidableAlong {condition : S → A → Prop}
    [∀ state action, Decidable (condition state action)] :
    ∀ state actions, Decidable (Along step condition state actions)
  | _, [] => isTrue trivial
  | state, action :: actions =>
    match hstep : step state action with
    | some next =>
      have : Decidable (Along step condition next actions) := decidableAlong next actions
      decidable_of_iff (condition state action ∧
        Along step condition next actions) (along_cons_of_some hstep).symm
    | none => decidable_of_iff _ (along_cons_of_none hstep).symm

theorem along_congr {left right : S → A → Prop} {invariant : S → Prop}
    (hstep : ∀ {state next : S} {action : A}, invariant state → step state action = some next →
      invariant next)
    (hiff : ∀ {state : S}, invariant state → ∀ action, left state action ↔ right state action)
    {state : S} (hstate : invariant state) (actions : List A) :
    Along step left state actions ↔ Along step right state actions := by
  induction actions generalizing state with
  | nil => exact Iff.rfl
  | cons action actions ih =>
    refine and_congr (hiff hstate action) ?_
    refine forall_congr' fun next => ?_
    refine forall_congr' fun hnext => ?_
    exact ih (hstep hstate hnext)

theorem run_cons_eq_some {state final : S} {action : A} {actions : List A} :
    run step state (action :: actions) = some final ↔ ∃ next, step state action = some next ∧
        run step next actions = some final := by
  change (step state action).bind _ = some final ↔ _
  exact Option.bind_eq_some_iff

/-- What holds at the end of a run and can only be lost held at its start. -/
theorem run_backward {property : S → Prop}
    (hback : ∀ {state next : S} {action : A}, step state action = some next → property next →
      property state)
    {state final : S} {actions : List A} (hrun : run step state actions = some final)
    (hfinal : property final) : property state := by
  induction actions generalizing state with
  | nil =>
    cases hrun
    exact hfinal
  | cons action actions ih =>
    obtain ⟨next, hnext, hrest⟩ := run_cons_eq_some.mp hrun
    exact hback hnext (ih hrest)

theorem along_congr_of_run {left right : S → A → Prop} {invariant bounded : S → Prop}
    (hstep : ∀ {state next : S} {action : A}, invariant state → step state action = some next →
      invariant next)
    (hback : ∀ {state next : S} {action : A}, step state action = some next → bounded next →
      bounded state)
    (hiff : ∀ {state : S}, invariant state → bounded state → ∀ action, left state action ↔
      right state action) {state final : S} {actions : List A} (hstate : invariant state)
    (hrun : run step state actions = some final) (hfinal : bounded final) :
    Along step left state actions ↔ Along step right state actions := by
  induction actions generalizing state with
  | nil => exact Iff.rfl
  | cons action actions ih =>
    have hbounded := run_backward hback hrun hfinal
    obtain ⟨next, hnext, hrest⟩ := run_cons_eq_some.mp hrun
    rw [along_cons_of_some hnext, along_cons_of_some hnext]
    exact and_congr (hiff hstate hbounded action) (ih (hstep hstate hnext) hrest)

/-- The actions can be taken, meet the condition, and lead to the goal. -/
def Reaches (step : S → A → Option S) (condition : S → A → Prop)
    (goal : S → Prop) (state : S) (actions : List A) : Prop :=
  ∃ final, run step state actions = some final ∧ Along step condition state actions ∧ goal final

theorem Reaches.cons {condition : S → A → Prop} {goal : S → Prop} {state next : S} {action : A}
    {actions : List A} (hstep : step state action = some next)
    (hcondition : condition state action) (hrest : Reaches step condition goal next actions) :
    Reaches step condition goal state (action :: actions) := by
  obtain ⟨final, hrun, halong, hgoal⟩ := hrest
  refine ⟨final, ?_, ?_, hgoal⟩
  · rw [run_cons_eq_some]
    exact ⟨next, hstep, hrun⟩
  · rw [along_cons_of_some hstep]
    exact ⟨hcondition, halong⟩

/-- What every step keeps holds at the end of every run under the condition. -/
theorem run_invariant {condition : S → A → Prop} {invariant : S → Prop}
    (hstep : ∀ {state next : S} {action : A}, invariant state → condition state action →
      step state action = some next → invariant next)
    {state final : S} {actions : List A} (hstate : invariant state)
    (halong : Along step condition state actions) (hrun : run step state actions = some final) :
    invariant final := by
  induction actions generalizing state with
  | nil =>
    cases hrun
    exact hstate
  | cons action actions ih =>
    obtain ⟨next, hnext, hrest⟩ := run_cons_eq_some.mp hrun
    obtain ⟨hcondition, hlater⟩ := halong
    exact ih (hstep hstate hcondition hnext) (hlater next hnext) hrest

/-- An invariant under which every step that is taken meets the condition. -/
theorem run_along {condition : S → A → Prop} {invariant : S → Prop}
    (hstep : ∀ {state next : S} {action : A}, invariant state → step state action = some next →
      condition state action ∧ invariant next)
    {state final : S} {actions : List A} (hstate : invariant state)
    (hrun : run step state actions = some final) :
    Along step condition state actions ∧ invariant final := by
  induction actions generalizing state with
  | nil =>
    cases hrun
    exact ⟨trivial, hstate⟩
  | cons action actions ih =>
    obtain ⟨next, hnext, hrest⟩ := run_cons_eq_some.mp hrun
    obtain ⟨hcondition, hinvariant⟩ := hstep hstate hnext
    obtain ⟨hlater, hfinal⟩ := ih hinvariant hrest
    exact ⟨(along_cons_of_some hnext).mpr ⟨hcondition, hlater⟩, hfinal⟩

/-- What every step keeps holds at the end of every run. -/
theorem run_keeps {invariant : S → Prop}
    (hstep : ∀ {state next : S} {action : A}, invariant state → step state action = some next →
      invariant next) {state final : S} {actions : List A} (hstate : invariant state)
    (hrun : run step state actions = some final) : invariant final :=
  (run_along (fun hbefore hnext => ⟨trivial, hstep hbefore hnext⟩) hstate hrun).2

/-- A run keeps the invariant along with the condition, or ends up broken. -/
theorem run_along_or_broken {condition : S → A → Prop} {invariant broken : S → Prop}
    (hkeep : ∀ {state next : S} {action : A}, invariant state → condition state action →
      step state action = some next → invariant next)
    (hbreak : ∀ {state next : S} {action : A}, invariant state → ¬ condition state action →
      step state action = some next → broken next)
    (hbroken : ∀ {state next : S} {action : A}, broken state → step state action = some next →
      broken next) {state final : S} {actions : List A} (hstate : invariant state)
    (hrun : run step state actions = some final) :
    (Along step condition state actions ∧ invariant final) ∨
      (¬ Along step condition state actions ∧ broken final) := by
  induction actions generalizing state with
  | nil =>
    cases hrun
    exact .inl ⟨trivial, hstate⟩
  | cons action actions ih =>
    obtain ⟨next, hnext, hrest⟩ := run_cons_eq_some.mp hrun
    rw [along_cons_of_some hnext]
    by_cases hcondition : condition state action
    · simp only [hcondition, true_and]
      exact ih (hkeep hstate hcondition hnext) hrest
    · refine .inr ⟨fun halong => hcondition halong.1, ?_⟩
      exact run_keeps hbroken (hbreak hstate hcondition hnext) hrest

theorem run_append_eq_some {state final : S} {before after : List A} :
    run step state (before ++ after) = some final ↔ ∃ middle, run step state before = some middle ∧
        run step middle after = some final := by
  induction before generalizing state with
  | nil => simp [run]
  | cons action before ih =>
    rw [List.cons_append, run_cons_eq_some]
    simp only [run_cons_eq_some, ih]
    constructor
    · rintro ⟨next, hnext, middle, hmiddle, hfinal⟩
      exact ⟨middle, ⟨next, hnext, hmiddle⟩, hfinal⟩
    · rintro ⟨middle, ⟨next, hnext, hmiddle⟩, hfinal⟩
      exact ⟨next, hnext, middle, hmiddle, hfinal⟩

theorem along_append {condition : S → A → Prop} {state middle : S}
    {before after : List A} (hrun : run step state before = some middle) :
    Along step condition state (before ++ after) ↔ Along step condition state before ∧
        Along step condition middle after := by
  induction before generalizing state with
  | nil =>
    cases hrun
    exact (iff_of_eq (true_and _)).symm
  | cons action before ih =>
    obtain ⟨next, hnext, hrest⟩ := run_cons_eq_some.mp hrun
    rw [List.cons_append, along_cons_of_some hnext, along_cons_of_some hnext, ih hrest, and_assoc]

/-- A property that a step keeps exactly under the condition holds in every
state of a run exactly when the condition holds along it. -/
theorem forall_states_iff_along {condition : S → A → Prop} {property invariant bounded : S → Prop}
    (hstep : ∀ {state next : S} {action : A}, invariant state → step state action = some next →
      invariant next)
    (hback : ∀ {state next : S} {action : A}, step state action = some next → bounded next →
      bounded state)
    (hiff : ∀ {state next : S} {action : A}, invariant state → property state → bounded next →
      step state action = some next → (property next ↔ condition state action))
    {state final : S} {actions : List A} (hstate : invariant state) (hproperty : property state)
    (hrun : run step state actions = some final) (hfinal : bounded final) :
    (∀ before after middle, before ++ after = actions →
        run step state before = some middle → property middle) ↔
      Along step condition state actions := by
  induction actions generalizing state with
  | nil =>
    refine iff_of_true ?_ trivial
    intro before after middle happend hbefore
    obtain ⟨rfl, rfl⟩ := List.append_eq_nil_iff.mp happend
    cases hbefore
    exact hproperty
  | cons action actions ih =>
    obtain ⟨next, hnext, hrest⟩ := run_cons_eq_some.mp hrun
    have hsame := hiff hstate hproperty (run_backward hback hrest hfinal) hnext
    rw [along_cons_of_some hnext]
    constructor
    · intro hall
      have hkept : property next := hall [action] actions next rfl
        (run_cons_eq_some.mpr ⟨next, hnext, rfl⟩)
      refine ⟨hsame.mp hkept, ?_⟩
      rw [← ih (hstep hstate hnext) hkept hrest]
      rintro before after middle rfl hbefore
      exact hall (action :: before) after middle rfl (run_cons_eq_some.mpr ⟨next, hnext, hbefore⟩)
    · rintro ⟨hcondition, hlater⟩ before after middle happend hbefore
      cases before with
      | nil =>
        cases hbefore
        exact hproperty
      | cons first before =>
        obtain ⟨rfl, hrestAppend⟩ := List.cons.inj happend
        obtain ⟨other, hother, hmiddle⟩ := run_cons_eq_some.mp hbefore
        cases hnext.symm.trans hother
        exact (ih (hstep hstate hnext) (hsame.mpr hcondition) hrest).mpr
          hlater before after middle hrestAppend hmiddle

/-- An invariant that may speak about the actions taken so far. -/
theorem run_trace_invariant {invariant : List A → S → Prop}
    (hstep : ∀ {trace : List A} {state next : S} {action : A}, invariant trace state →
      step state action = some next → invariant (trace ++ [action]) next)
    {state final : S} {actions : List A} (hstate : invariant [] state)
    (hrun : run step state actions = some final) : invariant actions final := by
  induction actions using List.reverseRecOn generalizing final with
  | nil =>
    cases hrun
    exact hstate
  | append_singleton actions action ih =>
    obtain ⟨middle, hmiddle, hlast⟩ := run_append_eq_some.mp hrun
    obtain ⟨next, hnext, hfinal⟩ := run_cons_eq_some.mp hlast
    cases hfinal
    exact hstep (ih hmiddle) hnext

/-- Some action has established a property, and no later one has ended it. -/
def Since (step : S → A → Option S) (establishes : A → Prop)
    (ends : S → A → Prop) (init : S) (actions : List A) : Prop :=
  ∃ before action after middle, actions = before ++ action :: after ∧
    establishes action ∧ run step init (before ++ [action]) = some middle ∧
    Along step (fun state action => ¬ ends state action) middle after

/-- A property that steps can only establish or end holds at the end exactly
when it was established since it was last ended. -/
theorem holds_iff_since {property : S → Prop} {establishes : A → Prop} {ends : S → A → Prop}
    (hiff : ∀ {state next : S} {action : A}, step state action = some next → (property next ↔
      establishes action ∨ property state ∧ ¬ ends state action))
    {init final : S} {actions : List A} (hinit : ¬ property init)
    (hrun : run step init actions = some final) :
    property final ↔ Since step establishes ends init actions := by
  constructor
  · intro hfinal
    induction actions using List.reverseRecOn generalizing final with
    | nil =>
      cases hrun
      exact absurd hfinal hinit
    | append_singleton actions last ih =>
      obtain ⟨state, hstate, hlast⟩ := run_append_eq_some.mp hrun
      obtain ⟨next, hnext, hsame⟩ := run_cons_eq_some.mp hlast
      cases hsame
      rcases (hiff hnext).mp hfinal with hsets | ⟨hbefore, hkeeps⟩
      · exact ⟨actions, last, [], final, rfl, hsets, hrun, trivial⟩
      · obtain ⟨before, action, after, middle, rfl, hsets, hmiddle, halong⟩ := ih hstate hbefore
        refine ⟨before, action, after ++ [last], middle, by simp, hsets, hmiddle, ?_⟩
        rw [List.append_cons] at hstate
        obtain ⟨other, hother, hafter⟩ := run_append_eq_some.mp hstate
        cases hmiddle.symm.trans hother
        rw [along_append hafter]
        exact ⟨halong, hkeeps, fun _ _ => trivial⟩
  · rintro ⟨before, action, after, middle, rfl, hsets, hmiddle, halong⟩
    rw [List.append_cons] at hrun
    obtain ⟨other, hother, hafter⟩ := run_append_eq_some.mp hrun
    cases hmiddle.symm.trans hother
    obtain ⟨state, -, hlast⟩ := run_append_eq_some.mp hmiddle
    obtain ⟨next, hnext, hsame⟩ := run_cons_eq_some.mp hlast
    cases hsame
    exact run_invariant (fun hstate hkeeps hstep =>
      (hiff hstep).mpr (.inr ⟨hstate, hkeeps⟩))
      ((hiff hnext).mpr (.inl hsets)) halong hafter

/-- Every run ends, and the goal holds wherever a run can go no further. -/
def Inevitable (step : S → A → Option S) (init : S) (goal : S → Prop) : Prop :=
  (∃ bound, ∀ actions final, run step init actions = some final → actions.length ≤ bound) ∧
    ∀ actions final, run step init actions = some final →
      (∀ action, step final action = none) → goal final

theorem run_length_le {measure : S → Nat} {invariant : S → Prop}
    (hstep : ∀ {state next : S} {action : A}, invariant state → step state action = some next →
      invariant next ∧ measure next < measure state)
    {state final : S} {actions : List A} (hstate : invariant state)
    (hrun : run step state actions = some final) :
    invariant final ∧ actions.length ≤ measure state := by
  induction actions generalizing state with
  | nil =>
    cases hrun
    exact ⟨hstate, Nat.zero_le _⟩
  | cons action actions ih =>
    obtain ⟨next, hnext, hrest⟩ := run_cons_eq_some.mp hrun
    obtain ⟨hinvariant, hless⟩ := hstep hstate hnext
    obtain ⟨hfinal, hlength⟩ := ih hinvariant hrest
    refine ⟨hfinal, ?_⟩
    rw [List.length_cons]
    omega

/-- Every step lowers a measure, and only the goal can stop the system. -/
theorem inevitable_of_measure {measure : S → Nat} {invariant : S → Prop} {init : S}
    {goal : S → Prop}
    (hstep : ∀ {state next : S} {action : A}, invariant state → step state action = some next →
      invariant next ∧ measure next < measure state)
    (hstop : ∀ {state : S}, invariant state → (∀ action, step state action = none) → goal state)
    (hinit : invariant init) : Inevitable step init goal := by
  refine ⟨⟨measure init, ?_⟩, ?_⟩
  · intro actions final hrun
    exact (run_length_le hstep hinit hrun).2
  · intro actions final hrun hnone
    exact hstop (run_length_le hstep hinit hrun).1 hnone

theorem Inevitable.of_run {init middle : S} {goal : S → Prop} {before : List A}
    (hgoal : Inevitable step init goal) (hbefore : run step init before = some middle) :
    Inevitable step middle goal := by
  obtain ⟨⟨bound, hbound⟩, hstop⟩ := hgoal
  refine ⟨⟨bound, ?_⟩, ?_⟩
  · intro actions final hrun
    have hlength := hbound _ _ (run_append_eq_some.mpr ⟨middle, hbefore, hrun⟩)
    rw [List.length_append] at hlength
    omega
  · intro actions final hrun hnone
    exact hstop _ _ (run_append_eq_some.mpr ⟨middle, hbefore, hrun⟩) hnone

theorem Inevitable.exists_run {init : S} {goal : S → Prop} (hgoal : Inevitable step init goal) :
    ∃ actions final, run step init actions = some final ∧ goal final := by
  obtain ⟨⟨bound, hbound⟩, hstop⟩ := hgoal
  -- a run that cannot be extended, by induction on the room below the bound
  have hextend : ∀ room actions final, run step init actions = some final →
      bound ≤ actions.length + room →
        ∃ actions final, run step init actions = some final ∧
          ∀ action, step final action = none := by
    intro room
    induction room with
    | zero =>
      intro actions final hrun hroom
      refine ⟨actions, final, hrun, ?_⟩
      intro action
      cases hnext : step final action with
      | none => rfl
      | some next =>
        have hlonger : run step init (actions ++ [action]) = some next :=
          run_append_eq_some.mpr ⟨final, hrun, run_cons_eq_some.mpr ⟨next, hnext, rfl⟩⟩
        have hlength := hbound _ _ hlonger
        rw [List.length_append, List.length_singleton] at hlength
        omega
    | succ room ih =>
      intro actions final hrun hroom
      by_cases hstuck : ∀ action, step final action = none
      · exact ⟨actions, final, hrun, hstuck⟩
      · rw [not_forall] at hstuck
        obtain ⟨action, hsome⟩ := hstuck
        obtain ⟨next, hnext⟩ := Option.ne_none_iff_exists'.mp hsome
        refine ih (actions ++ [action]) next ?_ ?_
        · exact run_append_eq_some.mpr ⟨final, hrun, run_cons_eq_some.mpr ⟨next, hnext, rfl⟩⟩
        · rw [List.length_append, List.length_singleton]
          omega
  obtain ⟨actions, final, hrun, hnone⟩ := hextend bound [] init rfl (by simp)
  exact ⟨actions, final, hrun, hstop actions final hrun hnone⟩

end Lts
