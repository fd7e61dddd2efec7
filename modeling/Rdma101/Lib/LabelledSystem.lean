/-
Module: Rdma101.Lib.LabelledSystem
Purpose: Labelled transition systems with a partial step function, their runs under a
  discipline, from the start or from any state, and the invariant rule.
Trusted boundary: none
Main exports: LabelledSystem, LabelledSystem.Reachable, LabelledSystem.Reachable.invariant,
  LabelledSystem.Reachable.invariant_with, LabelledSystem.Reachable.mono, LabelledSystem.Leads,
  LabelledSystem.execute, LabelledSystem.exists_reachable
-/
import Mathlib.Tactic.TypeStar

/-- A system given by its initial states and a partial step function.  All nondeterminism sits
in the label: a label that is not enabled in a state has no successor. -/
structure LabelledSystem (State : Type*) (Label : Type*) where
  Initial : State → Prop
  step : State → Label → Option State

namespace LabelledSystem

variable {State Label : Type*}

/-- The states of the runs whose every label obeys `allowed` in the state it is taken from. -/
inductive Reachable (system : LabelledSystem State Label) (allowed : State → Label → Prop) :
    State → Prop where
  | initial {state : State} (start : system.Initial state) : Reachable system allowed state
  | step {before after : State} {label : Label} (reached : Reachable system allowed before)
      (obeys : allowed before label) (taken : system.step before label = some after) :
      Reachable system allowed after

namespace Reachable

variable {system : LabelledSystem State Label} {allowed : State → Label → Prop}

/-- What holds initially and is preserved by every allowed step holds in every reached state. -/
theorem invariant {property : State → Prop}
    (initially : ∀ state, system.Initial state → property state)
    (preserved : ∀ before label after, property before → allowed before label →
      system.step before label = some after → property after)
    {state : State} (reached : Reachable system allowed state) : property state := by
  induction reached with
  | initial start => exact initially _ start
  | step _ obeys taken inductionHypothesis =>
      exact preserved _ _ _ inductionHypothesis obeys taken

/-- The invariant rule with facts that are already known of every reached state, which the
preservation step may use of both ends. -/
theorem invariant_with {known property : State → Prop}
    (knownReached : ∀ state, Reachable system allowed state → known state)
    (initially : ∀ state, system.Initial state → property state)
    (preserved : ∀ before label after, known before → known after → property before →
      allowed before label → system.step before label = some after → property after)
    {state : State} (reached : Reachable system allowed state) : property state := by
  induction reached with
  | initial start => exact initially _ start
  | step earlier obeys taken inductionHypothesis =>
      exact preserved _ _ _ (knownReached _ earlier)
        (knownReached _ (.step earlier obeys taken)) inductionHypothesis obeys taken

/-- A stricter discipline reaches fewer states. -/
theorem mono {looser : State → Label → Prop}
    (weaker : ∀ state label, allowed state label → looser state label)
    {state : State} (reached : Reachable system allowed state) :
    Reachable system looser state := by
  induction reached with
  | initial start => exact .initial start
  | step _ obeys taken inductionHypothesis =>
      exact .step inductionHypothesis (weaker _ _ obeys) taken

end Reachable

/-- The states that allowed steps lead to from a given one. -/
inductive Leads (system : LabelledSystem State Label) (allowed : State → Label → Prop)
    (start : State) : State → Prop where
  | refl : Leads system allowed start start
  | step {before after : State} {label : Label} (earlier : Leads system allowed start before)
      (obeys : allowed before label) (taken : system.step before label = some after) :
      Leads system allowed start after

namespace Leads

variable {system : LabelledSystem State Label} {allowed : State → Label → Prop}
  {first second third : State}

/-- What is led to from a reached state is reached. -/
theorem reachable (leads : Leads system allowed first second)
    (reached : system.Reachable allowed first) : system.Reachable allowed second := by
  induction leads with
  | refl => exact reached
  | step _ obeys taken inductionHypothesis => exact .step inductionHypothesis obeys taken

theorem trans (earlier : Leads system allowed first second)
    (later : Leads system allowed second third) : Leads system allowed first third := by
  induction later with
  | refl => exact earlier
  | step _ obeys taken inductionHypothesis => exact .step inductionHypothesis obeys taken

end Leads

/-- Take the labels in order, refusing one that the discipline forbids. -/
def execute (system : LabelledSystem State Label) (allowed : State → Label → Prop)
    [∀ state label, Decidable (allowed state label)] (state : State) :
    List Label → Option State
  | [] => some state
  | label :: labels =>
      if allowed state label then
        match system.step state label with
        | none => none
        | some next => execute system allowed next labels
      else none

/-- The steps that `execute` takes lead to the state that it computes. -/
theorem leads_of_execute {system : LabelledSystem State Label}
    {allowed : State → Label → Prop} [∀ state label, Decidable (allowed state label)]
    {labels : List Label} {start final : State}
    (executed : system.execute allowed start labels = some final) :
    system.Leads allowed start final := by
  induction labels generalizing start with
  | nil =>
      simp only [execute, Option.some.injEq] at executed
      exact executed ▸ .refl
  | cons label labels inductionHypothesis =>
      simp only [execute] at executed
      split at executed
      · rename_i obeys
        cases taken : system.step start label with
        | none => simp [taken] at executed
        | some next =>
            rw [taken] at executed
            exact Leads.trans (.step .refl obeys taken) (inductionHypothesis executed)
      · simp at executed

/-- A state computed by `execute` from a reached state is reached. -/
theorem reachable_of_execute {system : LabelledSystem State Label}
    {allowed : State → Label → Prop} [∀ state label, Decidable (allowed state label)]
    {labels : List Label} {start final : State} (reached : system.Reachable allowed start)
    (executed : system.execute allowed start labels = some final) :
    system.Reachable allowed final :=
  (leads_of_execute executed).reachable reached

/-- A run that can be computed shows that some reached state has a property. -/
theorem exists_reachable {system : LabelledSystem State Label}
    {allowed : State → Label → Prop} [∀ state label, Decidable (allowed state label)]
    {start : State} {property : State → Prop} (reached : system.Reachable allowed start)
    (labels : List Label)
    (computed : ∃ final ∈ system.execute allowed start labels, property final) :
    ∃ final, system.Reachable allowed final ∧ property final := by
  obtain ⟨final, executed, holds⟩ := computed
  exact ⟨final, reachable_of_execute reached executed, holds⟩

end LabelledSystem
