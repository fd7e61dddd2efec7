/-
Module: Rdma101.Lib.SectionLogic
Purpose: A program logic for state-and-exception code that runs under a lock.  A judgement
  says by which moves a program can change the state, with what it returns and what it raises;
  a raise keeps the moves made before it.
Trusted boundary: none
Main exports: Performs, Performs.pure, Performs.throw, Performs.bind, Performs.ok,
  Performs.error
-/
import Mathlib.Logic.Relation

section Running

variable {σ ε α β : Type}

@[simp] theorem run_throw (error : ε) (state : σ) :
    (throw error : EStateM ε σ α).run state = .error error state := rfl

@[simp] theorem run_map (change : α → β) (action : EStateM ε σ α) (state : σ) :
    (change <$> action).run state =
      match action.run state with
      | .ok value final => .ok (change value) final
      | .error error final => .error error final := by
  simp only [Functor.map, EStateM.map, EStateM.run]
  cases action state <;> rfl

end Running

/-- From `before`, `program` changes the state by `moves` only; it returns a value and a state
that satisfy `returns`, or raises an error that satisfies `raises`. -/
def Performs {σ ε α : Type} (moves : σ → σ → Prop) (raises : ε → Prop)
    (program : EStateM ε σ α) (before : σ) (returns : α → σ → Prop) : Prop :=
  match program.run before with
  | .ok value after => Relation.ReflTransGen moves before after ∧ returns value after
  | .error error after => Relation.ReflTransGen moves before after ∧ raises error

namespace Performs

variable {σ ε α β : Type} {moves : σ → σ → Prop} {raises : ε → Prop} {before : σ}
  {program : EStateM ε σ α} {returns : α → σ → Prop}

theorem of_ok {value : α} {after : σ} (run : program.run before = .ok value after)
    (moved : Relation.ReflTransGen moves before after) (holds : returns value after) :
    Performs moves raises program before returns := by
  rw [Performs, run]
  exact ⟨moved, holds⟩

theorem of_error {error : ε} {after : σ} (run : program.run before = .error error after)
    (moved : Relation.ReflTransGen moves before after) (holds : raises error) :
    Performs moves raises program before returns := by
  rw [Performs, run]
  exact ⟨moved, holds⟩

protected theorem pure {value : α} (holds : returns value before) :
    Performs moves raises (pure value) before returns :=
  of_ok rfl .refl holds

protected theorem throw {error : ε} (holds : raises error) :
    Performs moves raises (throw error) before returns :=
  of_error rfl .refl holds

/-- Sequencing: the second program starts where the first one stopped. -/
protected theorem bind {next : α → EStateM ε σ β} {middle : α → σ → Prop}
    {finally' : β → σ → Prop} (first : Performs moves raises program before middle)
    (second : ∀ value after, Relation.ReflTransGen moves before after → middle value after →
      Performs moves raises (next value) after finally') :
    Performs moves raises (program >>= next) before finally' := by
  cases run : program.run before with
  | error error after =>
      rw [Performs, run] at first
      exact of_error (by simp [run]) first.1 first.2
  | ok value after =>
      rw [Performs, run] at first
      have continued := second value after first.1 first.2
      cases run' : (next value).run after with
      | error error final =>
          rw [Performs, run'] at continued
          exact of_error (by simp [run, run']) (first.1.trans continued.1) continued.2
      | ok result final =>
          rw [Performs, run'] at continued
          exact of_ok (by simp [run, run']) (first.1.trans continued.1) continued.2

/-- What is known of a program that returned. -/
theorem ok (performed : Performs moves raises program before returns) {value : α} {after : σ}
    (run : program.run before = .ok value after) :
    Relation.ReflTransGen moves before after ∧ returns value after := by
  rw [Performs, run] at performed
  exact performed

/-- What is known of a program that raised. -/
theorem error (performed : Performs moves raises program before returns) {error : ε}
    {after : σ} (run : program.run before = .error error after) :
    Relation.ReflTransGen moves before after ∧ raises error := by
  rw [Performs, run] at performed
  exact performed

end Performs
