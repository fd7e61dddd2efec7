/-
Module: Rdma101.Lib.LockTable
Purpose: Locks with their owners: a lock that is held is held by someone who is inside its section,
  which acquiring and releasing keep.
Trusted boundary: none
Main exports: LockTable.Owned, Owned.congr, Owned.acquire, Owned.release
-/
import Mathlib.Logic.Function.Basic

namespace LockTable

variable {Key Owner : Type*}

/-- Every lock that is held is held by an owner who is inside the section of this lock; an owner is
inside one section at most. -/
def Owned (lock : Key → Option Owner) (inside : Owner → Option Key) : Prop :=
  ∀ key owner, lock key = some owner → inside owner = some key

namespace Owned

variable {lock : Key → Option Owner} {inside inside' : Owner → Option Key}

/-- Who is inside does not change. -/
theorem congr (owned : Owned lock inside) (same : ∀ owner, inside' owner = inside owner) :
    Owned lock inside' := by
  intro key owner held
  rw [same]
  exact owned key owner held

variable [DecidableEq Key]

/-- Someone who is outside takes a lock. -/
theorem acquire (owned : Owned lock inside) {key : Key} {owner : Owner}
    (outside : inside owner = none) (enters : inside' owner = some key)
    (others : ∀ other, other ≠ owner → inside' other = inside other) :
    Owned (Function.update lock key (some owner)) inside' := by
  intro other holder held
  by_cases same : other = key
  · subst same
    rw [Function.update_self] at held
    cases held
    exact enters
  · rw [Function.update_of_ne same] at held
    have isInside := owned other holder held
    have different : holder ≠ owner := by
      rintro rfl
      rw [outside] at isInside
      cases isInside
    rw [others holder different]
    exact isInside

/-- Someone who is inside gives the lock back. -/
theorem release (owned : Owned lock inside) {key : Key} {owner : Owner}
    (isInside : inside owner = some key)
    (others : ∀ other, other ≠ owner → inside' other = inside other) :
    Owned (Function.update lock key none) inside' := by
  intro other holder held
  by_cases same : other = key
  · subst same
    rw [Function.update_self] at held
    cases held
  · rw [Function.update_of_ne same] at held
    have holds := owned other holder held
    have different : holder ≠ owner := by
      rintro rfl
      rw [isInside] at holds
      exact same (Option.some.inj holds).symm
    rw [others holder different]
    exact holds

end Owned

end LockTable
