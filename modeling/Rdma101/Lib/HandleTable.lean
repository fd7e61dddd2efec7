/-
Module: Rdma101.Lib.HandleTable
Purpose: Tables whose keys are handed out by their owner: nonzero 64-bit numbers, none of which is
  ever handed out again, also after its entry is gone.
Trusted boundary: none
Main exports: HandleTable, get?, Fresh, add, remove, filter
-/
import Rdma101.Lib.OrderedDict
import Mathlib.Algebra.Group.Nat.Defs

/-- The live entries and every handle handed out so far. -/
structure HandleTable (ν : Type*) where
  live : OrderedDict Nat ν
  issued : List Nat
  liveIssued : ∀ handle value, live.get? handle = some value →
    handle ≠ 0 ∧ handle < 2 ^ 64 ∧ handle ∈ issued

namespace HandleTable

variable {ν : Type*}

instance : EmptyCollection (HandleTable ν) := ⟨⟨∅, [], by simp⟩⟩

def get? (table : HandleTable ν) (handle : Nat) : Option ν := table.live.get? handle

/-- A handle that may be handed out next. -/
def Fresh (table : HandleTable ν) (handle : Nat) : Prop :=
  handle ≠ 0 ∧ handle < 2 ^ 64 ∧ handle ∉ table.issued

instance (table : HandleTable ν) (handle : Nat) : Decidable (table.Fresh handle) :=
  inferInstanceAs (Decidable (_ ∧ _ ∧ _))

/-- Hand out a fresh handle for a new entry. -/
def add (table : HandleTable ν) (handle : Nat) (value : ν) (fresh : table.Fresh handle) :
    HandleTable ν where
  live := table.live.set handle value
  issued := handle :: table.issued
  liveIssued := by
    intro other found held
    rw [OrderedDict.get?_set] at held
    split at held
    · rename_i isHandle
      subst isHandle
      exact ⟨fresh.1, fresh.2.1, .head table.issued⟩
    · have known := table.liveIssued other found held
      exact ⟨known.1, known.2.1, .tail handle known.2.2⟩

/-- Drop an entry; its handle stays used. -/
def remove (table : HandleTable ν) (handle : Nat) : HandleTable ν where
  live := table.live.erase handle
  issued := table.issued
  liveIssued := by
    intro other found held
    rw [OrderedDict.get?_erase] at held
    split at held
    · cases held
    · exact table.liveIssued other found held

/-- Drop the entries that fail the test. -/
def filter (table : HandleTable ν) (keep : ν → Bool) : HandleTable ν where
  live := table.live.filter fun entry => keep entry.2
  issued := table.issued
  liveIssued := by
    intro other found held
    rw [OrderedDict.get?_filter, Option.filter_eq_some_iff] at held
    exact table.liveIssued other found held.1

@[simp] theorem get?_empty (handle : Nat) : (∅ : HandleTable ν).get? handle = none := rfl

/-- The proof that a handle is fresh does not matter. -/
theorem add_congr {table other : HandleTable ν} (same : table = other) {handle : Nat} {value : ν}
    (fresh : table.Fresh handle) (fresh' : other.Fresh handle) :
    table.add handle value fresh = other.add handle value fresh' := by
  subst same
  rfl

@[simp, grind =] theorem get?_add (table : HandleTable ν) (handle other : Nat) (value : ν)
    (fresh : table.Fresh handle) :
    (table.add handle value fresh).get? other =
      if other = handle then some value else table.get? other :=
  OrderedDict.get?_set table.live handle other value

@[simp, grind =] theorem get?_remove (table : HandleTable ν) (handle other : Nat) :
    (table.remove handle).get? other = if other = handle then none else table.get? other :=
  OrderedDict.get?_erase table.live handle other

@[simp, grind =] theorem get?_filter (table : HandleTable ν) (keep : ν → Bool) (other : Nat) :
    (table.filter keep).get? other = (table.get? other).filter keep :=
  OrderedDict.get?_filter table.live (fun entry => keep entry.2) other

/-- A fresh handle has no live entry. -/
theorem Fresh.get?_eq_none {table : HandleTable ν} {handle : Nat} (fresh : table.Fresh handle) :
    table.get? handle = none := by
  cases held : table.get? handle with
  | none => rfl
  | some value => exact absurd (table.liveIssued handle value held).2.2 fresh.2.2

/-- A live handle is not the null handle. -/
theorem ne_zero_of_get?_eq_some {table : HandleTable ν} {handle : Nat} {value : ν}
    (held : table.get? handle = some value) : handle ≠ 0 :=
  (table.liveIssued handle value held).1

theorem small_of_get?_eq_some {table : HandleTable ν} {handle : Nat} {value : ν}
    (held : table.get? handle = some value) : handle < 2 ^ 64 :=
  (table.liveIssued handle value held).2.1

end HandleTable
