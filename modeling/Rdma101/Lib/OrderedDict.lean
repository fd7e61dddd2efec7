/-
Module: Rdma101.Lib.OrderedDict
Purpose: Dictionaries that keep insertion order and hold at most one value for a key: an
  assignment to a present key keeps its place, a new key goes to the end.
Trusted boundary: none
Main exports: OrderedDict, get?, set, erase, values, get?_set, get?_erase, mem_values
-/
import Mathlib.Data.List.Nodup

namespace OrderedDict

variable {κ ν : Type*} [DecidableEq κ]

/-- The value of the first entry for `key`. -/
def lookup (key : κ) : List (κ × ν) → Option ν
  | [] => none
  | (other, value) :: rest => if key = other then some value else lookup key rest

/-- Overwrite the entry for `key` in place, or append one. -/
def assign (key : κ) (value : ν) : List (κ × ν) → List (κ × ν)
  | [] => [(key, value)]
  | (other, old) :: rest =>
      if key = other then (other, value) :: rest else (other, old) :: assign key value rest

theorem mem_keys_assign {key other : κ} {value : ν} {entries : List (κ × ν)} :
    other ∈ (assign key value entries).map Prod.fst ↔
      other = key ∨ other ∈ entries.map Prod.fst := by
  induction entries with
  | nil => simp [assign]
  | cons entry rest inductionHypothesis =>
      obtain ⟨first, old⟩ := entry
      by_cases same : key = first
      · simp [assign, same]
      · simp only [assign, if_neg same, List.map_cons, List.mem_cons, inductionHypothesis]
        tauto

theorem nodup_assign {key : κ} {value : ν} {entries : List (κ × ν)}
    (nodup : (entries.map Prod.fst).Nodup) :
    ((assign key value entries).map Prod.fst).Nodup := by
  induction entries with
  | nil => simp [assign]
  | cons entry rest inductionHypothesis =>
      obtain ⟨first, old⟩ := entry
      rw [List.map_cons, List.nodup_cons] at nodup
      by_cases same : key = first
      · simpa [assign, same] using nodup
      · rw [assign, if_neg same, List.map_cons, List.nodup_cons, mem_keys_assign]
        refine ⟨?_, inductionHypothesis nodup.2⟩
        rintro (isKey | inRest)
        · exact same isKey.symm
        · exact nodup.1 inRest

theorem lookup_assign {key other : κ} {value : ν} {entries : List (κ × ν)} :
    lookup other (assign key value entries) =
      if other = key then some value else lookup other entries := by
  induction entries with
  | nil => rfl
  | cons entry rest inductionHypothesis =>
      obtain ⟨first, old⟩ := entry
      by_cases same : key = first
      · subst same
        by_cases hit : other = key <;> simp [assign, lookup, hit]
      · by_cases hit : other = first
        · have miss : other ≠ key := fun isKey => same (isKey ▸ hit)
          simp [assign, same, lookup, hit, Ne.symm same]
        · simp [assign, same, lookup, hit, inductionHypothesis]

theorem lookup_filter_ne {key other : κ} {entries : List (κ × ν)} :
    lookup other (entries.filter fun entry => entry.1 ≠ key) =
      if other = key then none else lookup other entries := by
  induction entries with
  | nil => simp [lookup]
  | cons entry rest inductionHypothesis =>
      obtain ⟨first, value⟩ := entry
      by_cases kept : first = key
      · subst kept
        by_cases hit : other = first <;> simp_all [lookup]
      · by_cases hit : other = first
        · subst hit
          simp [kept, lookup]
        · simp_all [lookup]

theorem lookup_eq_some_iff {key : κ} {value : ν} {entries : List (κ × ν)}
    (nodup : (entries.map Prod.fst).Nodup) :
    lookup key entries = some value ↔ (key, value) ∈ entries := by
  induction entries with
  | nil => simp [lookup]
  | cons entry rest inductionHypothesis =>
      obtain ⟨first, old⟩ := entry
      rw [List.map_cons, List.nodup_cons] at nodup
      by_cases hit : key = first
      · subst hit
        have absent : (key, value) ∉ rest := fun member =>
          nodup.1 (List.mem_map.mpr ⟨_, member, rfl⟩)
        simp [lookup, absent, eq_comm]
      · simp [lookup, hit, inductionHypothesis nodup.2]

end OrderedDict

/-- An insertion-ordered dictionary; its keys are distinct by construction. -/
structure OrderedDict (κ ν : Type*) where
  entries : List (κ × ν)
  nodupKeys : (entries.map Prod.fst).Nodup
deriving Repr

namespace OrderedDict

variable {κ ν : Type*} [DecidableEq κ]

def empty : OrderedDict κ ν := ⟨[], List.nodup_nil⟩

instance : EmptyCollection (OrderedDict κ ν) := ⟨empty⟩

/-- `d.get(key)`. -/
def get? (dict : OrderedDict κ ν) (key : κ) : Option ν := lookup key dict.entries

/-- `d[key] = value`. -/
def set (dict : OrderedDict κ ν) (key : κ) (value : ν) : OrderedDict κ ν :=
  ⟨assign key value dict.entries, nodup_assign dict.nodupKeys⟩

/-- `d.pop(key, None)`: drop the entry for `key` if there is one. -/
def erase (dict : OrderedDict κ ν) (key : κ) : OrderedDict κ ν :=
  ⟨dict.entries.filter fun entry => entry.1 ≠ key,
    dict.nodupKeys.sublist (List.filter_sublist.map _)⟩

/-- The entries that pass the test, in the same order. -/
def filter (dict : OrderedDict κ ν) (keep : κ × ν → Bool) : OrderedDict κ ν :=
  ⟨dict.entries.filter keep, dict.nodupKeys.sublist (List.filter_sublist.map _)⟩

/-- `d.values()`, in insertion order. -/
def values (dict : OrderedDict κ ν) : List ν := dict.entries.map Prod.snd

@[simp] theorem get?_empty (key : κ) : (∅ : OrderedDict κ ν).get? key = none := rfl

@[simp, grind =] theorem get?_set (dict : OrderedDict κ ν) (key other : κ) (value : ν) :
    (dict.set key value).get? other = if other = key then some value else dict.get? other :=
  lookup_assign

theorem get?_set_self (dict : OrderedDict κ ν) (key : κ) (value : ν) :
    (dict.set key value).get? key = some value := by simp

@[simp, grind =] theorem get?_erase (dict : OrderedDict κ ν) (key other : κ) :
    (dict.erase key).get? other = if other = key then none else dict.get? other :=
  lookup_filter_ne

theorem get?_eq_some_iff {dict : OrderedDict κ ν} {key : κ} {value : ν} :
    dict.get? key = some value ↔ (key, value) ∈ dict.entries :=
  lookup_eq_some_iff dict.nodupKeys

@[simp, grind =] theorem get?_filter (dict : OrderedDict κ ν) (keep : κ × ν → Bool) (key : κ) :
    (dict.filter keep).get? key = (dict.get? key).filter fun value => keep (key, value) := by
  apply Option.ext
  intro value
  rw [get?_eq_some_iff, Option.filter_eq_some_iff, get?_eq_some_iff]
  exact List.mem_filter

/-- The values are those some key holds. -/
theorem mem_values {dict : OrderedDict κ ν} {value : ν} :
    value ∈ dict.values ↔ ∃ key, dict.get? key = some value := by
  simp [values, get?, lookup_eq_some_iff dict.nodupKeys]

/-- Values that name their own keys have distinct names. -/
theorem nodup_map_values {dict : OrderedDict κ ν} {name : ν → κ}
    (keyed : ∀ key value, dict.get? key = some value → name value = key) :
    (dict.values.map name).Nodup := by
  have same : dict.values.map name = dict.entries.map Prod.fst := by
    rw [values, List.map_map]
    refine List.map_congr_left fun entry member => keyed entry.1 entry.2 ?_
    exact (lookup_eq_some_iff dict.nodupKeys).mpr member
  exact same ▸ dict.nodupKeys

/-- A value found by a search of the values is held by some key and passes the test. -/
theorem get?_of_find? {dict : OrderedDict κ ν} {test : ν → Bool} {value : ν}
    (found : dict.values.find? test = some value) :
    test value = true ∧ ∃ key, dict.get? key = some value :=
  ⟨List.find?_some found, mem_values.mp (List.mem_of_find?_eq_some found)⟩

end OrderedDict
