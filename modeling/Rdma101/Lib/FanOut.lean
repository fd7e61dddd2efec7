/-
Module: Rdma101.Lib.FanOut
Purpose: A loop that runs one program for each item, each at a place of its own, and stops at the
  first failure: which places it has reached, and exactly when it reaches every item that would
  succeed.
Trusted boundary: none
Main exports: onFirst, onSecond, finalState, forEach, run_forEach_cons, Succeeds,
  forEach_reached, forEach_unreached, forEach_reaches_iff
-/
import Rdma101.Lib.SectionLogic
import Mathlib.Logic.Function.Basic
import Mathlib.Data.List.Nodup

namespace FanOut

variable {Item Key Value σ τ ε α : Type}

/-- Run a program on the first component of a state. -/
def onFirst (program : EStateM ε σ α) : EStateM ε (σ × τ) α := fun state =>
  match program.run state.1 with
  | .ok value first => .ok value (first, state.2)
  | .error error first => .error error (first, state.2)

/-- Run a program on the second component of a state. -/
def onSecond (program : EStateM ε τ α) : EStateM ε (σ × τ) α := fun state =>
  match program.run state.2 with
  | .ok value second => .ok value (state.1, second)
  | .error error second => .error error (state.1, second)

/-- The state in which a program stops. -/
def finalState : EStateM.Result ε σ α → σ
  | .ok _ state => state
  | .error _ state => state

@[simp] theorem finalState_ok (value : α) (state : σ) :
    finalState (.ok value state : EStateM.Result ε σ α) = state := rfl

@[simp] theorem finalState_error (error : ε) (state : σ) :
    finalState (.error error state : EStateM.Result ε σ α) = state := rfl

@[simp] theorem run_onFirst (program : EStateM ε σ α) (state : σ × τ) :
    (onFirst program).run state =
      match program.run state.1 with
      | .ok value first => .ok value (first, state.2)
      | .error error first => .error error (first, state.2) := rfl

theorem run_onSecond (program : EStateM ε τ α) (state : σ × τ) :
    (onSecond program).run state =
      match program.run state.2 with
      | .ok value second => .ok value (state.1, second)
      | .error error second => .error error (state.1, second) := rfl

@[simp] theorem finalState_onSecond (program : EStateM ε τ α) (state : σ × τ) :
    finalState ((onSecond program).run state) = (state.1, finalState (program.run state.2)) := by
  rw [run_onSecond]
  cases program.run state.2 <;> rfl

/-- Whether a program returns normally. -/
def isOk : EStateM.Result ε σ α → Bool
  | .ok _ _ => true
  | .error _ _ => false

@[simp] theorem isOk_onSecond (program : EStateM ε τ α) (state : σ × τ) :
    isOk ((onSecond program).run state) = isOk (program.run state.2) := by
  rw [run_onSecond]
  cases program.run state.2 <;> rfl

variable [DecidableEq Key]

/-- Run a program of one place on the state of all places. -/
def atPlace (key : Key) (program : EStateM ε Value Unit) : EStateM ε (Key → Value) Unit :=
  fun state =>
    match program.run (state key) with
    | .ok _ value => .ok () (Function.update state key value)
    | .error error value => .error error (Function.update state key value)

/-- The loop over the items. -/
def forEach (place : Item → Key) (call : Item → EStateM ε Value Unit) (items : List Item) :
    EStateM ε (Key → Value) Unit :=
  items.forM fun item => atPlace (place item) (call item)

section Loop

variable (place : Item → Key) (call : Item → EStateM ε Value Unit)

/-- The call for the item returns normally at the value that its place has. -/
def Succeeds (state : Key → Value) (item : Item) : Prop :=
  isOk ((call item).run (state (place item))) = true

instance (state : Key → Value) (item : Item) : Decidable (Succeeds place call state item) :=
  inferInstanceAs (Decidable (_ = true))

variable {place call}

/-- The loop calls for its first item, and goes on only when that call returns. -/
theorem run_forEach_cons (item : Item) (rest : List Item) (state : Key → Value) :
    (forEach place call (item :: rest)).run state =
      match (call item).run (state (place item)) with
      | .ok _ value => (forEach place call rest).run (Function.update state (place item) value)
      | .error error value => .error error (Function.update state (place item) value) := by
  have first : (atPlace (place item) (call item)).run state =
      match (call item).run (state (place item)) with
      | .ok _ value => .ok () (Function.update state (place item) value)
      | .error error value => .error error (Function.update state (place item) value) := rfl
  cases run : (call item).run (state (place item)) <;> simp [forEach, first, run]

theorem forEach_cons_ok {item : Item} {rest : List Item} {state : Key → Value}
    (succeeds : Succeeds place call state item) :
    (forEach place call (item :: rest)).run state =
      (forEach place call rest).run
        (Function.update state (place item)
          (finalState ((call item).run (state (place item))))) := by
  unfold Succeeds at succeeds
  rw [run_forEach_cons]
  cases run : (call item).run (state (place item)) with
  | error error value =>
      rw [run] at succeeds
      cases succeeds
  | ok value final => rfl

theorem forEach_cons_error {item : Item} {rest : List Item} {state : Key → Value}
    (fails : ¬Succeeds place call state item) :
    finalState ((forEach place call (item :: rest)).run state) =
      Function.update state (place item) (finalState ((call item).run (state (place item)))) ∧
    isOk ((forEach place call (item :: rest)).run state) = false := by
  unfold Succeeds at fails
  rw [run_forEach_cons]
  cases run : (call item).run (state (place item)) with
  | ok value final =>
      rw [run] at fails
      exact absurd rfl fails
  | error error final => exact ⟨rfl, rfl⟩

/-- A place that no item of the list has keeps its value. -/
theorem forEach_elsewhere {items : List Item} {state : Key → Value} {key : Key}
    (elsewhere : ∀ item ∈ items, place item ≠ key) :
    finalState ((forEach place call items).run state) key = state key := by
  induction items generalizing state with
  | nil => rfl
  | cons item rest inductionHypothesis =>
      have here := elsewhere item (.head rest)
      by_cases succeeds : Succeeds place call state item
      · rw [forEach_cons_ok succeeds,
          inductionHypothesis fun other member => elsewhere other (.tail item member)]
        exact Function.update_of_ne here.symm _ _
      · rw [(forEach_cons_error succeeds).1]
        exact Function.update_of_ne here.symm _ _

/-- Whether another item succeeds does not depend on what a call does at its own place. -/
theorem succeeds_update {state : Key → Value} {item : Item} {key : Key} (value : Value)
    (elsewhere : place item ≠ key) :
    Succeeds place call (Function.update state key value) item ↔
      Succeeds place call state item := by
  rw [Succeeds, Succeeds, Function.update_of_ne elsewhere]

/-- The loop reaches an item when the calls before it succeed. -/
theorem forEach_reached {before rest : List Item} {item : Item} {state : Key → Value}
    (distinct : ((before ++ item :: rest).map place).Nodup)
    (succeed : ∀ earlier ∈ before, Succeeds place call state earlier) :
    finalState ((forEach place call (before ++ item :: rest)).run state) (place item) =
      finalState ((call item).run (state (place item))) := by
  induction before generalizing state with
  | nil =>
      rw [List.nil_append, List.map_cons, List.nodup_cons] at distinct
      have later : ∀ other ∈ rest, place other ≠ place item := fun other member same =>
        distinct.1 (same ▸ List.mem_map_of_mem member)
      by_cases succeeds : Succeeds place call state item
      · rw [List.nil_append, forEach_cons_ok succeeds, forEach_elsewhere later]
        exact Function.update_self _ _ _
      · rw [List.nil_append, (forEach_cons_error succeeds).1]
        exact Function.update_self _ _ _
  | cons first before inductionHypothesis =>
      rw [List.cons_append, List.map_cons, List.nodup_cons] at distinct
      have apart : ∀ other ∈ before ++ item :: rest, place other ≠ place first :=
        fun other member same => distinct.1 (same ▸ List.mem_map_of_mem member)
      have inside : item ∈ before ++ item :: rest := List.mem_append_right _ (.head rest)
      rw [List.cons_append, forEach_cons_ok (succeed first (.head before)),
        inductionHypothesis distinct.2, Function.update_of_ne (apart item inside)]
      intro earlier member
      rw [succeeds_update _ (apart earlier (List.mem_append_left _ member))]
      exact succeed earlier (.tail first member)

/-- The loop does not reach what comes after the first failure. -/
theorem forEach_unreached {before rest : List Item} {failing item : Item} {state : Key → Value}
    (distinct : ((before ++ failing :: rest).map place).Nodup)
    (succeed : ∀ earlier ∈ before, Succeeds place call state earlier)
    (fails : ¬Succeeds place call state failing) (later : item ∈ rest) :
    finalState ((forEach place call (before ++ failing :: rest)).run state) (place item) =
      state (place item) := by
  induction before generalizing state with
  | nil =>
      rw [List.nil_append, List.map_cons, List.nodup_cons] at distinct
      have apart : place item ≠ place failing := fun same =>
        distinct.1 (same ▸ List.mem_map_of_mem later)
      rw [List.nil_append, (forEach_cons_error fails).1]
      exact Function.update_of_ne apart _ _
  | cons first before inductionHypothesis =>
      rw [List.cons_append, List.map_cons, List.nodup_cons] at distinct
      have apart : ∀ other ∈ before ++ failing :: rest, place other ≠ place first :=
        fun other member same => distinct.1 (same ▸ List.mem_map_of_mem member)
      have inside : failing ∈ before ++ failing :: rest := List.mem_append_right _ (.head rest)
      have after : item ∈ before ++ failing :: rest :=
        List.mem_append_right _ (.tail failing later)
      rw [List.cons_append, forEach_cons_ok (succeed first (.head before)),
        inductionHypothesis distinct.2, Function.update_of_ne (apart item after)]
      · intro earlier member
        rw [succeeds_update _ (apart earlier (List.mem_append_left _ member))]
        exact succeed earlier (.tail first member)
      · rw [succeeds_update _ (apart failing inside)]
        exact fails

/-- A list has a first failure, or none. -/
theorem first_failure (good : Item → Prop) (items : List Item) :
    (∀ item ∈ items, good item) ∨ ∃ early failing late, items = early ++ failing :: late ∧
      (∀ item ∈ early, good item) ∧ ¬good failing := by
  induction items with
  | nil => exact .inl fun _ => nofun
  | cons first items inductionHypothesis =>
      by_cases isGood : good first
      · rcases inductionHypothesis with all | ⟨early, failing, late, rfl, all, fails⟩
        · exact .inl (List.forall_mem_cons.mpr ⟨isGood, all⟩)
        · exact .inr ⟨first :: early, failing, late, rfl,
            List.forall_mem_cons.mpr ⟨isGood, all⟩, fails⟩
      · exact .inr ⟨[], first, items, rfl, fun _ => nofun, isGood⟩

/-- A relation between earlier and later items, by the places of the earlier ones. -/
theorem pairwise_iff_split {related : Item → Item → Prop} {items : List Item} :
    items.Pairwise related ↔ ∀ before item rest, items = before ++ item :: rest →
      ∀ later ∈ rest, related item later := by
  constructor
  · rintro pairwise before item rest rfl later member
    exact (List.pairwise_cons.mp (List.pairwise_append.mp pairwise).2.1).1 later member
  · intro splits
    induction items with
    | nil => exact .nil
    | cons first items inductionHypothesis =>
        refine List.pairwise_cons.mpr ⟨splits [] first items rfl, inductionHypothesis ?_⟩
        rintro before item rest rfl
        exact splits (first :: before) item rest rfl

/-- The loop brings every item that would succeed to its goal exactly when those behind a failure
have reached it before. -/
theorem forEach_reaches_iff {goal : Item → Value → Prop} {items : List Item} {state : Key → Value}
    (distinct : (items.map place).Nodup)
    (achieves : ∀ item ∈ items, Succeeds place call state item →
      goal item (finalState ((call item).run (state (place item))))) :
    (∀ item ∈ items, Succeeds place call state item →
        goal item (finalState ((forEach place call items).run state) (place item))) ↔
      items.Pairwise fun failing item => ¬Succeeds place call state failing →
        Succeeds place call state item → goal item (state (place item)) := by
  rw [pairwise_iff_split]
  constructor
  · rintro reaches before failing rest rfl item later fails succeeds
    have member : item ∈ before ++ failing :: rest := List.mem_append_right _ (.tail failing later)
    have reached := reaches item member succeeds
    -- The loop stops at the first failure, which need not be this one.
    rcases first_failure (Succeeds place call state) before with
      all | ⟨early, first, late, rfl, all, firstFails⟩
    · rwa [forEach_unreached distinct all fails later] at reached
    · rw [List.append_assoc, List.cons_append] at distinct reached
      have behind : item ∈ late ++ failing :: rest := List.mem_append_right _ (.tail failing later)
      rwa [forEach_unreached distinct all firstFails behind] at reached
  · intro stale item member succeeds
    obtain ⟨before, rest, rfl⟩ := List.append_of_mem member
    rcases first_failure (Succeeds place call state) before with
      all | ⟨early, first, late, rfl, all, firstFails⟩
    · rw [forEach_reached distinct all]
      exact achieves item member succeeds
    · rw [List.append_assoc, List.cons_append] at distinct ⊢
      have behind : item ∈ late ++ item :: rest := List.mem_append_right _ (.head rest)
      rw [forEach_unreached distinct all firstFails behind]
      refine stale early first (late ++ item :: rest) ?_ item behind firstFails succeeds
      rw [List.append_assoc, List.cons_append]

end Loop

end FanOut
