/-
Module: Rdma101.Lib.WaitsFor
Purpose: Waits-for relations that go down in a rank: they have no cycle, and when everyone who is
  unfinished and cannot step waits for someone unfinished, someone can step.
Trusted boundary: none
Main exports: acyclic_of_rank, exists_enabled
-/
import Mathlib.Logic.Relation

namespace WaitsFor

variable {Party : Type*} {waits : Party → Party → Prop} {rank : Party → Nat}

theorem rank_lt_of_transGen (descends : ∀ party other, waits party other → rank other < rank party)
    {party other : Party} (path : Relation.TransGen waits party other) :
    rank other < rank party := by
  induction path with
  | single edge => exact descends _ _ edge
  | tail _ edge inductionHypothesis => exact Nat.lt_trans (descends _ _ edge) inductionHypothesis

/-- Nobody waits for itself through others. -/
theorem acyclic_of_rank (descends : ∀ party other, waits party other → rank other < rank party)
    (party : Party) : ¬Relation.TransGen waits party party :=
  fun cycle => Nat.lt_irrefl _ (rank_lt_of_transGen descends cycle)

/-- From any unfinished party, the parties that it waits for lead to one that can step. -/
theorem exists_enabled {unfinished enabled : Party → Prop}
    (descends : ∀ party other, waits party other → rank other < rank party)
    (blocked : ∀ party, unfinished party →
      enabled party ∨ ∃ other, unfinished other ∧ waits party other)
    {party : Party} (started : unfinished party) : ∃ other, enabled other := by
  induction measure : rank party using Nat.strongRecOn generalizing party with
  | ind bound inductionHypothesis =>
      rcases blocked party started with isEnabled | ⟨other, unfinishedOther, edge⟩
      · exact ⟨party, isEnabled⟩
      · exact inductionHypothesis _ (measure ▸ descends _ _ edge) unfinishedOther rfl

end WaitsFor
