/-
Module: Rdma101.Lib.RepeatUntil
Purpose: `while True` loops in state-and-exception code.  A round of the loop either asks for
  another round, returns a value or raises; the number of rounds is bounded by a fuel argument,
  and every run is the rounds that asked for another one followed by the round that did not.
Trusted boundary: none
Main exports: repeatUntil, Rounds, Rounds.run, run_repeatUntil_cases
-/
import Rdma101.Lib.SectionLogic

variable {σ ε α : Type}

/-- The loop: rounds of `body` until one returns a value, and `unfinished` when the fuel runs
out. -/
def repeatUntil (unfinished : ε) (body : EStateM ε σ (Option α)) : Nat → EStateM ε σ α
  | 0 => throw unfinished
  | fuel + 1 => do
      match ← body with
      | some value => return value
      | none => repeatUntil unfinished body fuel

/-- From `before`, this many rounds each asked for another one and led to `after`. -/
inductive Rounds (body : EStateM ε σ (Option α)) : Nat → σ → σ → Prop where
  | start (state : σ) : Rounds body 0 state state
  | again {rounds : Nat} {before middle after : σ} (round : body.run before = .ok none middle)
      (rest : Rounds body rounds middle after) : Rounds body (rounds + 1) before after

/-- How a round that does not ask for another one ends the loop. -/
inductive LastRound (body : EStateM ε σ (Option α)) (before : σ) :
    EStateM.Result ε σ α → Prop where
  | returns {value : α} {after : σ} (round : body.run before = .ok (some value) after) :
      LastRound body before (.ok value after)
  | raises {error : ε} {after : σ} (round : body.run before = .error error after) :
      LastRound body before (.error error after)

variable {unfinished : ε} {body : EStateM ε σ (Option α)} {before after : σ}

theorem run_repeatUntil_again {fuel : Nat} {middle : σ}
    (round : body.run before = .ok none middle) :
    (repeatUntil unfinished body (fuel + 1)).run before =
      (repeatUntil unfinished body fuel).run middle := by
  simp only [repeatUntil, EStateM.run_bind, round]

theorem LastRound.run {result : EStateM.Result ε σ α} (ends : LastRound body before result)
    {fuel : Nat} :
    (repeatUntil unfinished body (fuel + 1)).run before = result := by
  cases ends with
  | returns round =>
      simp only [repeatUntil, EStateM.run_bind, round]
      rfl
  | raises round => simp only [repeatUntil, EStateM.run_bind, round]

/-- The rounds that asked for another one do not show in the result. -/
theorem Rounds.run {rounds : Nat} (done : Rounds body rounds before after)
    {result : EStateM.Result ε σ α} (ends : LastRound body after result) {fuel : Nat}
    (enough : rounds < fuel) : (repeatUntil unfinished body fuel).run before = result := by
  induction done generalizing fuel with
  | start state =>
      obtain ⟨left, rfl⟩ := Nat.exists_eq_succ_of_ne_zero (Nat.ne_of_gt enough)
      exact ends.run
  | again round rest inductionHypothesis =>
      obtain ⟨left, rfl⟩ := Nat.exists_eq_succ_of_ne_zero (Nat.ne_of_gt (Nat.zero_lt_of_lt enough))
      rw [run_repeatUntil_again round]
      exact inductionHypothesis ends (Nat.lt_of_succ_lt_succ enough)

/-- The rounds of a loop: there is another one, or one that does not ask for another one. -/
theorem Rounds.snoc {rounds : Nat} {last : σ} (done : Rounds body rounds before after)
    (round : body.run after = .ok none last) : Rounds body (rounds + 1) before last := by
  induction done with
  | start state => exact .again round (.start last)
  | again first rest inductionHypothesis => exact .again first (inductionHypothesis round)

/-- Every run of the loop: the rounds that asked for another one, and then the end of the loop or
of the fuel. -/
theorem run_repeatUntil_cases (unfinished : ε) (body : EStateM ε σ (Option α)) (fuel : Nat)
    (before : σ) :
    (∃ rounds after result, rounds < fuel ∧ Rounds body rounds before after ∧
      LastRound body after result ∧ (repeatUntil unfinished body fuel).run before = result) ∨
    ∃ after, Rounds body fuel before after ∧
      (repeatUntil unfinished body fuel).run before = .error unfinished after := by
  induction fuel generalizing before with
  | zero => exact .inr ⟨before, .start before, rfl⟩
  | succ fuel inductionHypothesis =>
      cases round : body.run before with
      | error error after =>
          have ends : LastRound body before (.error error after) := .raises round
          exact .inl ⟨0, before, _, Nat.succ_pos fuel, .start before, ends, ends.run⟩
      | ok answer middle =>
          cases answer with
          | some value =>
              have ends : LastRound body before (.ok value middle) := .returns round
              exact .inl ⟨0, before, _, Nat.succ_pos fuel, .start before, ends, ends.run⟩
          | none =>
              rw [run_repeatUntil_again round]
              rcases inductionHypothesis middle with
                ⟨rounds, after, result, fewer, done, ends, run⟩ | ⟨after, done, run⟩
              · exact .inl ⟨rounds + 1, after, result, Nat.succ_lt_succ fewer, .again round done,
                  ends, run⟩
              · exact .inr ⟨after, .again round done, run⟩
