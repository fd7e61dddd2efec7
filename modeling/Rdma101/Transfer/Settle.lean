/-
Module: Rdma101.Transfer.Settle
Purpose: What the blocking helpers do to a batch on every exit, for every number of tasks, every
  progress of the tasks between two polls, every clock and every timeout.
Trusted boundary: none
Main exports: Environment.Keeps, Waits, wait_settles, transfer_settles
-/
import Rdma101.Transfer.Wait
import Mathlib.Data.Nat.Basic

namespace Rdma101.Transfer

open Abi (Raised Request TransferStatus)

/-- A task that is terminal stays as it is. -/
def Progress (before after : TransferStatus) : Prop := before ≠ .pending → after = before

/-- The interference leaves the batch to its owner: its tasks make progress, nobody else releases
it and nobody closes the engine. -/
structure Environment.Keeps {τ : Type} (environment : Environment τ) (batch : Handle) : Prop where
  progress : ∀ (index : Nat) (native : Native) statuses,
    native.batches.get? batch = some statuses →
    ∃ later, (environment.interfere index native).batches.get? batch = some later ∧
      List.Forall₂ Progress statuses later
  released : ∀ (index : Nat) (native : Native),
    (environment.interfere index native).released.count batch = native.released.count batch
  isOpen : ∀ (index : Nat) (native : Native), native.closed = false →
    (environment.interfere index native).closed = false

/-- The engine is open and holds the batch with these tasks. -/
structure Native.Holds (native : Native) (batch : Handle) (statuses : List TransferStatus) :
    Prop where
  isOpen : native.closed = false
  held : native.batches.get? batch = some statuses

section Statuses

variable {statuses later : List TransferStatus}

theorem isPending_eq_false {status : TransferStatus} :
    isPending status = false ↔ status ≠ .pending := by
  cases status <;> simp [isPending]

theorem allTerminal_iff : allTerminal statuses = true ↔ .pending ∉ statuses := by
  constructor
  · intro terminal member
    have notPending := List.all_eq_true.mp terminal _ member
    simp [isPending] at notPending
  · intro absent
    apply List.all_eq_true.mpr
    intro status member
    rw [Bool.not_eq_true', isPending_eq_false]
    rintro rfl
    exact absent member

theorem Progress.refl (status : TransferStatus) : Progress status status := fun _ => rfl

/-- A terminal batch does not change any more. -/
theorem eq_of_allTerminal (terminal : allTerminal statuses = true)
    (progress : List.Forall₂ Progress statuses later) : later = statuses := by
  rw [allTerminal_iff] at terminal
  induction progress with
  | nil => rfl
  | cons head rest inductionHypothesis =>
      rw [List.mem_cons, not_or] at terminal
      rw [head (Ne.symm terminal.1), inductionHypothesis terminal.2]

/-- The task at `position` is the first one that failed. -/
structure FirstFailed (statuses : List TransferStatus) (position : Nat) (error : ErrorCode) :
    Prop where
  failed : statuses[position]? = some (.failed error)
  first : ∀ earlier < position, ∀ error', statuses[earlier]? ≠ some (.failed error')

/-- What the last loop of `transfer` raises: the error of the first failed task. -/
theorem run_raiseFailed (batch : Handle) (index : Nat) (statuses : List TransferStatus)
    (world : World) :
    ((∀ error, .failed error ∉ statuses) ∧
      (raiseFailed batch index statuses).run world = .ok () world) ∨
    ∃ position error, FirstFailed statuses position error ∧
      (raiseFailed batch index statuses).run world = .error (.raised
        (.engineError s!"batch {batch} task {index + position}" error)) world := by
  induction statuses generalizing index with
  | nil => exact .inl ⟨fun _ => List.not_mem_nil, rfl⟩
  | cons status rest inductionHypothesis =>
      have skipped : (∀ error, status ≠ .failed error) →
          (raiseFailed batch index (status :: rest)).run world =
            (raiseFailed batch (index + 1) rest).run world := by
        intro notFailed
        cases status with
        | pending | completed _ => rfl
        | failed error => exact absurd rfl (notFailed error)
      by_cases failed : ∃ error, status = .failed error
      · obtain ⟨error, rfl⟩ := failed
        have first : FirstFailed (.failed error :: rest) 0 error :=
          ⟨rfl, fun earlier before => absurd before (Nat.not_lt_zero earlier)⟩
        exact .inr ⟨0, error, first, rfl⟩
      · have notFailed : ∀ error, status ≠ .failed error := fun error same => failed ⟨error, same⟩
        rw [skipped notFailed]
        rcases inductionHypothesis (index + 1) with ⟨none, run⟩ | ⟨position, error, first, run⟩
        · refine .inl ⟨fun error member => ?_, run⟩
          rcases List.mem_cons.mp member with same | inRest
          · exact notFailed error same.symm
          · exact none error inRest
        · refine .inr ⟨position + 1, error, ⟨first.failed, ?_⟩, ?_⟩
          · intro earlier before error'
            cases earlier with
            | zero => simpa using notFailed error'
            | succ earlier => exact first.first earlier (Nat.lt_of_succ_lt_succ before) error'
          · rw [run, Nat.add_assoc, Nat.add_comm 1 position]

end Statuses

variable {τ : Type} (environment : Environment τ)

/-- The world after one section that changed nothing. -/
def Environment.next (world : World) : World :=
  { world with
    native := environment.interfere world.sections world.native
    sections := world.sections + 1 }

/-- The world after one poll and one clock reading. -/
def Environment.afterPoll (world : World) : World :=
  { environment.next world with readings := world.readings + 1 }

/-- The world before the poll with this number, when all polls before it ask for another one. -/
def Environment.atPoll (world : World) : Nat → World
  | 0 => world
  | polls + 1 => environment.afterPoll (atPoll world polls)

/-- The poll made in `world` finds these tasks. -/
def Environment.Sees (world : World) (batch : Handle) (statuses : List TransferStatus) : Prop :=
  (environment.next world).native.Holds batch statuses

/-- The world after the first clock reading of `wait`, which fixes the deadline. -/
def World.started (world : World) : World := { world with readings := world.readings + 1 }

section Observations

variable {environment} {batch : Handle} {world : World} {statuses : List TransferStatus}

theorem run_getTransferStatuses (sees : environment.Sees world batch statuses) :
    (getTransferStatuses environment batch).run world = .ok statuses (environment.next world) := by
  have isOpen := sees.isOpen
  have held := sees.held
  simp only [Environment.next] at isOpen held
  simp [getTransferStatuses, Environment.withStateLock, checkOpen, isOpen, held,
    Environment.next]

theorem run_freeBatch (sees : environment.Sees world batch statuses)
    (terminal : .pending ∉ statuses) :
    (freeBatch environment batch).run world = .ok () { environment.next world with
      native.batches := (environment.next world).native.batches.erase batch
      native.released := (environment.next world).native.released ++ [batch] } := by
  have isOpen := sees.isOpen
  have held := sees.held
  simp only [Environment.next] at isOpen held
  simp [freeBatch, Environment.withStateLock, checkOpen, isOpen, held, Environment.next,
    allTerminal_iff.mpr terminal]

/-- What a poll finds is what the world holds, moved on by the interference. -/
theorem Environment.Keeps.sees (keeps : environment.Keeps batch)
    (holds : world.native.Holds batch statuses) :
    ∃ later, environment.Sees world batch later ∧ List.Forall₂ Progress statuses later := by
  obtain ⟨later, held, progress⟩ := keeps.progress world.sections world.native statuses holds.held
  exact ⟨later, ⟨keeps.isOpen world.sections world.native holds.isOpen, held⟩, progress⟩

/-- Every poll finds the batch, and nobody releases it. -/
theorem Environment.Keeps.atPoll (keeps : environment.Keeps batch)
    (holds : world.native.Holds batch statuses) (polls : Nat) :
    (∃ later, (environment.atPoll world polls).native.Holds batch later) ∧
      (environment.atPoll world polls).native.released.count batch =
        world.native.released.count batch := by
  induction polls with
  | zero => exact ⟨⟨statuses, holds⟩, rfl⟩
  | succ polls inductionHypothesis =>
      obtain ⟨⟨later, held⟩, same⟩ := inductionHypothesis
      obtain ⟨final, sees, -⟩ := keeps.sees held
      exact ⟨⟨final, sees⟩, (keeps.released _ _).trans same⟩

theorem atPoll_afterPoll (polls : Nat) :
    environment.atPoll (environment.afterPoll world) polls =
      environment.atPoll world (polls + 1) := by
  induction polls with
  | zero => rfl
  | succ polls inductionHypothesis =>
      exact congrArg environment.afterPoll inductionHypothesis

/-- A batch that was submitted is held. -/
theorem holds_of_submitTransfer
    {requests : List Request} {start : World}
    (submitted : (submitTransfer environment requests).run start = .ok batch world) :
    (∃ initial, world.native.Holds batch initial) ∧
      world.native.released = (environment.interfere start.sections start.native).released := by
  simp only [submitTransfer, Environment.withStateLock, checkOpen, EStateM.run_bind,
    EStateM.run_modify, EStateM.run_get] at submitted
  cases isOpen : (environment.interfere start.sections start.native).closed with
  | true => simp [isOpen] at submitted
  | false =>
      rw [isOpen] at submitted
      simp only [Bool.false_eq_true, if_false, EStateM.run_pure] at submitted
      split at submitted
      · cases submitted
      · cases submitted
        exact ⟨⟨_, isOpen, OrderedDict.get?_set_self _ _ _⟩, rfl⟩

/-- The batch is gone, and was released once since `start`. -/
structure ReleasedOnce (batch : Handle) (start after : World) : Prop where
  gone : after.native.batches.get? batch = none
  once : after.native.released.count batch = start.native.released.count batch + 1

/-- The release of a terminal batch is accepted. -/
theorem freeBatch_releases (keeps : environment.Keeps batch)
    (holds : world.native.Holds batch statuses) (terminal : .pending ∉ statuses) :
    ∃ after, (freeBatch environment batch).run world = .ok () after ∧
      ReleasedOnce batch world after := by
  obtain ⟨later, sees, progress⟩ := keeps.sees holds
  obtain rfl : later = statuses := eq_of_allTerminal (allTerminal_iff.mpr terminal) progress
  refine ⟨_, run_freeBatch sees terminal, ?_, ?_⟩
  · simp
  · have same := keeps.released world.sections world.native
    simp [Environment.next, same]

end Observations

variable [LinearOrder τ]

/-- The poll made in `world` finds a pending task, before the deadline. -/
def Environment.Waits (batch : Handle) (deadline : τ) (world : World) : Prop :=
  ∃ statuses, environment.Sees world batch statuses ∧ .pending ∈ statuses ∧
    environment.monotonic world.readings < deadline

section Poll

variable {environment} {batch : Handle} {deadline : τ} {world : World}
  {statuses : List TransferStatus}

theorem poll_returns (sees : environment.Sees world batch statuses)
    (terminal : .pending ∉ statuses) :
    (poll environment batch deadline).run world = .ok (some statuses) (environment.next world) := by
  simp [poll, run_getTransferStatuses sees, allTerminal_iff.mpr terminal]

theorem poll_raises (sees : environment.Sees world batch statuses) (pending : .pending ∈ statuses)
    (reached : deadline ≤ environment.monotonic world.readings) :
    (poll environment batch deadline).run world =
      .error (.timeoutError (pendingMessage batch)) (environment.afterPoll world) := by
  have notTerminal : allTerminal statuses = false := by
    rw [Bool.eq_false_iff, Ne, allTerminal_iff, not_not]
    exact pending
  simp [poll, run_getTransferStatuses sees, notTerminal, Environment.readClock, reached,
    Environment.afterPoll, Environment.next]

theorem poll_again (waits : environment.Waits batch deadline world) :
    (poll environment batch deadline).run world = .ok none (environment.afterPoll world) := by
  obtain ⟨statuses, sees, pending, early⟩ := waits
  have notTerminal : allTerminal statuses = false := by
    rw [Bool.eq_false_iff, Ne, allTerminal_iff, not_not]
    exact pending
  simp [poll, run_getTransferStatuses sees, notTerminal, Environment.readClock, not_le.mpr early,
    Environment.afterPoll, Environment.next]

/-- The polls that ask for another one, up to a given one. -/
theorem rounds_of_waits {polls : Nat}
    (waits : ∀ earlier < polls,
      environment.Waits batch deadline (environment.atPoll world earlier)) :
    Rounds (poll environment batch deadline) polls world (environment.atPoll world polls) := by
  induction polls with
  | zero => exact .start world
  | succ polls inductionHypothesis =>
      have done := inductionHypothesis fun earlier before =>
        waits earlier (Nat.lt_succ_of_lt before)
      exact done.snoc (poll_again (waits polls (Nat.lt_succ_self polls)))

/-- Every poll of a batch that is kept returns, raises or asks for another one. -/
theorem poll_cases (deadline : τ) (sees : environment.Sees world batch statuses) :
    .pending ∉ statuses ∨
      (.pending ∈ statuses ∧ deadline ≤ environment.monotonic world.readings) ∨
      environment.Waits batch deadline world := by
  by_cases pending : .pending ∈ statuses
  · rcases le_or_gt deadline (environment.monotonic world.readings) with reached | early
    · exact .inr (.inl ⟨pending, reached⟩)
    · exact .inr (.inr ⟨statuses, sees, pending, early⟩)
  · exact .inl pending

/-- Only polls that find a pending task before the deadline ask for another one. -/
theorem waits_of_rounds (keeps : environment.Keeps batch)
    (holds : world.native.Holds batch statuses) {polls : Nat} {after : World}
    (done : Rounds (poll environment batch deadline) polls world after) :
    after = environment.atPoll world polls ∧
      ∀ earlier < polls, environment.Waits batch deadline (environment.atPoll world earlier) := by
  induction done generalizing statuses with
  | start world => exact ⟨rfl, fun earlier before => absurd before (Nat.not_lt_zero earlier)⟩
  | @again polls world middle after round rest inductionHypothesis =>
      obtain ⟨later, sees, -⟩ := keeps.sees holds
      rcases poll_cases deadline sees with terminal | ⟨pending, reached⟩ | waits
      · rw [poll_returns sees terminal] at round
        cases round
      · rw [poll_raises sees pending reached] at round
        cases round
      · rw [poll_again waits] at round
        cases round
        obtain ⟨same, others⟩ := inductionHypothesis sees
        rw [atPoll_afterPoll] at same
        refine ⟨same, fun earlier before => ?_⟩
        cases earlier with
        | zero => exact waits
        | succ earlier =>
            have early := others earlier (Nat.lt_of_succ_lt_succ before)
            rwa [atPoll_afterPoll] at early

end Poll

variable [Add τ]

/-- The deadline of a call of `wait` in `world`. -/
def Environment.deadline (world : World) (timeout : Option τ) : τ :=
  environment.monotonic world.readings + timeout.getD environment.timeout

section Wait

variable {environment} {batch : Handle} {world : World} {statuses : List TransferStatus}

theorem run_wait (fuel : Nat) (batch : Handle) (timeout : Option τ) (world : World) :
    (wait environment fuel batch timeout).run world =
      (repeatUntil .unfinished (poll environment batch (environment.deadline world timeout))
        fuel).run world.started := by
  simp [wait, Environment.readClock, Environment.deadline, World.started]

/-- `wait` asks for another poll this many times. -/
def Environment.WaitsFor (environment : Environment τ) (batch : Handle) (timeout : Option τ)
    (world : World) (polls : Nat) : Prop :=
  ∀ earlier < polls, environment.Waits batch (environment.deadline world timeout)
    (environment.atPoll world.started earlier)

/-- The first poll that finds every task terminal is the last one, whatever the clock shows. -/
theorem wait_returns {timeout : Option τ} {polls fuel : Nat}
    (waits : environment.WaitsFor batch timeout world polls)
    (sees : environment.Sees (environment.atPoll world.started polls) batch statuses)
    (terminal : .pending ∉ statuses) (enough : polls < fuel) :
    (wait environment fuel batch timeout).run world =
      .ok statuses (environment.next (environment.atPoll world.started polls)) := by
  rw [run_wait]
  exact (rounds_of_waits waits).run (.returns (poll_returns sees terminal)) enough

/-- The first poll that finds a pending task past the deadline is the last one. -/
theorem wait_raises {timeout : Option τ} {polls fuel : Nat}
    (waits : environment.WaitsFor batch timeout world polls)
    (sees : environment.Sees (environment.atPoll world.started polls) batch statuses)
    (pending : .pending ∈ statuses)
    (reached : environment.deadline world timeout ≤
      environment.monotonic (environment.atPoll world.started polls).readings)
    (enough : polls < fuel) :
    (wait environment fuel batch timeout).run world =
      .error (.timeoutError (pendingMessage batch))
        (environment.afterPoll (environment.atPoll world.started polls)) := by
  rw [run_wait]
  exact (rounds_of_waits waits).run (.raises (poll_raises sees pending reached)) enough

/-- The three ways in which a bounded run of `wait` can end. -/
theorem wait_cases (keeps : environment.Keeps batch) (holds : world.native.Holds batch statuses)
    (fuel : Nat) (timeout : Option τ) :
    (∃ polls later, polls < fuel ∧ environment.WaitsFor batch timeout world polls ∧
      environment.Sees (environment.atPoll world.started polls) batch later ∧
      .pending ∉ later ∧ (wait environment fuel batch timeout).run world =
        .ok later (environment.next (environment.atPoll world.started polls))) ∨
    (∃ polls later, polls < fuel ∧ environment.WaitsFor batch timeout world polls ∧
      environment.Sees (environment.atPoll world.started polls) batch later ∧
      .pending ∈ later ∧ environment.deadline world timeout ≤
        environment.monotonic (environment.atPoll world.started polls).readings ∧
      (wait environment fuel batch timeout).run world =
        .error (.timeoutError (pendingMessage batch))
          (environment.afterPoll (environment.atPoll world.started polls))) ∨
    (environment.WaitsFor batch timeout world fuel ∧
      (wait environment fuel batch timeout).run world =
        .error .unfinished (environment.atPoll world.started fuel)) := by
  have holds' : world.started.native.Holds batch statuses := holds
  rcases run_repeatUntil_cases .unfinished
      (poll environment batch (environment.deadline world timeout)) fuel world.started with
    ⟨polls, after, result, enough, done, last, -⟩ | ⟨after, done, run⟩
  · obtain ⟨rfl, waits⟩ := waits_of_rounds keeps holds' done
    obtain ⟨⟨held, holds⟩, -⟩ := keeps.atPoll holds' polls
    obtain ⟨later, sees, -⟩ := keeps.sees holds
    rcases poll_cases (environment.deadline world timeout) sees with
      terminal | ⟨pending, reached⟩ | another
    · exact .inl ⟨polls, later, enough, waits, sees, terminal,
        wait_returns waits sees terminal enough⟩
    · exact .inr (.inl ⟨polls, later, enough, waits, sees, pending, reached,
        wait_raises waits sees pending reached enough⟩)
    · cases last with
      | returns round | raises round =>
          rw [poll_again another] at round
          cases round
  · obtain ⟨rfl, waits⟩ := waits_of_rounds keeps holds' done
    exact .inr (.inr ⟨waits, (run_wait fuel batch timeout world).trans run⟩)

end Wait

section Transfer

variable {environment} {batch : Handle} {start world middle : World}
  {statuses : List TransferStatus} {requests : List Request} {fuel : Nat} {timeout : Option τ}

theorem run_transfer_error (submitted : (submitTransfer environment requests).run start =
    .ok batch world) {error : Abrupt}
    (waited : (wait environment fuel batch timeout).run world = .error error middle) :
    (transfer environment fuel requests timeout).run start = .error error middle := by
  simp [transfer, submitted, waited]

/-- After the wait, the batch is released and the first failed task is reported. -/
theorem run_transfer_ok (submitted : (submitTransfer environment requests).run start =
    .ok batch world)
    (waited : (wait environment fuel batch timeout).run world = .ok statuses middle)
    {after : World} (released : (freeBatch environment batch).run middle = .ok () after) :
    ((∀ error, TransferStatus.failed error ∉ statuses) ∧
      (transfer environment fuel requests timeout).run start = .ok statuses after) ∨
    ∃ position error, FirstFailed statuses position error ∧
      (transfer environment fuel requests timeout).run start = .error (.raised
        (.engineError s!"batch {batch} task {position}" error)) after := by
  rcases run_raiseFailed batch 0 statuses after with ⟨none, run⟩ | ⟨position, error, first, run⟩
  · exact .inl ⟨none, by simp [transfer, submitted, waited, released, run]⟩
  · rw [Nat.zero_add] at run
    refine .inr ⟨position, error, first, ?_⟩
    simp [transfer, submitted, waited, released, run]

/-- What `wait` returns and raises. -/
theorem wait_settles (keeps : environment.Keeps batch) {initial : List TransferStatus}
    (holds : world.native.Holds batch initial) (fuel : Nat) (timeout : Option τ) :
    (∀ statuses after,
      (wait environment fuel batch timeout).run world = .ok statuses after →
      .pending ∉ statuses ∧ after.native.Holds batch statuses ∧
        after.native.released.count batch = world.native.released.count batch) ∧
    (∀ error after,
      (wait environment fuel batch timeout).run world = .error error after →
      error ≠ .unfinished →
      ∃ polls statuses, after = environment.afterPoll (environment.atPoll world.started polls) ∧
        error = .timeoutError (pendingMessage batch) ∧
        after.native.Holds batch statuses ∧ .pending ∈ statuses ∧
        environment.deadline world timeout ≤ environment.monotonic (after.readings - 1) ∧
        after.native.released.count batch = world.native.released.count batch) ∧
    ∀ after, (wait environment fuel batch timeout).run world = .error .unfinished after →
      environment.WaitsFor batch timeout world fuel := by
  have holds' : world.started.native.Holds batch initial := holds
  have kept : ∀ polls,
      (environment.next (environment.atPoll world.started polls)).native.released.count batch =
        world.native.released.count batch := fun polls =>
    (keeps.released _ _).trans (keeps.atPoll holds' polls).2
  rcases wait_cases keeps holds fuel timeout with
    ⟨polls, later, -, -, sees, terminal, run⟩ |
    ⟨polls, later, -, -, sees, pending, reached, run⟩ | ⟨waits, run⟩
  · rw [run]
    refine ⟨?_, fun _ _ same => (nomatch same), fun _ same => (nomatch same)⟩
    rintro statuses after ⟨⟩
    exact ⟨terminal, sees, kept polls⟩
  · rw [run]
    refine ⟨fun _ _ same => (nomatch same), ?_, fun _ same => (nomatch same)⟩
    rintro error after ⟨⟩ -
    exact ⟨polls, later, rfl, rfl, sees, pending, reached, kept polls⟩
  · rw [run]
    refine ⟨fun _ _ same => (nomatch same), ?_, fun _ _ => waits⟩
    rintro error after ⟨⟩ finished
    exact absurd rfl finished

/-- What `transfer` returns and raises, when the wait ends. -/
theorem transfer_settles (keeps : environment.Keeps batch)
    (submitted : (submitTransfer environment requests).run start = .ok batch world) (fuel : Nat)
    (timeout : Option τ) :
    (∀ statuses middle,
      (wait environment fuel batch timeout).run world = .ok statuses middle →
      ∃ after, ReleasedOnce batch start after ∧
        (((∀ status ∈ statuses, ∃ receive, status = .completed receive) ∧
          (transfer environment fuel requests timeout).run start = .ok statuses after) ∨
        ∃ position code, FirstFailed statuses position code ∧
          (transfer environment fuel requests timeout).run start = .error (.raised
            (.engineError s!"batch {batch} task {position}" code)) after)) ∧
    ∀ error after,
      (wait environment fuel batch timeout).run world = .error error after →
      (transfer environment fuel requests timeout).run start = .error error after := by
  obtain ⟨⟨initial, holds⟩, same⟩ := holds_of_submitTransfer submitted
  have sameCount : world.native.released.count batch = start.native.released.count batch := by
    rw [same]
    exact keeps.released start.sections start.native
  refine ⟨fun statuses middle waited => ?_, fun error after waited =>
    run_transfer_error submitted waited⟩
  obtain ⟨terminal, held, count⟩ := (wait_settles keeps holds fuel timeout).1 statuses middle waited
  obtain ⟨after, released, once⟩ := freeBatch_releases keeps held terminal
  refine ⟨after, ⟨once.gone, by rw [once.once, count, sameCount]⟩, ?_⟩
  rcases run_transfer_ok submitted waited released with ⟨none, run⟩ | failed
  · refine .inl ⟨fun status member => ?_, run⟩
    cases status with
    | pending => exact absurd member terminal
    | completed receive => exact ⟨receive, rfl⟩
    | failed error => exact absurd member (none error)
  · exact .inr failed

/-- A list with a failed task is not a list of completed ones. -/
theorem FirstFailed.not_completed {position : Nat} {code : ErrorCode}
    (failed : FirstFailed statuses position code) :
    ¬∀ status ∈ statuses, ∃ receive, status = .completed receive := by
  intro completed
  obtain ⟨receive, same⟩ := completed _ (List.mem_of_getElem? failed.failed)
  cases same

end Transfer

/-- The blocking helpers, for every batch that the interference leaves to its owner.  `wait`
returns no pending task, raises only when its latest query found one and the deadline had been
reached, and returns at the first poll that finds all tasks terminal, whatever the clock shows;
when it raises, the engine is as the interference alone has left it.  `transfer` returns if all
tasks completed and raises the error of the first failed one otherwise, after one release; on a
timeout nothing was released. -/
theorem wait_and_transfer_settle (environment : Environment τ) (batch : Handle)
    (keeps : environment.Keeps batch) (fuel : Nat) (timeout : Option τ) (world : World) :
    (∀ initial, world.native.Holds batch initial →
      (∀ statuses after,
        (wait environment fuel batch timeout).run world = .ok statuses after →
        .pending ∉ statuses ∧ after.native.Holds batch statuses ∧
          after.native.released.count batch = world.native.released.count batch) ∧
      (∀ error after,
        (wait environment fuel batch timeout).run world = .error error after →
        error ≠ .unfinished →
        ∃ polls statuses, after = environment.afterPoll (environment.atPoll world.started polls) ∧
          error = .timeoutError (pendingMessage batch) ∧
          after.native.Holds batch statuses ∧ .pending ∈ statuses ∧
          environment.deadline world timeout ≤ environment.monotonic (after.readings - 1) ∧
          after.native.released.count batch = world.native.released.count batch) ∧
      (∀ polls statuses, polls < fuel → environment.WaitsFor batch timeout world polls →
        environment.Sees (environment.atPoll world.started polls) batch statuses →
        .pending ∉ statuses →
        (wait environment fuel batch timeout).run world =
          .ok statuses (environment.next (environment.atPoll world.started polls))) ∧
      ∀ after, (wait environment fuel batch timeout).run world = .error .unfinished after →
        environment.WaitsFor batch timeout world fuel) ∧
    ∀ requests start, (submitTransfer environment requests).run start = .ok batch world →
      (∀ statuses middle,
        (wait environment fuel batch timeout).run world = .ok statuses middle →
        ((∃ after, (transfer environment fuel requests timeout).run start = .ok statuses after) ↔
          ∀ status ∈ statuses, ∃ receive, status = .completed receive) ∧
        ((∃ error after,
          (transfer environment fuel requests timeout).run start = .error error after) ↔
          ∃ code, .failed code ∈ statuses)) ∧
      (∀ statuses after,
        (transfer environment fuel requests timeout).run start = .ok statuses after →
        (∀ status ∈ statuses, ∃ receive, status = .completed receive) ∧
          ReleasedOnce batch start after) ∧
      ∀ error after,
        (transfer environment fuel requests timeout).run start = .error error after →
        error ≠ .unfinished →
        (∃ statuses middle position code,
          (wait environment fuel batch timeout).run world = .ok statuses middle ∧
          FirstFailed statuses position code ∧
          error = .raised (.engineError s!"batch {batch} task {position}" code) ∧
          ReleasedOnce batch start after) ∨
        ((wait environment fuel batch timeout).run world = .error error after ∧
          error = .timeoutError (pendingMessage batch) ∧
          after.native.released.count batch = start.native.released.count batch) := by
  refine ⟨fun initial holds => ?_, fun requests start submitted => ?_⟩
  · obtain ⟨returns, raises, unfinished⟩ := wait_settles keeps holds fuel timeout
    exact ⟨returns, raises, fun polls statuses enough waits sees terminal =>
      wait_returns waits sees terminal enough, unfinished⟩
  · obtain ⟨⟨initial, holds⟩, same⟩ := holds_of_submitTransfer submitted
    obtain ⟨settled, raised⟩ := transfer_settles keeps submitted fuel timeout
    refine ⟨fun statuses middle waited => ?_, fun statuses after run => ?_,
      fun error after run finished => ?_⟩
    · obtain ⟨after, -, ⟨completed, run⟩ | ⟨position, code, failed, run⟩⟩ :=
        settled statuses middle waited
      · rw [run]
        refine ⟨⟨fun _ => completed, fun _ => ⟨after, rfl⟩⟩, fun ⟨_, _, same⟩ => (nomatch same),
          fun ⟨code, member⟩ => ?_⟩
        obtain ⟨receive, same⟩ := completed _ member
        cases same
      · rw [run]
        exact ⟨⟨fun ⟨_, same⟩ => (nomatch same),
          fun completed => absurd completed failed.not_completed⟩,
          fun _ => ⟨code, List.mem_of_getElem? failed.failed⟩, fun _ => ⟨_, after, rfl⟩⟩
    · cases waited : (wait environment fuel batch timeout).run world with
      | error error middle =>
          rw [raised error middle waited] at run
          cases run
      | ok found middle =>
          obtain ⟨final, once, ⟨completed, run'⟩ | ⟨position, code, -, run'⟩⟩ :=
            settled found middle waited
          · rw [run'] at run
            cases run
            exact ⟨completed, once⟩
          · rw [run'] at run
            cases run
    · cases waited : (wait environment fuel batch timeout).run world with
      | error error' middle =>
          rw [raised error' middle waited] at run
          cases run
          obtain ⟨polls, statuses, -, timedOut, -, -, -, kept⟩ :=
            (wait_settles keeps holds fuel timeout).2.1 error after waited finished
          refine .inr ⟨rfl, timedOut, kept.trans ?_⟩
          rw [same]
          exact keeps.released start.sections start.native
      | ok found middle =>
          obtain ⟨final, once, ⟨completed, run'⟩ | ⟨position, code, failed, run'⟩⟩ :=
            settled found middle waited
          · rw [run'] at run
            cases run
          · rw [run'] at run
            cases run
            exact .inl ⟨found, middle, position, code, rfl, failed, rfl, once⟩

/-! ### A batch of two tasks that one poll finds half done -/

/-- A pending task fails. -/
def fail : TransferStatus → TransferStatus
  | .pending => .failed .ioError
  | .completed receive => .completed receive
  | .failed error => .failed error

/-- Batch 7 starts with one task done; the other one fails after the first poll. -/
def sampleEnvironment : Environment Nat where
  timeout := 10
  interfere index native :=
    if index < 2 then native
    else { native with batches :=
      native.batches.set 7 (((native.batches.get? 7).getD []).map fail) }
  monotonic reading := reading
  submission _ _ := .ok (7, [.completed none, .pending])

def sampleStart : World := ⟨⟨∅, [], false⟩, 0, 0⟩

/-- The world after the submission. -/
def sampleSubmitted : World :=
  ⟨⟨OrderedDict.set ∅ 7 [.completed none, .pending], [], false⟩, 1, 0⟩

theorem sampleEnvironment_keeps : sampleEnvironment.Keeps 7 where
  progress index native statuses held := by
    by_cases early : index < 2
    · refine ⟨statuses, by simp only [sampleEnvironment, if_pos early, held], ?_⟩
      exact List.forall₂_same.mpr fun status _ => Progress.refl status
    · refine ⟨statuses.map fail, ?_, ?_⟩
      · simp only [sampleEnvironment, if_neg early, held, Option.getD_some]
        exact OrderedDict.get?_set_self _ _ _
      · refine List.forall₂_map_right_iff.mpr (List.forall₂_same.mpr fun status _ terminal => ?_)
        cases status with
        | pending => exact absurd rfl terminal
        | completed _ | failed _ => rfl
  released index native := by
    by_cases early : index < 2
    · simp only [sampleEnvironment, if_pos early]
    · simp only [sampleEnvironment, if_neg early]
  isOpen index native isOpen := by
    by_cases early : index < 2
    · simpa only [sampleEnvironment, if_pos early] using isOpen
    · simpa only [sampleEnvironment, if_neg early] using isOpen

/-- The failed task is reported after the release. -/
theorem wait_and_transfer_settle_sample : ∃ error after,
    (transfer sampleEnvironment 3 [] (some 5)).run sampleStart = .error error after ∧
      ReleasedOnce 7 sampleStart after := by
  have settles := wait_and_transfer_settle sampleEnvironment 7 sampleEnvironment_keeps 3 (some 5)
    sampleSubmitted
  have submitted : (submitTransfer sampleEnvironment []).run sampleStart = .ok 7 sampleSubmitted :=
    rfl
  have run : ∃ after, (transfer sampleEnvironment 3 [] (some 5)).run sampleStart =
      .error (.raised (.engineError "batch 7 task 1" .ioError)) after := ⟨_, rfl⟩
  obtain ⟨after, run⟩ := run
  rcases (settles.2 [] sampleStart submitted).2.2 _ after run (by decide) with
    ⟨_, _, _, _, -, -, -, once⟩ | ⟨-, timedOut, -⟩
  · exact ⟨_, after, run, once⟩
  · cases timedOut

end Rdma101.Transfer
