/-
Module: Rdma101.VerbsProbe.Measurement
Purpose: The verdict of a measurement.  The tests judge a workload by the write counters alone; over
  the trace of the measurement, the verdict asks exactly for accepted and covered WRITEs, for WRITEs
  in flight together, for chained posts, wide polls and selective signaling.
Trusted boundary: human-reviewed translation of VerbsProbe.assert_writes_completed
  (tests/verbs_probe.py)
Main exports: assertWritesCompleted, Measurement, measurementSystem, Measured, measurement_verdict
-/
import Rdma101.VerbsProbe.Evidence

namespace Rdma101.VerbsProbe

/-! ### The verdict of the tests

The assertions in their order, each with the counters that its message shows. -/

/-- An `AssertionError`: its text up to the counters, and the counters. -/
structure AssertionFailure where
  message : String
  stats : WriteStats
deriving DecidableEq

def WriteStats.expect (stats : WriteStats) (holds : Bool) (message : String) :
    Except AssertionFailure Unit :=
  if holds then .ok () else .error ⟨message, stats⟩

/-- `VerbsProbe.assert_writes_completed`, for the counters that it reads. -/
def assertWritesCompleted (minimumWrs : Nat) (concurrent batching : Bool) (stats : WriteStats) :
    Except AssertionFailure WriteStats := do
  stats.expect (stats.untrackedWrites = 0) "WRITE QP creation was not observed"
  stats.expect (stats.postErrors = 0) "post_send failed"
  stats.expect (stats.completionErrors = 0) "failed or unaccounted WRITE completion"
  stats.expect (stats.capacityErrors = 0) "unretired WRs exceeded QP capacity"
  stats.expect (minimumWrs ≤ stats.posted) "missing WRITE posts"
  stats.expect (stats.completed = stats.posted ∧ stats.inFlight = 0)
    "tasks completed without completion evidence for every WR"
  if concurrent then
    stats.expect (2 ≤ stats.peakInFlight) "no concurrent WRs"
  if batching then
    stats.expect (2 ≤ stats.postBatch) "no chained WR submission"
    stats.expect (2 ≤ stats.pollEntries) "CQ polling accepts only one WC"
    stats.expect (0 < stats.cqes ∧ stats.cqes < stats.posted) "no selective signaling"
  return stats

/-! ### The trace of a measurement

What the verdict is meant to say, in terms of the trace: which sections ran, and what the
histories were at that moment.  Nothing here reads a counter. -/

/-- A section of the measurement, with the world that it found. -/
structure Moment where
  world : EvidenceWorld
  event : Event
deriving DecidableEq

/-- The measurement up to now; the latest section is the first of `moments`. -/
structure Measurement where
  world : EvidenceWorld
  moments : List Moment := []
deriving DecidableEq

def measurementSystem : LabelledSystem Measurement Event where
  Initial run := evidenceSystem.Initial run.world ∧ run.moments = []
  step run event :=
    (evidenceSystem.step run.world event).map fun world =>
      ⟨world, ⟨run.world, event⟩ :: run.moments⟩

def HonestSection (run : Measurement) (event : Event) : Prop := Honest run.world event

instance (run : Measurement) (event : Event) : Decidable (HonestSection run event) :=
  inferInstanceAs (Decidable (Honest run.world event))

/-- The WRITEs that some delivered completion covers. -/
def coveredWrites (histories : List History) : Nat :=
  (histories.map fun history => writeCount history.covered).sum

/-- The accepted WRITEs that no delivered completion covers. -/
def uncoveredWrites (histories : List History) : Nat :=
  (histories.map fun history => writeCount history.uncovered).sum

/-- For each completion in turn, how many WRITEs it is the first to cover. -/
def newlyCovered (cq : Cq) : List History → List WorkCompletion → List Nat
  | _, [] => []
  | histories, completion :: rest =>
      let after := deliverCompletion cq histories completion
      (coveredWrites after - coveredWrites histories) :: newlyCovered cq after rest

namespace Moment

/-- The WRITEs of one post that the provider accepts. -/
def acceptedWrites (moment : Moment) : Nat :=
  match moment.event with
  | .postSend _ qp wrs result bad =>
      if qp.qpType = .rc then writeCount (acceptedWrs wrs result bad) else 0
  | _ => 0

/-- The post fails and the request that `bad_wr` names is a WRITE.  What came after it in the chain
was never looked at and does not count as refused. -/
def refusesWrite (moment : Moment) : Bool :=
  match moment.event with
  | .postSend _ qp wrs result bad =>
      result ≠ 0 ∧ qp.qpType = .rc ∧
        ∃ request ∈ bad.bind fun index => wrs[index]?, request.opcode = .rdmaWrite
  | _ => false

/-- The entries that a poll makes room for, while a WRITE is in flight and nothing is held. -/
def offeredEntries (moment : Moment) : Nat :=
  match moment.event with
  | .pollCq _ _ count _ =>
      if moment.world.probe.pauseCompletions = false ∧ 0 < uncoveredWrites moment.world.live then
        count.toNat
      else 0
  | _ => 0

/-- What the completions of a poll newly cover. -/
def gains (moment : Moment) : List Nat :=
  match moment.event with
  | .pollCq _ cq _ polled =>
      if moment.world.probe.pauseCompletions then []
      else newlyCovered cq moment.world.live (polled.getD [])
  | _ => []

end Moment

namespace Measurement

/-- Every world of the measurement, the present one first. -/
def worlds (run : Measurement) : List EvidenceWorld :=
  run.world :: run.moments.map Moment.world

/-- The newly covered WRITEs of every completion that was delivered. -/
def gains (run : Measurement) : List Nat := run.moments.flatMap Moment.gains

end Measurement

/-- The largest of some numbers. -/
def largest (values : List Nat) : Nat := values.foldr max 0

/-- The counters of the probe say what happened in the trace. -/
structure Measured (run : Measurement) : Prop where
  untracked : run.world.probe.writes.untrackedWrites = 0
  postErrors : run.world.probe.writes.postErrors = run.moments.countP Moment.refusesWrite
  peak : run.world.probe.writes.peakInFlight =
    largest (run.worlds.map fun world => uncoveredWrites world.live)
  postBatch : run.world.probe.writes.postBatch = largest (run.moments.map Moment.acceptedWrites)
  pollEntries : run.world.probe.writes.pollEntries =
    largest (run.moments.map Moment.offeredEntries)
  completed : run.world.probe.writes.completed = run.gains.sum
  cqes : run.world.probe.writes.cqes = run.gains.countP (0 < ·)

/-! ### Numbers in a list -/

/-- A maximum is at least two when something is. -/
theorem two_le_largest {α : Type} {measure : α → Nat} {items : List α} :
    2 ≤ largest (items.map measure) ↔ ∃ item ∈ items, 2 ≤ measure item := by
  induction items with
  | nil => simp [largest]
  | cons first rest inductionHypothesis =>
      have either : 2 ≤ largest ((first :: rest).map measure) ↔
          2 ≤ measure first ∨ 2 ≤ largest (rest.map measure) := by
        simp only [largest, List.map_cons, List.foldr_cons]
        omega
      rw [either, inductionHypothesis, List.exists_mem_cons_iff]

/-- There are no more positive numbers than their sum. -/
theorem countP_pos_le_sum (values : List Nat) : values.countP (0 < ·) ≤ values.sum := by
  induction values with
  | nil => exact Nat.le_refl 0
  | cons first rest inductionHypothesis =>
      rw [List.countP_cons, List.sum_cons]
      split
      · rename_i positive
        have positive' : 0 < first := of_decide_eq_true positive
        omega
      · omega

/-- Fewer numbers than their sum: one of them is at least two. -/
theorem countP_pos_lt_sum {values : List Nat} :
    values.countP (0 < ·) < values.sum ↔ ∃ value ∈ values, 2 ≤ value := by
  induction values with
  | nil => simp
  | cons first rest inductionHypothesis =>
      have below := countP_pos_le_sum rest
      rw [List.countP_cons, List.sum_cons, List.exists_mem_cons_iff, ← inductionHypothesis]
      split
      · rename_i positive
        have positive' : 0 < first := of_decide_eq_true positive
        omega
      · rename_i notPositive
        have zero : first = 0 := by simpa using notPositive
        omega

/-! ### The histories

A delivered completion moves WRITEs from the uncovered to the covered ones; all other sections
keep them, except for posts and destructions. -/

theorem coveredWrites_cons (history : History) (histories : List History) :
    coveredWrites (history :: histories) =
      writeCount history.covered + coveredWrites histories := List.sum_cons

theorem uncoveredWrites_cons (history : History) (histories : List History) :
    uncoveredWrites (history :: histories) =
      writeCount history.uncovered + uncoveredWrites histories := List.sum_cons

/-- The WRITEs in flight that the records of the probe count are the uncovered ones. -/
theorem outstanding_eq_uncoveredWrites {states : List QpState} {histories : List History}
    (mirrors : List.Forall₂ Mirrors states histories) :
    outstanding states = uncoveredWrites histories := by
  induction mirrors with
  | nil => rfl
  | @cons state history states histories mirror rest inductionHypothesis =>
      have own := history.writeCount_covered
      have posted := mirror.posted
      have completed := mirror.completed
      rw [outstanding_cons, uncoveredWrites_cons, inductionHypothesis]
      omega

/-- Records and histories are about the same queue pairs. -/
theorem map_qp_eq {states : List QpState} {histories : List History}
    (mirrors : List.Forall₂ Mirrors states histories) :
    states.map QpState.qp = histories.map History.qp := by
  induction mirrors with
  | nil => rfl
  | cons mirror _ inductionHypothesis =>
      rw [List.map_cons, List.map_cons, mirror.qp, inductionHypothesis]

/-- A delivered completion moves WRITEs from the uncovered ones to the covered ones. -/
theorem sums_modifyFirst_deliver (found : History → Bool) (histories : List History) :
    let after := modifyFirst found History.deliver histories
    coveredWrites histories ≤ coveredWrites after ∧
      coveredWrites after + uncoveredWrites after =
        coveredWrites histories + uncoveredWrites histories := by
  induction histories with
  | nil => exact ⟨Nat.le_refl _, rfl⟩
  | cons history rest inductionHypothesis =>
      have own := history.writeCount_covered
      have delivered : writeCount history.deliver.covered + writeCount history.deliver.uncovered =
          writeCount history.accepted := history.deliver.writeCount_covered
      have more := history.writeCount_covered_deliver
      obtain ⟨grows, same⟩ := inductionHypothesis
      simp only [modifyFirst]
      split <;> simp only [coveredWrites_cons, uncoveredWrites_cons] <;> omega

/-- No completion uncovers a WRITE, and none adds one. -/
theorem sums_deliverCompletion (cq : Cq) (histories : List History) (completion : WorkCompletion) :
    let after := deliverCompletion cq histories completion
    coveredWrites histories ≤ coveredWrites after ∧
      coveredWrites after + uncoveredWrites after =
        coveredWrites histories + uncoveredWrites histories := by
  simp only [deliverCompletion]
  split
  · exact ⟨Nat.le_refl _, rfl⟩
  · split
    · exact sums_modifyFirst_deliver _ histories
    · exact ⟨Nat.le_refl _, rfl⟩

/-- Completions leave at most as many WRITEs uncovered. -/
theorem uncoveredWrites_deliverAll (cq : Cq) (completions : List WorkCompletion)
    (histories : List History) :
    uncoveredWrites (completions.foldl (deliverCompletion cq) histories) ≤
      uncoveredWrites histories := by
  induction completions generalizing histories with
  | nil => exact Nat.le_refl _
  | cons completion rest inductionHypothesis =>
      obtain ⟨more, same⟩ := sums_deliverCompletion cq histories completion
      have later := inductionHypothesis (deliverCompletion cq histories completion)
      rw [List.foldl_cons]
      omega

/-- A destroyed queue pair takes its uncovered WRITEs out of flight. -/
theorem uncoveredWrites_eraseP (found : History → Bool) (histories : List History) :
    uncoveredWrites (histories.eraseP found) ≤ uncoveredWrites histories := by
  induction histories with
  | nil => exact Nat.le_refl _
  | cons history rest inductionHypothesis =>
      rw [List.eraseP_cons]
      cases found history with
      | true => simp only [cond_true, uncoveredWrites_cons]; omega
      | false => simp only [cond_false, uncoveredWrites_cons]; omega

/-! ### What a post does to the counters

The chain is recorded request by request.  The peak is raised after each of them, so that within
one post it is the one after the last. -/

/-- The queue pairs that the probe knows. -/
def Probe.known (probe : Probe) : List Qp := probe.queuePairs.map QpState.qp

/-- The requests that are recorded raise the peak to the WRITEs in flight after them, and touch
none of the counters of whole posts and polls. -/
structure Recorded (qp : Qp) (before after : Probe) : Prop where
  known : after.known = before.known
  tracking : after.trackWrites = before.trackWrites
  untracked : qp ∈ before.known → after.writes.untrackedWrites = before.writes.untrackedWrites
  inFlight : before.writes.inFlight ≤ after.writes.inFlight
  peak : before.writes.inFlight ≤ before.writes.peakInFlight →
    after.writes.peakInFlight = max before.writes.peakInFlight after.writes.inFlight
  completed : after.writes.completed = before.writes.completed
  cqes : after.writes.cqes = before.writes.cqes
  postBatch : after.writes.postBatch = before.writes.postBatch
  postErrors : after.writes.postErrors = before.writes.postErrors
  pollEntries : after.writes.pollEntries = before.writes.pollEntries

theorem Recorded.refl (qp : Qp) (probe : Probe) : Recorded qp probe probe :=
  ⟨rfl, rfl, fun _ => rfl, Nat.le_refl _, fun below => (Nat.max_eq_left below).symm, rfl, rfl, rfl,
    rfl, rfl⟩

theorem Recorded.trans {qp : Qp} {before middle after : Probe} (first : Recorded qp before middle)
    (second : Recorded qp middle after) : Recorded qp before after := by
  refine ⟨second.known.trans first.known, second.tracking.trans first.tracking, fun known => ?_,
    Nat.le_trans first.inFlight second.inFlight, fun below => ?_,
    second.completed.trans first.completed, second.cqes.trans first.cqes,
    second.postBatch.trans first.postBatch, second.postErrors.trans first.postErrors,
    second.pollEntries.trans first.pollEntries⟩
  · exact (second.untracked (first.known ▸ known)).trans (first.untracked known)
  · have raised := first.peak below
    have more := second.inFlight
    have raised' := second.peak (by omega)
    omega

theorem map_modifyFirst {α β : Type} {found : α → Bool} {change : α → α} {field : α → β}
    (same : ∀ item, field (change item) = field item) (items : List α) :
    (modifyFirst found change items).map field = items.map field := by
  induction items with
  | nil => rfl
  | cons first rest inductionHypothesis =>
      unfold modifyFirst
      split
      · rw [List.map_cons, List.map_cons, same]
      · rw [List.map_cons, List.map_cons, inductionHypothesis]

/-- One WRITE of a queue pair that the probe knows. -/
theorem recorded_countWrite (qp : Qp) (found : QpState → Bool) (state : QpState) (probe : Probe) :
    Recorded qp probe { probe.logSubtraction (state.posted + 1) state.completed with
      queuePairs := modifyFirst found (fun state => { state with posted := state.posted + 1 })
        probe.queuePairs
      writes := countWrite state probe.writes } := by
  refine ⟨map_modifyFirst ?_ _, rfl, fun _ => rfl, Nat.le_succ _, fun _ => rfl, rfl, rfl, rfl, rfl,
    rfl⟩
  exact fun _ => rfl

theorem recorded_recordPostedWr (qp : Qp) (wr : SendWr) (probe : Probe) :
    Recorded qp probe (recordPostedWr qp wr probe) := by
  unfold recordPostedWr
  split
  · exact .refl qp probe
  · split
    · rename_i missing
      have unknown : qp ∉ probe.known := by
        intro known
        obtain ⟨state, member, rfl⟩ := List.mem_map.mp known
        have notFound := List.find?_eq_none.mp missing state member
        simp [QpState.isQp] at notFound
      split
      · exact ⟨rfl, rfl, fun known => absurd known unknown, Nat.le_refl _,
          fun below => (Nat.max_eq_left below).symm, rfl, rfl, rfl, rfl, rfl⟩
      · exact .refl qp probe
    · rename_i state here
      have written : Recorded qp probe
          (if wr.opcode = .rdmaWrite then
            { probe.logSubtraction (state.posted + 1) state.completed with
              queuePairs := modifyFirst (QpState.isQp qp.pointer)
                (fun state => { state with posted := state.posted + 1 }) probe.queuePairs
              writes := countWrite state probe.writes }
          else probe) := by
        split
        · exact recorded_countWrite qp _ state probe
        · exact .refl qp probe
      simp only
      split
      · exact written
      · refine written.trans ⟨map_modifyFirst ?_ _, rfl, fun _ => rfl, Nat.le_refl _,
          fun below => (Nat.max_eq_left below).symm, rfl, rfl, rfl, rfl, rfl⟩
        exact fun _ => rfl

/-- The loop over the chain. -/
theorem recorded_recordAccepted (qp : Qp) (result : Int) (bad : Option Nat) (index : Nat)
    (wrs : List SendWr) (probe : Probe) :
    Recorded qp probe (recordAccepted qp result bad index wrs probe).2 := by
  induction wrs generalizing index probe with
  | nil => exact .refl qp probe
  | cons request rest inductionHypothesis =>
      simp only [recordAccepted]
      split
      · exact .refl qp probe
      · split
        · exact (recorded_recordPostedWr qp request probe).trans (inductionHypothesis _ _)
        · exact inductionHypothesis _ _

theorem posted_recordPostedWr_of_known {qp : Qp} {probe : Probe} (rc : qp.qpType = .rc)
    (known : qp ∈ probe.known) (wr : SendWr) :
    (recordPostedWr qp wr probe).writes.posted = probe.writes.posted + writeCount [wr] := by
  obtain ⟨state, member, rfl⟩ := List.mem_map.mp known
  rw [recordPostedWr, if_neg (not_not_intro rc), writeCount_singleton]
  cases here : probe.queuePairs.find? (QpState.isQp state.qp.pointer) with
  | none =>
      have notFound := List.find?_eq_none.mp here state member
      simp [QpState.isQp] at notFound
  | some found =>
      by_cases write : wr.opcode = .rdmaWrite
      · simp only [write, if_true, SendWr.isWrite, decide_true]
        split <;> rfl
      · simp only [write, if_false, SendWr.isWrite, decide_false, Bool.false_eq_true]
        split <;> rfl

/-- All accepted requests of a post on a queue pair that the probe knows. -/
theorem posted_recordAll {qp : Qp} (rc : qp.qpType = .rc) (wrs : List SendWr) {probe : Probe}
    (known : qp ∈ probe.known) :
    (wrs.foldl (fun probe wr => recordPostedWr qp wr probe) probe).writes.posted =
      probe.writes.posted + writeCount wrs := by
  induction wrs generalizing probe with
  | nil => rfl
  | cons wr rest inductionHypothesis =>
      have known' : qp ∈ (recordPostedWr qp wr probe).known :=
        (recorded_recordPostedWr qp wr probe).known ▸ known
      have counted : writeCount (wr :: rest) = writeCount [wr] + writeCount rest := by
        rw [← writeCount_append, List.singleton_append]
      rw [List.foldl_cons, inductionHypothesis known', posted_recordPostedWr_of_known rc known,
        counted, Nat.add_assoc]

/-- A post on a queue pair that the probe knows, or on one that it does not observe. -/
theorem observedPostSend_counts {probe after : Probe} {tid : Nat} {qp : Qp} {wrs : List SendWr}
    {result : Int} {bad : Option Nat} {world : EvidenceWorld}
    (tracking : probe.trackWrites = true) (names : result ≠ 0 → bad.isSome = true)
    (known : qp.qpType = .rc → qp ∈ probe.known)
    (inFlight : probe.writes.inFlight ≤ probe.writes.peakInFlight)
    (posted : observedPostSend tid qp wrs result bad probe = some after) :
    let moment : Moment := ⟨world, .postSend tid qp wrs result bad⟩
    after.writes.untrackedWrites = probe.writes.untrackedWrites ∧
    after.writes.postErrors = probe.writes.postErrors + (if moment.refusesWrite then 1 else 0) ∧
    after.writes.peakInFlight = max after.writes.inFlight probe.writes.peakInFlight ∧
    after.writes.postBatch = max moment.acceptedWrites probe.writes.postBatch ∧
    after.writes.pollEntries = probe.writes.pollEntries ∧
    after.writes.completed = probe.writes.completed ∧
    after.writes.cqes = probe.writes.cqes := by
  have tracking' : (countPost tid qp probe).trackWrites = true := tracking
  have recorded := recorded_recordAccepted qp result bad 0 wrs (countPost tid qp probe)
  have same := @recordAccepted_eq _ qp _ _ wrs tracking' names
  unfold observedPostSend at posted
  split at posted
  · cases posted
  · obtain rfl := Option.some.inj posted
    simp only
    generalize (recordAccepted qp result bad 0 wrs (countPost tid qp probe)).2 = final
      at recorded same ⊢
    have tracking'' : final.trackWrites = true := recorded.tracking.trans tracking'
    have untracked : final.writes.untrackedWrites = probe.writes.untrackedWrites := by
      by_cases rc : qp.qpType = .rc
      · exact recorded.untracked (known rc)
      · rw [same, foldl_recordPostedWr_of_not_rc rc]
        rfl
    have counted : final.writes.posted = probe.writes.posted +
        (if qp.qpType = .rc then writeCount (acceptedWrs wrs result bad) else 0) := by
      by_cases rc : qp.qpType = .rc
      · have known' : qp ∈ (countPost tid qp probe).known := known rc
        rw [same, posted_recordAll rc _ known', if_pos rc]
        rfl
      · rw [same, foldl_recordPostedWr_of_not_rc rc, if_neg rc]
        rfl
    have raised := recorded.peak inFlight
    have batch : subtract final.writes.posted probe.writes.posted =
        if qp.qpType = .rc then writeCount (acceptedWrs wrs result bad) else 0 := by
      rw [subtract_of_le (counted ▸ Nat.le_add_right _ _), counted, Nat.add_sub_cancel_left]
    have earlierErrors : final.writes.postErrors = probe.writes.postErrors := recorded.postErrors
    have earlierBatch : final.writes.postBatch = probe.writes.postBatch := recorded.postBatch
    have written : (countPost tid qp probe).writes.posted = probe.writes.posted := rfl
    simp only [tracking'', if_true, countBatch, written, batch]
    refine ⟨untracked, ?_, raised.trans (Nat.max_comm _ _), ?_, recorded.pollEntries,
      recorded.completed, recorded.cqes⟩
    · simp only [Moment.refusesWrite, decide_eq_true_eq, earlierErrors]
      split <;> rfl
    · rw [earlierBatch, Nat.max_comm]
      rfl

/-! ### What a poll does to the counters

The completions are recorded one by one, and each contributes what it newly covers. -/

/-- The delivered completions, each of which gains some newly covered WRITEs. -/
structure Delivered (gains : List Nat) (before after : Probe) : Prop where
  completed : after.writes.completed = gains.sum + before.writes.completed
  cqes : after.writes.cqes = gains.countP (0 < ·) + before.writes.cqes
  untracked : after.writes.untrackedWrites = before.writes.untrackedWrites
  postErrors : after.writes.postErrors = before.writes.postErrors
  peak : after.writes.peakInFlight = before.writes.peakInFlight
  postBatch : after.writes.postBatch = before.writes.postBatch
  pollEntries : after.writes.pollEntries = before.writes.pollEntries

/-- One completion gains some number of WRITEs, perhaps none. -/
theorem delivered_recordSendCompletion (cq : Cq) (completion : WorkCompletion) (probe : Probe) :
    ∃ gain, Delivered [gain] probe (recordSendCompletion cq completion probe) := by
  have nothing : Delivered [0] probe probe := by
    refine ⟨?_, ?_, rfl, rfl, rfl, rfl, rfl⟩ <;> simp
  have failed : Delivered [0] probe probe.completionError := by
    refine ⟨?_, ?_, rfl, rfl, rfl, rfl, rfl⟩ <;> simp [Probe.completionError]
  unfold recordSendCompletion
  split
  · exact ⟨0, nothing⟩
  · rename_i state here
    split
    · exact ⟨0, nothing⟩
    · split
      · split
        · exact ⟨0, failed⟩
        · exact ⟨0, nothing⟩
      · split
        · exact ⟨0, nothing⟩
        · split
          · exact ⟨0, failed⟩
          · rename_i signaled rest waiting
            split
            · exact ⟨0, failed⟩
            · refine ⟨subtract signaled.writeSequence state.completed, ?_, ?_, rfl, rfl, rfl, rfl,
                rfl⟩
              · simp [Probe.logSubtraction, Nat.add_comm]
              · simp only [Probe.logSubtraction, List.countP_cons, List.countP_nil,
                  Nat.pos_iff_ne_zero, decide_eq_true_eq]
                split <;> omega

/-- For genuine completions these are the numbers that they newly cover. -/
theorem delivered_deliverAll {cq : Cq} {completions : List WorkCompletion} {probe : Probe}
    {live gone : List History} {overruns : Nat} (evident : Evident probe live gone overruns)
    (genuine : GenuineAll cq live completions) :
    Delivered (newlyCovered cq live completions) probe
      (completions.foldl (fun probe entry => recordSendCompletion cq entry probe) probe) := by
  induction completions generalizing probe live with
  | nil => refine ⟨?_, ?_, rfl, rfl, rfl, rfl, rfl⟩ <;> simp [newlyCovered]
  | cons completion rest inductionHypothesis =>
      have evident' := evident.deliver genuine.1
      obtain ⟨gain, first⟩ := delivered_recordSendCompletion cq completion probe
      have later := inductionHypothesis evident' genuine.2
      have gained : gain = coveredWrites (deliverCompletion cq live completion) -
          coveredWrites live := by
        have before := evident.completed
        have after := evident'.completed
        rw [first.completed] at after
        simp only [total, List.sum_singleton] at before after
        simp only [coveredWrites]
        omega
      refine ⟨?_, ?_, later.untracked.trans first.untracked,
        later.postErrors.trans first.postErrors, later.peak.trans first.peak,
        later.postBatch.trans first.postBatch, later.pollEntries.trans first.pollEntries⟩
      · rw [List.foldl_cons, later.completed, first.completed]
        simp only [newlyCovered, ← gained, List.sum_cons, List.sum_nil]
        omega
      · rw [List.foldl_cons, later.cqes, first.cqes]
        simp only [newlyCovered, ← gained, List.countP_cons, List.countP_nil]
        omega

/-- A poll that nothing holds back, and whose completions are genuine. -/
theorem observedPollCq_counts {probe : Probe} {after : Probe × PollResult} {tid : Nat} {cq : Cq}
    {count : Int} {polled : Option (List WorkCompletion)} {live gone : List History}
    {overruns : Nat} (evident : Evident probe live gone overruns)
    (inFlight : probe.writes.inFlight = uncoveredWrites live)
    (genuine : probe.pauseCompletions = true ∨
      (polled.isSome = true ∧ GenuineAll cq live (polled.getD [])))
    (returned : observedPollCq tid cq count polled probe = some after) :
    after.1.writes.untrackedWrites = probe.writes.untrackedWrites ∧
    after.1.writes.postErrors = probe.writes.postErrors ∧
    after.1.writes.peakInFlight = probe.writes.peakInFlight ∧
    after.1.writes.postBatch = probe.writes.postBatch ∧
    after.1.writes.pollEntries =
      max (if probe.pauseCompletions = false ∧ 0 < uncoveredWrites live then count.toNat else 0)
        probe.writes.pollEntries ∧
    after.1.writes.completed = (if probe.pauseCompletions then []
      else newlyCovered cq live (polled.getD [])).sum + probe.writes.completed ∧
    after.1.writes.cqes = (if probe.pauseCompletions then []
      else newlyCovered cq live (polled.getD [])).countP (0 < ·) + probe.writes.cqes := by
  have known : cq.context ∈ probe.contexts := by
    apply Classical.byContradiction
    intro unknown
    rw [observedPollCq, if_pos unknown] at returned
    cases returned
  cases held : probe.pauseCompletions with
  | true =>
      rw [observedPollCq_held known held] at returned
      obtain rfl := Option.some.inj returned
      simp [countPoll]
  | false =>
      rw [observedPollCq_open known held] at returned
      obtain rfl := Option.some.inj returned
      obtain ⟨succeeds, genuine⟩ := genuine.resolve_left (by simp [held])
      obtain ⟨entries, rfl⟩ := Option.isSome_iff_exists.mp succeeds
      have tracking : probe.trackWrites = true := evident.tracking
      have unchanged : ∀ delivered (probe : Probe),
          (countCompletions tid delivered probe).writes = probe.writes := by
        intro delivered probe
        unfold countCompletions
        split <;> rfl
      have counted : Evident { countPoll tid probe with
          writes.pollEntries :=
            if 0 < probe.writes.inFlight ∧ 0 < count then
              max probe.writes.pollEntries count.toNat
            else probe.writes.pollEntries } live gone overruns :=
        evident.of_same rfl rfl rfl rfl rfl rfl
      have delivered := delivered_deliverAll counted genuine
      simp only [unchanged, tracking, if_true, Bool.false_eq_true, if_false, Option.getD_some]
      refine ⟨delivered.untracked, delivered.postErrors, delivered.peak, delivered.postBatch,
        delivered.pollEntries.trans ?_, delivered.completed, delivered.cqes⟩
      simp only [inFlight, true_and]
      split <;> split <;> omega

/-! ### Every measurement

The maxima of the probe are the maxima over the trace, by induction on its sections. -/

section Run

variable {run : Measurement}

/-- A measurement is a run of the provider that keeps its promises. -/
theorem reachable_world (reached : measurementSystem.Reachable HonestSection run) :
    evidenceSystem.Reachable Honest run.world := by
  induction reached with
  | initial start => exact .initial start.1
  | step earlier honest taken inductionHypothesis =>
      obtain ⟨world, stepped, rfl⟩ := Option.map_eq_some_iff.mp taken
      exact .step inductionHypothesis honest stepped

/-- The counters are exact throughout. -/
theorem exact_reachable {world : EvidenceWorld}
    (reached : evidenceSystem.Reachable Honest world) : world.Exact := by
  refine reached.invariant ?_ fun before event after exact_ honest taken =>
    exact_step exact_ honest taken
  rintro world ⟨before, -, rfl⟩
  exact exact_start before.probe

/-- The WRITEs in flight are the uncovered ones of the live queue pairs. -/
theorem inFlight_eq_uncoveredWrites {world : EvidenceWorld}
    (reached : evidenceSystem.Reachable Honest world) :
    world.probe.writes.inFlight = uncoveredWrites world.live := by
  have exact_ := exact_reachable reached
  obtain ⟨abandoned, accounted⟩ := accounted_evidence reached
  rw [accounted.inFlight exact_.tracking]
  exact outstanding_eq_uncoveredWrites exact_.mirrors

theorem probe_note (world : EvidenceWorld) (probe : Probe) (event : Event) :
    (world.note probe event).probe = probe := by
  cases event <;> simp only [EvidenceWorld.note] <;> split <;> rfl

/-- The peak was raised to every number of uncovered WRITEs that there was. -/
theorem Measured.uncovered_le_peak (measured : Measured run) :
    uncoveredWrites run.world.live ≤ run.world.probe.writes.peakInFlight := by
  rw [measured.peak]
  exact Nat.le_max_left _ _

/-- A section that counts as the trace does. -/
theorem Measured.next (measured : Measured run) {event : Event} {after : EvidenceWorld}
    (untracked : after.probe.writes.untrackedWrites = run.world.probe.writes.untrackedWrites)
    (postErrors : after.probe.writes.postErrors = run.world.probe.writes.postErrors +
      if Moment.refusesWrite ⟨run.world, event⟩ then 1 else 0)
    (peak : after.probe.writes.peakInFlight =
      max (uncoveredWrites after.live) run.world.probe.writes.peakInFlight)
    (postBatch : after.probe.writes.postBatch =
      max (Moment.acceptedWrites ⟨run.world, event⟩) run.world.probe.writes.postBatch)
    (pollEntries : after.probe.writes.pollEntries =
      max (Moment.offeredEntries ⟨run.world, event⟩) run.world.probe.writes.pollEntries)
    (completed : after.probe.writes.completed =
      (Moment.gains ⟨run.world, event⟩).sum + run.world.probe.writes.completed)
    (cqes : after.probe.writes.cqes =
      (Moment.gains ⟨run.world, event⟩).countP (0 < ·) + run.world.probe.writes.cqes) :
    Measured ⟨after, ⟨run.world, event⟩ :: run.moments⟩ where
  untracked := untracked.trans measured.untracked
  postErrors := by rw [postErrors, measured.postErrors, List.countP_cons]
  peak := by
    rw [peak, measured.peak]
    rfl
  postBatch := by
    rw [postBatch, measured.postBatch]
    rfl
  pollEntries := by
    rw [pollEntries, measured.pollEntries]
    rfl
  completed := by
    rw [completed, measured.completed, ← List.sum_append]
    rfl
  cqes := by
    rw [cqes, measured.cqes, ← List.countP_append]
    rfl

/-- A section that is neither a post nor a poll. -/
theorem Measured.quiet (measured : Measured run) {event : Event} {after : EvidenceWorld}
    (quiet : Moment.refusesWrite ⟨run.world, event⟩ = false ∧
      Moment.acceptedWrites ⟨run.world, event⟩ = 0 ∧
      Moment.offeredEntries ⟨run.world, event⟩ = 0 ∧ Moment.gains ⟨run.world, event⟩ = [])
    (less : uncoveredWrites after.live ≤ uncoveredWrites run.world.live) (inFlight : Nat)
    (same : after.probe.writes = { run.world.probe.writes with inFlight := inFlight }) :
    Measured ⟨after, ⟨run.world, event⟩ :: run.moments⟩ := by
  obtain ⟨notRefused, noneAccepted, noneOffered, noGain⟩ := quiet
  have below := measured.uncovered_le_peak
  apply measured.next <;> rw [same]
  · rw [notRefused, if_neg Bool.false_ne_true, Nat.add_zero]
  · exact (Nat.max_eq_right (Nat.le_trans less below)).symm
  · rw [noneAccepted, Nat.zero_max]
  · rw [noneOffered, Nat.zero_max]
  · rw [noGain, List.sum_nil, Nat.zero_add]
  · rw [noGain, List.countP_nil, Nat.zero_add]

theorem measured_start (run : Measurement) (start : measurementSystem.Initial run) :
    Measured run := by
  obtain ⟨world, moments⟩ := run
  obtain ⟨⟨before, -, rfl⟩, rfl⟩ := start
  have none_ : uncoveredWrites (EvidenceWorld.start before.probe).live = 0 := by
    apply List.sum_eq_zero_iff_forall_eq_nat.mpr
    intro value member
    obtain ⟨history, isLive, rfl⟩ := List.mem_map.mp member
    obtain ⟨state, -, rfl⟩ := List.mem_map.mp isLive
    rfl
  refine ⟨rfl, rfl, ?_, rfl, rfl, rfl, rfl⟩
  simp only [Measurement.worlds, List.map_nil, List.map_cons, none_]
  rfl

/-- Every section counts as the trace does; posts and polls are the ones that matter. -/
theorem measured_step {event : Event} {after : Measurement}
    (reached : measurementSystem.Reachable HonestSection run)
    (reached' : measurementSystem.Reachable HonestSection after) (measured : Measured run)
    (honest : HonestSection run event)
    (taken : measurementSystem.step run event = some after) : Measured after := by
  have exact_ := exact_reachable (reachable_world reached)
  have inFlight := inFlight_eq_uncoveredWrites (reachable_world reached)
  have inFlight' := inFlight_eq_uncoveredWrites (reachable_world reached')
  obtain ⟨world, noted, rfl⟩ := Option.map_eq_some_iff.mp taken
  obtain ⟨probe, stepped, rfl⟩ := Option.map_eq_some_iff.mp noted
  simp only [probe_note] at inFlight'
  have resumed : ∀ pointer, (resumeForShutdown pointer run.world.probe).writes =
      { run.world.probe.writes with inFlight := run.world.probe.writes.inFlight } := by
    intro pointer
    unfold resumeForShutdown
    split <;> rfl
  cases event with
  | openDevice context =>
      obtain rfl := Option.some.inj stepped
      exact measured.quiet ⟨rfl, rfl, rfl, rfl⟩ (Nat.le_refl _) _ rfl
  | closeDevice context result =>
      refine measured.quiet ⟨rfl, rfl, rfl, rfl⟩ (Nat.le_refl _) run.world.probe.writes.inFlight ?_
      simp only [Probe.step, closeDevice] at stepped
      split at stepped
      · cases stepped
      · split at stepped <;> exact Option.some.inj stepped ▸ rfl
  | createQp qp maxSendWr sqSigAll =>
      obtain rfl := Option.some.inj stepped
      refine measured.quiet ⟨rfl, rfl, rfl, rfl⟩ ?_ _ rfl
      simp only [EvidenceWorld.note, uncoveredWrites_cons]
      exact Nat.le_of_eq (Nat.zero_add _)
  | modifiedQp pointer stateInMask target result =>
      obtain rfl := Option.some.inj stepped
      refine measured.quiet ⟨rfl, rfl, rfl, rfl⟩ (Nat.le_refl _) run.world.probe.writes.inFlight ?_
      simp only [EvidenceWorld.note, modifiedQp]
      split
      · exact resumed pointer
      · rfl
  | destroyRequested pointer =>
      obtain rfl := Option.some.inj stepped
      exact measured.quiet ⟨rfl, rfl, rfl, rfl⟩ (Nat.le_refl _) _ (resumed pointer)
  | destroyQp pointer result =>
      obtain rfl := Option.some.inj stepped
      have less : uncoveredWrites
          (run.world.note (destroyQp pointer result run.world.probe)
            (.destroyQp pointer result)).live ≤ uncoveredWrites run.world.live := by
        simp only [EvidenceWorld.note]
        split
        · exact uncoveredWrites_eraseP _ _
        · exact Nat.le_refl _
      refine measured.quiet ⟨rfl, rfl, rfl, rfl⟩ less
        (destroyQp pointer result run.world.probe).writes.inFlight ?_
      rw [probe_note]
      unfold destroyQp
      split
      · rfl
      · split
        · rfl
        · simp only
          split <;> rfl
  | postSend tid qp wrs result bad =>
      have known : qp.qpType = .rc → qp ∈ run.world.probe.known := by
        intro rc
        obtain ⟨history, member, rfl⟩ := honest.1 rc
        rw [Probe.known, map_qp_eq exact_.mirrors]
        exact List.mem_map_of_mem member
      have below : run.world.probe.writes.inFlight ≤ run.world.probe.writes.peakInFlight :=
        inFlight ▸ measured.uncovered_le_peak
      obtain ⟨untracked, postErrors, peak, postBatch, pollEntries, completed, cqes⟩ :=
        @observedPostSend_counts _ _ _ _ _ _ _ run.world exact_.tracking honest.2 known below
          stepped
      apply measured.next <;> rw [probe_note]
      · exact untracked
      · exact postErrors
      · rw [peak, inFlight']
      · exact postBatch
      · exact pollEntries.trans (Nat.zero_max _).symm
      · exact completed.trans (Nat.zero_add _).symm
      · exact cqes.trans (Nat.zero_add _).symm
  | pollCq tid cq count polled =>
      obtain ⟨returned, polled', rfl⟩ := Option.map_eq_some_iff.mp stepped
      obtain ⟨untracked, postErrors, peak, postBatch, pollEntries, completed, cqes⟩ :=
        observedPollCq_counts exact_ inFlight honest polled'
      have less : uncoveredWrites
          (run.world.note returned.1 (.pollCq tid cq count polled)).live ≤
            uncoveredWrites run.world.live := by
        simp only [EvidenceWorld.note]
        split
        · exact Nat.le_refl _
        · exact uncoveredWrites_deliverAll cq _ _
      have below := Nat.le_trans less measured.uncovered_le_peak
      apply measured.next <;> rw [probe_note]
      · exact untracked
      · exact postErrors
      · rw [peak, Nat.max_eq_right below]
      · exact postBatch.trans (Nat.zero_max _).symm
      · exact pollEntries
      · exact completed
      · exact cqes
  | observeWrites enabled => exact absurd honest not_false
  | holdCompletions paused tid =>
      obtain rfl := Option.some.inj stepped
      exact measured.quiet ⟨rfl, rfl, rfl, rfl⟩ (Nat.le_refl _) _ rfl

/-- So the counters say what happened, in every measurement. -/
theorem measured_reachable (reached : measurementSystem.Reachable HonestSection run) :
    Measured run := by
  have both : measurementSystem.Reachable HonestSection run ∧ Measured run := by
    induction reached with
    | initial start => exact ⟨.initial start, measured_start _ start⟩
    | step _ honest taken inductionHypothesis =>
        obtain ⟨earlier, measured⟩ := inductionHypothesis
        have later := LabelledSystem.Reachable.step earlier honest taken
        exact ⟨later, measured_step earlier later measured honest taken⟩
  exact both.2

end Run

/-! ### The verdict

A maximum is at least two exactly when some moment of the trace is, and more covered WRITEs than
completions that newly cover one means that a completion was the first to cover two.  With this
the assertions become statements about the history. -/

/-- An assertion that holds lets the next one be tried. -/
@[simp] theorem expect_bind {stats : WriteStats} {holds : Bool} {message : String}
    {next : Unit → Except AssertionFailure WriteStats} {result : WriteStats} :
    (stats.expect holds message >>= next) = .ok result ↔
      holds = true ∧ next () = .ok result := by
  cases holds with
  | true => exact ⟨fun returned => ⟨rfl, returned⟩, And.right⟩
  | false =>
      refine ⟨fun returned => ?_, fun both => absurd both.1 Bool.false_ne_true⟩
      cases returned

/-- What the assertions ask of the counters. -/
theorem assertWritesCompleted_eq_ok {minimumWrs : Nat} {concurrent batching : Bool}
    {stats : WriteStats} :
    assertWritesCompleted minimumWrs concurrent batching stats = .ok stats ↔
      stats.untrackedWrites = 0 ∧ stats.postErrors = 0 ∧ stats.completionErrors = 0 ∧
      stats.capacityErrors = 0 ∧ minimumWrs ≤ stats.posted ∧
      (stats.completed = stats.posted ∧ stats.inFlight = 0) ∧
      (concurrent = true → 2 ≤ stats.peakInFlight) ∧
      (batching = true → 2 ≤ stats.postBatch ∧ 2 ≤ stats.pollEntries ∧
        0 < stats.cqes ∧ stats.cqes < stats.posted) := by
  cases concurrent <;> cases batching <;>
    simp [assertWritesCompleted, pure, Except.pure, and_assoc]

/-- The verdict of a measurement is exact.  In every run of a measurement with an honest provider,
whatever the sections and their order, `assert_writes_completed` accepts the counters if and only
if no WRITE was refused and none overran its queue pair, at least `minimumWrs` of them were accepted
and a delivered completion covers each one; for `concurrent`, at some moment two accepted WRITEs
were uncovered at once; and for `batching`, one post had two accepted WRITEs, one poll made room for
two entries while a WRITE was in flight, and one completion was the first to cover two WRITEs. -/
theorem measurement_verdict {run : Measurement}
    (reached : measurementSystem.Reachable HonestSection run) (minimumWrs : Nat)
    (concurrent batching : Bool) :
    assertWritesCompleted minimumWrs concurrent batching run.world.probe.writes =
        .ok run.world.probe.writes ↔
      (∀ moment ∈ run.moments, moment.refusesWrite = false) ∧ run.world.overruns = 0 ∧
      minimumWrs ≤
        total (fun history => writeCount history.accepted) run.world.live run.world.gone ∧
      (∀ history ∈ run.world.live ++ run.world.gone, ∀ wr ∈ history.uncovered,
        wr.opcode ≠ .rdmaWrite) ∧
      (concurrent = true → ∃ world ∈ run.worlds, 2 ≤ uncoveredWrites world.live) ∧
      (batching = true → (∃ moment ∈ run.moments, 2 ≤ moment.acceptedWrites) ∧
        (∃ moment ∈ run.moments, 2 ≤ moment.offeredEntries) ∧ ∃ gain ∈ run.gains, 2 ≤ gain) := by
  have measured := measured_reachable reached
  have exact_ := exact_reachable (reachable_world reached)
  have inFlight := inFlight_eq_uncoveredWrites (reachable_world reached)
  have covered := total_covered run.world.live run.world.gone
  have posted := exact_.posted
  have completed := exact_.completed
  have refused : run.world.probe.writes.postErrors = 0 ↔
      ∀ moment ∈ run.moments, moment.refusesWrite = false := by
    rw [measured.postErrors, List.countP_eq_zero]
    simp only [Bool.not_eq_true]
  have everyCovered : run.world.probe.writes.completed = run.world.probe.writes.posted ∧
      run.world.probe.writes.inFlight = 0 ↔
        ∀ history ∈ run.world.live ++ run.world.gone, ∀ wr ∈ history.uncovered,
          wr.opcode ≠ .rdmaWrite := by
    rw [← total_uncovered_eq_zero, inFlight]
    simp only [total, uncoveredWrites] at *
    omega
  have concurrently : 2 ≤ run.world.probe.writes.peakInFlight ↔
      ∃ world ∈ run.worlds, 2 ≤ uncoveredWrites world.live := by
    rw [measured.peak, two_le_largest]
  have chained : 2 ≤ run.world.probe.writes.postBatch ↔
      ∃ moment ∈ run.moments, 2 ≤ moment.acceptedWrites := by
    rw [measured.postBatch, two_le_largest]
  have wide : 2 ≤ run.world.probe.writes.pollEntries ↔
      ∃ moment ∈ run.moments, 2 ≤ moment.offeredEntries := by
    rw [measured.pollEntries, two_le_largest]
  have selective : run.world.probe.writes.completed = run.world.probe.writes.posted →
      (0 < run.world.probe.writes.cqes ∧
        run.world.probe.writes.cqes < run.world.probe.writes.posted ↔
          ∃ gain ∈ run.gains, 2 ≤ gain) := by
    intro same
    rw [← same, measured.completed, measured.cqes, ← countP_pos_lt_sum]
    refine ⟨And.right, fun fewer => ⟨?_, fewer⟩⟩
    obtain ⟨gain, member, big⟩ := countP_pos_lt_sum.mp fewer
    have positive : decide (0 < gain) = true := decide_eq_true (by omega)
    exact List.countP_pos_iff.mpr ⟨gain, member, positive⟩
  rw [assertWritesCompleted_eq_ok, refused, exact_.capacityErrors, ← posted, everyCovered,
    concurrently, chained, wide]
  constructor
  · rintro ⟨-, notRefused, -, noOverrun, enough, all, two, batched⟩
    refine ⟨notRefused, noOverrun, enough, all, two, fun batching => ?_⟩
    obtain ⟨chain, room, few⟩ := batched batching
    exact ⟨chain, room, (selective (everyCovered.mpr all).1).mp few⟩
  · rintro ⟨notRefused, noOverrun, enough, all, two, batched⟩
    refine ⟨measured.untracked, notRefused, exact_.completionErrors, noOverrun, enough, all, two,
      fun batching => ?_⟩
    obtain ⟨chain, room, gain⟩ := batched batching
    exact ⟨chain, room, (selective (everyCovered.mpr all).1).mpr gain⟩

/-- Three WRITEs in one chain, of which the second and the third are signaled, and one poll. -/
def chainedPost : List Event :=
  [.createQp firstPoster 16 false,
    .postSend 3 firstPoster [{ sampleWrite with signaled := false }, sampleWrite, sampleWrite] 0
      none,
    .pollCq 4 ⟨7, 1⟩ 8 (some [⟨5, 1, true, false⟩, ⟨5, 1, true, false⟩])]

theorem measurement_verdict_chained : ∃ run : Measurement,
    (assertWritesCompleted 3 true true run.world.probe.writes).isOk = true ∧
      (∃ world ∈ run.worlds, 2 ≤ uncoveredWrites world.live) ∧ ∃ gain ∈ run.gains, 2 ≤ gain := by
  have opened : accountingSystem.step {} (.openDevice 1) = some ⟨openDevice 1 {}, 0⟩ := rfl
  have start : measurementSystem.Initial ⟨.start (openDevice 1 {}), []⟩ :=
    ⟨⟨_, .step (.initial rfl) trivial opened, rfl⟩, rfl⟩
  have computed : ∃ run, measurementSystem.Reachable HonestSection run ∧
      assertWritesCompleted 3 true true run.world.probe.writes = .ok run.world.probe.writes :=
    LabelledSystem.exists_reachable (.initial start) chainedPost (by decide)
  obtain ⟨run, reached, accepted⟩ := computed
  obtain ⟨-, -, -, -, two, batched⟩ := (measurement_verdict reached 3 true true).mp accepted
  exact ⟨run, by rw [accepted]; rfl, two rfl, (batched rfl).2.2⟩

end Rdma101.VerbsProbe
