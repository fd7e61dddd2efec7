/-
Module: Rdma101.VerbsProbe.Accounting
Purpose: The write counters of the probe under every sequence of events, with any completions
  whatever: the global counters are the sums of the ones of the queue pairs, nothing is counted
  twice, and no unsigned subtraction wraps.
Trusted boundary: none
Main exports: outstanding, QpState.Ordered, Accounted, accountingSystem, probe_accounting
-/
import Rdma101.Lib.LabelledSystem
import Rdma101.VerbsProbe.Gate
import Mathlib.Data.List.Basic

namespace Rdma101.VerbsProbe

/-! ### Records that are found and changed

The probe searches its list of queue pairs for the first match.  Splitting the list there makes
every change local, so that sums over the list change in one term. -/

section Found

variable {α : Type} {found : α → Bool} {item : α} {items : List α}

/-- The change happens where the list splits. -/
theorem modifyFirst_append {before : List α} (change : α → α) (after : List α)
    (notBefore : ∀ other ∈ before, found other = false) (here : found item = true) :
    modifyFirst found change (before ++ item :: after) = before ++ change item :: after := by
  induction before with
  | nil => simp [modifyFirst, here]
  | cons first rest inductionHypothesis =>
      have notFirst := notBefore first (.head rest)
      have later := inductionHypothesis fun other member => notBefore other (.tail first member)
      simp [modifyFirst, notFirst, later]

/-- The record that is found splits the list, and changing or removing it is local. -/
theorem split_of_find? (here : items.find? found = some item) : ∃ before after,
    items = before ++ item :: after ∧ found item = true ∧
      (∀ change, modifyFirst found change items = before ++ change item :: after) ∧
      items.eraseP found = before ++ after := by
  obtain ⟨holds, before, after, rfl, notBefore⟩ := List.find?_eq_some_iff_append.mp here
  have notBefore' : ∀ other ∈ before, found other = false := by
    intro other member
    simpa using notBefore other member
  refine ⟨before, after, rfl, holds, fun change =>
    modifyFirst_append change after notBefore' holds, ?_⟩
  rw [List.eraseP_append_right _ (by simpa using notBefore'), List.eraseP_cons_of_pos holds]

/-- What is in the list afterwards was there, or is the change of something that was. -/
theorem mem_modifyFirst {change : α → α} {other : α}
    (member : other ∈ modifyFirst found change items) :
    other ∈ items ∨ ∃ before ∈ items, other = change before := by
  induction items with
  | nil => exact .inl member
  | cons first rest inductionHypothesis =>
      unfold modifyFirst at member
      split at member
      · rcases List.mem_cons.mp member with rfl | later
        · exact .inr ⟨first, .head rest, rfl⟩
        · exact .inl (.tail first later)
      · rcases List.mem_cons.mp member with rfl | later
        · exact .inl (.head rest)
        · rcases inductionHypothesis later with same | ⟨before, earlier, changed⟩
          · exact .inl (.tail first same)
          · exact .inr ⟨before, .tail first earlier, changed⟩

end Found

/-! ### The invariant

Global counters are sums over the queue pairs, up to what destroyed queue pairs have abandoned.
For each queue pair `completed ≤ entries ≤ posted`, in order; therefore no difference wraps. -/

/-- The WRITEs of the queue pairs that are posted and not retired. -/
def outstanding (states : List QpState) : Nat :=
  (states.map fun state => state.posted - state.completed).sum

/-- The counters of a queue pair are in order, and so are the entries that wait. -/
structure QpState.Ordered (state : QpState) : Prop where
  completed : state.completed ≤ state.posted
  sorted : state.pending.Pairwise fun first second => first.writeSequence ≤ second.writeSequence
  between : ∀ signaled ∈ state.pending,
    state.completed ≤ signaled.writeSequence ∧ signaled.writeSequence ≤ state.posted

/-- `abandoned` is the number of WRITEs that were not retired when their queue pair was
destroyed. -/
structure Accounted (probe : Probe) (abandoned : Nat) : Prop where
  ordered : ∀ state ∈ probe.queuePairs, state.Ordered
  inFlight : probe.trackWrites = true → probe.writes.inFlight = outstanding probe.queuePairs
  total : probe.writes.completed + probe.writes.inFlight + abandoned = probe.writes.posted
  noWrap : ∀ operands ∈ probe.subtractions, operands.2 ≤ operands.1

/-- Outstanding WRITEs are summed up along the list. -/
theorem outstanding_append (before after : List QpState) :
    outstanding (before ++ after) = outstanding before + outstanding after := by
  simp [outstanding]

theorem outstanding_cons (state : QpState) (states : List QpState) :
    outstanding (state :: states) = state.posted - state.completed + outstanding states := by
  simp [outstanding]

/-- A difference that does not wrap is the one of numbers. -/
theorem subtract_of_le {minuend subtrahend : Nat} (below : subtrahend ≤ minuend) :
    subtract minuend subtrahend = minuend - subtrahend := if_pos below

section Steps

variable {probe : Probe} {abandoned : Nat}

/-- One more subtraction, of a number that is not larger. -/
theorem Accounted.logSubtraction (accounted : Accounted probe abandoned)
    {minuend subtrahend : Nat} (below : subtrahend ≤ minuend) :
    Accounted (probe.logSubtraction minuend subtrahend) abandoned := by
  refine ⟨accounted.ordered, accounted.inFlight, accounted.total, fun operands member => ?_⟩
  rcases List.mem_append.mp member with earlier | last
  · exact accounted.noWrap operands earlier
  · obtain rfl := List.mem_singleton.mp last
    exact below

/-- A change of the other counters. -/
theorem Accounted.of_same {probe' : Probe} (accounted : Accounted probe abandoned)
    (queuePairs : probe'.queuePairs = probe.queuePairs)
    (trackWrites : probe'.trackWrites = probe.trackWrites)
    (posted : probe'.writes.posted = probe.writes.posted)
    (completed : probe'.writes.completed = probe.writes.completed)
    (inFlight : probe'.writes.inFlight = probe.writes.inFlight)
    (subtractions : probe'.subtractions = probe.subtractions) : Accounted probe' abandoned := by
  refine ⟨?_, ?_, ?_, ?_⟩
  · rw [queuePairs]
    exact accounted.ordered
  · rw [queuePairs, trackWrites, inFlight]
    exact accounted.inFlight
  · rw [posted, completed, inFlight]
    exact accounted.total
  · rw [subtractions]
    exact accounted.noWrap

/-- A posted WRITE. -/
theorem QpState.Ordered.write {state : QpState} (ordered : state.Ordered) :
    QpState.Ordered { state with posted := state.posted + 1 } where
  completed := Nat.le_succ_of_le ordered.completed
  sorted := ordered.sorted
  between signaled member :=
    ⟨(ordered.between signaled member).1, Nat.le_succ_of_le (ordered.between signaled member).2⟩

/-- A signaled request waits behind the others, at the number of WRITEs posted so far. -/
theorem QpState.Ordered.enqueue {state : QpState} (ordered : state.Ordered) (wr : SendWr) :
    (state.enqueue wr).Ordered := by
  refine ⟨ordered.completed, ?_, fun signaled member => ?_⟩
  · refine List.pairwise_append.mpr ⟨ordered.sorted, List.pairwise_singleton _ _, ?_⟩
    intro first earlier last isLast
    obtain rfl := List.mem_singleton.mp isLast
    exact (ordered.between first earlier).2
  · rcases List.mem_append.mp member with earlier | last
    · exact ordered.between signaled earlier
    · obtain rfl := List.mem_singleton.mp last
      exact ⟨ordered.completed, Nat.le_refl _⟩

/-- The first entry is retired. -/
theorem QpState.Ordered.retire {state : QpState} (ordered : state.Ordered) {signaled : SignaledWr}
    {rest : List SignaledWr} (waiting : state.pending = signaled :: rest) :
    (state.retire signaled).Ordered := by
  have sorted := ordered.sorted
  rw [waiting] at sorted
  obtain ⟨least, sorted'⟩ := List.pairwise_cons.mp sorted
  have member : signaled ∈ state.pending := waiting ▸ .head rest
  refine ⟨(ordered.between signaled member).2, ?_, fun other later => ?_⟩
  · rw [QpState.retire, waiting]
    exact sorted'
  · rw [QpState.retire, waiting] at later
    exact ⟨least other later, (ordered.between other (waiting ▸ .tail signaled later)).2⟩

/-- A change that leaves both counters alone leaves the sum alone. -/
theorem outstanding_modifyFirst_of_same {found : QpState → Bool} {change : QpState → QpState}
    (same : ∀ state, (change state).posted = state.posted ∧
      (change state).completed = state.completed) (states : List QpState) :
    outstanding (modifyFirst found change states) = outstanding states := by
  induction states with
  | nil => rfl
  | cons first rest inductionHypothesis =>
      unfold modifyFirst
      split
      · rw [outstanding_cons, outstanding_cons, (same first).1, (same first).2]
      · rw [outstanding_cons, outstanding_cons, inductionHypothesis]

theorem ordered_modifyFirst {found : QpState → Bool} {change : QpState → QpState}
    {states : List QpState} (ordered : ∀ state ∈ states, state.Ordered)
    (keeps : ∀ state, state.Ordered → (change state).Ordered) :
    ∀ state ∈ modifyFirst found change states, state.Ordered := by
  intro state member
  rcases mem_modifyFirst member with same | ⟨before, earlier, rfl⟩
  · exact ordered state same
  · exact keeps before (ordered before earlier)

/-- The queue pair of a WRITE counts it, and so do the global counters. -/
theorem Accounted.countWrite (accounted : Accounted probe abandoned) {found : QpState → Bool}
    {state : QpState} (here : probe.queuePairs.find? found = some state) :
    Accounted { probe.logSubtraction (state.posted + 1) state.completed with
      queuePairs := modifyFirst found (fun state => { state with posted := state.posted + 1 })
        probe.queuePairs
      writes := VerbsProbe.countWrite state probe.writes } abandoned := by
  obtain ⟨before, after, split, -, changed, -⟩ := split_of_find? here
  have ordered := accounted.ordered state (split ▸ List.mem_append_right before (.head after))
  have logged := accounted.logSubtraction (Nat.le_succ_of_le ordered.completed)
  refine ⟨ordered_modifyFirst accounted.ordered fun _ => QpState.Ordered.write,
    fun tracking => ?_, ?_, logged.noWrap⟩
  · have inFlight := accounted.inFlight tracking
    have below := ordered.completed
    rw [split, outstanding_append, outstanding_cons] at inFlight
    rw [changed, outstanding_append, outstanding_cons]
    simp only [VerbsProbe.countWrite]
    omega
  · have total := accounted.total
    simp only [VerbsProbe.countWrite]
    omega

/-- One request of a post: a WRITE is counted, and a signaled request waits. -/
theorem Accounted.recordPostedWr (accounted : Accounted probe abandoned) (qp : Qp) (wr : SendWr) :
    Accounted (recordPostedWr qp wr probe) abandoned := by
  unfold VerbsProbe.recordPostedWr
  split
  · exact accounted
  · split
    · split
      · exact accounted.of_same rfl rfl rfl rfl rfl rfl
      · exact accounted
    · rename_i state here
      have counted : Accounted
          (if wr.opcode = .rdmaWrite then
            { probe.logSubtraction (state.posted + 1) state.completed with
              queuePairs := modifyFirst (QpState.isQp qp.pointer)
                (fun state => { state with posted := state.posted + 1 }) probe.queuePairs
              writes := VerbsProbe.countWrite state probe.writes }
          else probe) abandoned := by
        split
        · exact accounted.countWrite here
        · exact accounted
      generalize (if wr.opcode = .rdmaWrite then
        { probe.logSubtraction (state.posted + 1) state.completed with
          queuePairs := modifyFirst (QpState.isQp qp.pointer)
            (fun state => { state with posted := state.posted + 1 }) probe.queuePairs
          writes := VerbsProbe.countWrite state probe.writes } else probe) = written at counted
      simp only
      split
      · exact counted
      · refine ⟨ordered_modifyFirst counted.ordered fun _ ordered => ordered.enqueue wr,
          fun tracking => ?_, counted.total, counted.noWrap⟩
        have same : outstanding (modifyFirst (QpState.isQp qp.pointer) (QpState.enqueue wr)
            written.queuePairs) = outstanding written.queuePairs := by
          refine outstanding_modifyFirst_of_same ?_ _
          exact fun _ => ⟨rfl, rfl⟩
        exact (counted.inFlight tracking).trans same.symm

/-- The first entry of a queue pair is retired, with the WRITEs up to it. -/
theorem Accounted.retire (accounted : Accounted probe abandoned)
    (tracking : probe.trackWrites = true) {found : QpState → Bool} {state : QpState}
    (here : probe.queuePairs.find? found = some state) {signaled : SignaledWr}
    {rest : List SignaledWr} (waiting : state.pending = signaled :: rest) (cqes : Nat) :
    Accounted { (probe.logSubtraction signaled.writeSequence state.completed).logSubtraction
        probe.writes.inFlight (subtract signaled.writeSequence state.completed) with
      queuePairs := modifyFirst found (fun state => state.retire signaled) probe.queuePairs
      writes := { probe.writes with
        completed := probe.writes.completed + subtract signaled.writeSequence state.completed
        inFlight := subtract probe.writes.inFlight
          (subtract signaled.writeSequence state.completed)
        cqes := cqes } } abandoned := by
  obtain ⟨before, after, split, -, changed, -⟩ := split_of_find? here
  have ordered := accounted.ordered state (split ▸ List.mem_append_right before (.head after))
  obtain ⟨notBefore, notAfter⟩ := ordered.between signaled (waiting ▸ .head rest)
  have inFlight := accounted.inFlight tracking
  have total := accounted.total
  rw [split, outstanding_append, outstanding_cons] at inFlight
  have enough : signaled.writeSequence - state.completed ≤ probe.writes.inFlight := by omega
  have logged := (accounted.logSubtraction notBefore).logSubtraction enough
  rw [subtract_of_le notBefore, subtract_of_le enough]
  refine ⟨?_, fun _ => ?_, ?_, logged.noWrap⟩
  · rw [changed]
    intro other member
    rcases List.mem_append.mp member with earlier | later
    · exact accounted.ordered other (split ▸ List.mem_append_left _ earlier)
    · rcases List.mem_cons.mp later with rfl | later
      · exact ordered.retire waiting
      · exact accounted.ordered other (split ▸ List.mem_append_right before (.tail state later))
  · rw [changed, outstanding_append, outstanding_cons]
    simp only [QpState.retire]
    omega
  · simp only
    omega

/-- One completion, whatever it says: at most the first entry of its queue pair is retired. -/
theorem Accounted.recordSendCompletion (accounted : Accounted probe abandoned)
    (tracking : probe.trackWrites = true) (cq : Cq) (completion : WorkCompletion) :
    Accounted (recordSendCompletion cq completion probe) abandoned := by
  have failed : Accounted probe.completionError abandoned :=
    accounted.of_same rfl rfl rfl rfl rfl rfl
  unfold VerbsProbe.recordSendCompletion
  split
  · exact accounted
  · rename_i state here
    split
    · exact accounted
    · split
      · split
        · exact failed
        · exact accounted
      · split
        · exact accounted
        · split
          · exact failed
          · rename_i signaled rest waiting
            split
            · exact failed
            · exact accounted.retire tracking here waiting _

/-- Posting only adds WRITEs. -/
theorem posted_recordPostedWr (qp : Qp) (wr : SendWr) (probe : Probe) :
    probe.writes.posted ≤ (VerbsProbe.recordPostedWr qp wr probe).writes.posted := by
  unfold VerbsProbe.recordPostedWr
  split
  · exact Nat.le_refl _
  · split
    · split <;> exact Nat.le_refl _
    · split <;> split <;> first | exact Nat.le_refl _ | exact Nat.le_succ _

theorem trackWrites_recordPostedWr (qp : Qp) (wr : SendWr) (probe : Probe) :
    (VerbsProbe.recordPostedWr qp wr probe).trackWrites = probe.trackWrites := by
  unfold VerbsProbe.recordPostedWr
  split
  · rfl
  · split
    · split <;> rfl
    · split <;> split <;> rfl

/-- The loop over the chain, by induction on the requests that are left. -/
theorem Accounted.recordAccepted (accounted : Accounted probe abandoned) (qp : Qp) (result : Int)
    (bad : Option Nat) (index : Nat) (wrs : List SendWr) :
    Accounted (recordAccepted qp result bad index wrs probe).2 abandoned ∧
      probe.writes.posted ≤ (recordAccepted qp result bad index wrs probe).2.writes.posted ∧
      (recordAccepted qp result bad index wrs probe).2.trackWrites = probe.trackWrites := by
  induction wrs generalizing index probe with
  | nil => exact ⟨accounted, Nat.le_refl _, rfl⟩
  | cons request rest inductionHypothesis =>
      simp only [VerbsProbe.recordAccepted]
      split
      · exact ⟨accounted, Nat.le_refl _, rfl⟩
      · split
        · obtain ⟨later, more, same⟩ :=
            inductionHypothesis (accounted.recordPostedWr qp request) (index + 1)
          exact ⟨later, Nat.le_trans (posted_recordPostedWr qp request probe) more,
            same.trans (trackWrites_recordPostedWr qp request probe)⟩
        · exact inductionHypothesis accounted (index + 1)

/-- A whole post; the difference that it takes is of counters that have only grown. -/
theorem Accounted.observedPostSend (accounted : Accounted probe abandoned) {tid : Nat} {qp : Qp}
    {wrs : List SendWr} {result : Int} {bad : Option Nat} {after : Probe}
    (posted : observedPostSend tid qp wrs result bad probe = some after) :
    Accounted after abandoned := by
  unfold VerbsProbe.observedPostSend at posted
  split at posted
  · cases posted
  · obtain rfl := Option.some.inj posted
    have counted : Accounted (countPost tid qp probe) abandoned :=
      accounted.of_same rfl rfl rfl rfl rfl rfl
    obtain ⟨recorded, more, -⟩ := counted.recordAccepted qp result bad 0 wrs
    have named : ∀ postedWrs, Accounted { (VerbsProbe.recordAccepted qp result bad 0 wrs
        (countPost tid qp probe)).2 with calls.postedWrs := postedWrs } abandoned :=
      fun _ => recorded.of_same rfl rfl rfl rfl rfl rfl
    split
    · exact ((named _).logSubtraction more).of_same rfl rfl rfl rfl rfl rfl
    · exact named _

theorem trackWrites_recordSendCompletion (cq : Cq) (completion : WorkCompletion) (probe : Probe) :
    (VerbsProbe.recordSendCompletion cq completion probe).trackWrites = probe.trackWrites := by
  unfold VerbsProbe.recordSendCompletion
  split
  · rfl
  · split
    · rfl
    · split
      · split <;> rfl
      · split
        · rfl
        · split
          · rfl
          · split <;> rfl

/-- The loop over the completions. -/
theorem Accounted.recordPolled (accounted : Accounted probe abandoned)
    (tracking : probe.trackWrites = true) (cq : Cq) (count : Int)
    (polled : Option (List WorkCompletion)) :
    Accounted (recordPolled cq count polled probe) abandoned := by
  have all : ∀ (entries : List WorkCompletion) (probe : Probe), probe.trackWrites = true →
      Accounted probe abandoned → Accounted (entries.foldl (fun probe entry =>
        VerbsProbe.recordSendCompletion cq entry probe) probe) abandoned := by
    intro entries
    induction entries with
    | nil => exact fun _ _ accounted => accounted
    | cons entry rest inductionHypothesis =>
        intro probe tracking accounted
        exact inductionHypothesis _
          ((trackWrites_recordSendCompletion cq entry probe).trans tracking)
          (accounted.recordSendCompletion tracking cq entry)
  unfold VerbsProbe.recordPolled
  cases polled with
  | none =>
      simp only
      split <;> exact accounted.of_same rfl rfl rfl rfl rfl rfl
  | some entries => exact all entries _ tracking (accounted.of_same rfl rfl rfl rfl rfl rfl)

/-- A whole poll, held or not. -/
theorem Accounted.observedPollCq (accounted : Accounted probe abandoned) {tid : Nat} {cq : Cq}
    {count : Int} {polled : Option (List WorkCompletion)} {after : Probe × PollResult}
    (returned : observedPollCq tid cq count polled probe = some after) :
    Accounted after.1 abandoned := by
  have counted : Accounted (countPoll tid probe) abandoned :=
    accounted.of_same rfl rfl rfl rfl rfl rfl
  by_cases known : cq.context ∈ probe.contexts
  · cases held : probe.pauseCompletions with
    | true =>
        rw [observedPollCq_held known held] at returned
        obtain rfl := Option.some.inj returned
        exact counted.of_same rfl rfl rfl rfl rfl rfl
    | false =>
        rw [observedPollCq_open known held] at returned
        obtain rfl := Option.some.inj returned
        have recorded : Accounted (if probe.trackWrites then
            VerbsProbe.recordPolled cq count polled (countPoll tid probe)
            else countPoll tid probe) abandoned := by
          split
          · rename_i tracking
            exact counted.recordPolled tracking cq count polled
          · exact counted
        unfold countCompletions
        split
        · exact recorded
        · exact recorded.of_same rfl rfl rfl rfl rfl rfl
  · rw [VerbsProbe.observedPollCq, if_pos known] at returned
    cases returned

/-- The WRITEs that a destruction abandons. -/
def unretired (pointer : Nat) (result : Int) (probe : Probe) : Nat :=
  if result = 0 ∧ probe.trackWrites = true then
    ((probe.queuePairs.find? (QpState.isQp pointer)).map fun state =>
      state.posted - state.completed).getD 0
  else 0

/-- What a destroyed queue pair had not retired is abandoned, and leaves the WRITEs in flight. -/
theorem Accounted.destroyQp (accounted : Accounted probe abandoned) (pointer : Nat)
    (result : Int) :
    Accounted (destroyQp pointer result probe) (abandoned + unretired pointer result probe) := by
  unfold VerbsProbe.destroyQp unretired
  by_cases success : result = 0
  · rw [if_neg (not_not_intro success)]
    cases here : probe.queuePairs.find? (QpState.isQp pointer) with
    | none => simpa using accounted
    | some state =>
        obtain ⟨before, after, split, -, -, removed⟩ := split_of_find? here
        have ordered := accounted.ordered state
          (split ▸ List.mem_append_right before (.head after))
        have kept : ∀ other ∈ before ++ after, other.Ordered := by
          intro other member
          refine accounted.ordered other (split ▸ ?_)
          rcases List.mem_append.mp member with earlier | later
          · exact List.mem_append_left _ earlier
          · exact List.mem_append_right before (.tail state later)
        cases tracking : probe.trackWrites with
        | false =>
            simp only [Bool.false_eq_true, if_false, and_false, Nat.add_zero]
            refine ⟨removed ▸ kept, fun tracking' => ?_, accounted.total, accounted.noWrap⟩
            exact absurd (tracking.symm.trans tracking') Bool.false_ne_true
        | true =>
            have inFlight := accounted.inFlight tracking
            have total := accounted.total
            have below := ordered.completed
            rw [split, outstanding_append, outstanding_cons] at inFlight
            have enough : state.posted - state.completed ≤ probe.writes.inFlight := by omega
            have logged := (accounted.logSubtraction below).logSubtraction enough
            simp only [subtract_of_le below, subtract_of_le enough, success, if_true, and_self,
              Option.map_some, Option.getD_some]
            refine ⟨removed ▸ kept, fun _ => ?_, ?_, logged.noWrap⟩
            · have sum : outstanding (probe.queuePairs.eraseP (QpState.isQp pointer)) =
                  outstanding before + outstanding after := by rw [removed, outstanding_append]
              refine Eq.trans ?_ sum.symm
              simp only
              omega
            · simp only [Probe.logSubtraction]
              omega
  · simpa [success] using accounted

end Steps

/-! ### Every run

One lemma for each section of the probe, then the run by induction; the completions are
arbitrary. -/

structure AccountingWorld where
  probe : Probe := {}
  abandoned : Nat := 0
deriving DecidableEq

/-- What an event adds to the WRITEs that were abandoned since the measurement began. -/
def AccountingWorld.note (world : AccountingWorld) : Event → Nat
  | .destroyQp pointer result => world.abandoned + unretired pointer result world.probe
  | .observeWrites true => 0
  | _ => world.abandoned

def accountingSystem : LabelledSystem AccountingWorld Event where
  Initial world := world = {}
  step world event := (world.probe.step event).map fun probe => ⟨probe, world.note event⟩

/-- A measurement starts with all counters at zero. -/
theorem accounted_observeWrites {probe : Probe} {abandoned : Nat}
    (accounted : Accounted probe abandoned) (enabled : Bool) :
    Accounted (observeWrites enabled probe) (if enabled then 0 else abandoned) := by
  have fresh : ∀ state ∈ probe.queuePairs.map resetQpTracking, state.Ordered := by
    intro state member
    obtain ⟨before, -, rfl⟩ := List.mem_map.mp member
    exact ⟨Nat.le_refl 0, .nil, fun signaled waits => absurd waits List.not_mem_nil⟩
  have sum : outstanding (probe.queuePairs.map resetQpTracking) = 0 := by
    simp [outstanding, resetQpTracking, Function.comp_def]
  cases enabled with
  | false =>
      exact ⟨fresh, fun tracking => absurd tracking Bool.false_ne_true, accounted.total,
        accounted.noWrap⟩
  | true => exact ⟨fresh, fun _ => sum.symm, rfl, accounted.noWrap⟩

/-- Every event keeps the invariant. -/
theorem accounted_step {world after : AccountingWorld} {event : Event}
    (accounted : Accounted world.probe world.abandoned)
    (taken : accountingSystem.step world event = some after) :
    Accounted after.probe after.abandoned := by
  obtain ⟨probe, stepped, rfl⟩ := Option.map_eq_some_iff.mp taken
  have resumed : ∀ pointer, Accounted (resumeForShutdown pointer world.probe) world.abandoned := by
    intro pointer
    unfold resumeForShutdown
    split
    · exact accounted.of_same rfl rfl rfl rfl rfl rfl
    · exact accounted
  cases event with
  | openDevice context =>
      obtain rfl := Option.some.inj stepped
      exact accounted.of_same rfl rfl rfl rfl rfl rfl
  | closeDevice context result =>
      simp only [Probe.step, closeDevice] at stepped
      split at stepped
      · cases stepped
      · split at stepped <;> obtain rfl := Option.some.inj stepped
        · exact accounted.of_same rfl rfl rfl rfl rfl rfl
        · exact accounted
  | createQp qp maxSendWr sqSigAll =>
      obtain rfl := Option.some.inj stepped
      refine ⟨fun state member => ?_, fun tracking => ?_, accounted.total, accounted.noWrap⟩
      · rcases List.mem_cons.mp member with rfl | member
        · exact ⟨Nat.le_refl 0, .nil, fun signaled waits => absurd waits List.not_mem_nil⟩
        · exact accounted.ordered state member
      · rw [createQp, outstanding_cons, Nat.zero_sub, Nat.zero_add]
        exact accounted.inFlight tracking
  | modifiedQp pointer stateInMask target result =>
      obtain rfl := Option.some.inj stepped
      simp only [AccountingWorld.note, modifiedQp]
      split
      · exact resumed pointer
      · exact accounted
  | destroyRequested pointer =>
      obtain rfl := Option.some.inj stepped
      exact resumed pointer
  | destroyQp pointer result =>
      obtain rfl := Option.some.inj stepped
      exact accounted.destroyQp pointer result
  | postSend tid qp wrs result bad => exact accounted.observedPostSend stepped
  | pollCq tid cq count polled =>
      obtain ⟨returned, polled', rfl⟩ := Option.map_eq_some_iff.mp stepped
      exact accounted.observedPollCq polled'
  | observeWrites enabled =>
      obtain rfl := Option.some.inj stepped
      have observed := accounted_observeWrites accounted enabled
      cases enabled <;> exact observed
  | holdCompletions paused tid =>
      obtain rfl := Option.some.inj stepped
      exact accounted.of_same rfl rfl rfl rfl rfl rfl

theorem accounted_reachable {world : AccountingWorld}
    (reached : accountingSystem.Reachable (fun _ _ => True) world) :
    Accounted world.probe world.abandoned := by
  refine reached.invariant ?_ fun before event after accounted _ taken =>
    accounted_step accounted taken
  rintro world rfl
  exact ⟨fun state member => absurd member List.not_mem_nil, fun _ => rfl, rfl,
    fun operands member => absurd member List.not_mem_nil⟩

/-- The accounting of the probe neither drifts nor underflows.  In every run, with any completions
whatever: while writes are observed, those in flight are the posted and not completed ones of the
live queue pairs; the sequence numbers that wait at a queue pair are nondecreasing and lie between
its counters; completed and in-flight writes add up to the posted ones, less those that were
abandoned with their queue pair; and no subtraction wraps. -/
theorem probe_accounting {world : AccountingWorld}
    (reached : accountingSystem.Reachable (fun _ _ => True) world) :
    (world.probe.trackWrites = true → world.probe.writes.inFlight =
      (world.probe.queuePairs.map fun state => state.posted - state.completed).sum) ∧
    (∀ state ∈ world.probe.queuePairs, state.completed ≤ state.posted ∧
      (state.pending.map SignaledWr.writeSequence).Pairwise (· ≤ ·) ∧
      ∀ signaled ∈ state.pending, state.completed ≤ signaled.writeSequence ∧
        signaled.writeSequence ≤ state.posted) ∧
    world.probe.writes.completed + world.probe.writes.inFlight ≤ world.probe.writes.posted ∧
    (world.probe.writes.completed + world.probe.writes.inFlight = world.probe.writes.posted ↔
      world.abandoned = 0) ∧
    ∀ operands ∈ world.probe.subtractions, operands.2 ≤ operands.1 := by
  have accounted := accounted_reachable reached
  have total := accounted.total
  refine ⟨accounted.inFlight, fun state member => ?_, by omega, by omega, accounted.noWrap⟩
  have ordered := accounted.ordered state member
  exact ⟨ordered.completed, List.pairwise_map.mpr ordered.sorted, ordered.between⟩

/-- A measurement in which a queue pair is destroyed with a WRITE that is not retired. -/
def abandonedWrite : List Event :=
  [.openDevice 1, .createQp firstPoster 16 false, .observeWrites true,
    .postSend 3 firstPoster [sampleWrite, sampleWrite] 0 none,
    .pollCq 4 ⟨7, 1⟩ 8 (some [⟨5, 1, true, false⟩]), .destroyQp 101 0]

/-- Without the abandoned WRITE the sum would not come out. -/
theorem probe_accounting_abandoned : ∃ world : AccountingWorld,
    (world.probe.writes.posted = 2 ∧ world.abandoned = 1) ∧
      world.probe.writes.completed + world.probe.writes.inFlight ≠ world.probe.writes.posted := by
  have computed : ∃ world, accountingSystem.Reachable (fun _ _ => True) world ∧
      world.probe.writes.posted = 2 ∧ world.abandoned = 1 :=
    LabelledSystem.exists_reachable (.initial rfl) abandonedWrite (by decide)
  obtain ⟨world, reached, posted, abandoned⟩ := computed
  refine ⟨world, ⟨posted, abandoned⟩, fun same => ?_⟩
  have none_ := (probe_accounting reached).2.2.2.1.mp same
  rw [abandoned] at none_
  cases none_

end Rdma101.VerbsProbe
