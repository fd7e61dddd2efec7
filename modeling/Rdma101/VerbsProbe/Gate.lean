/-
Module: Rdma101.VerbsProbe.Gate
Purpose: The gate in front of the completions.  It remembers the first queue pair that posts under
  a hold and opens when that one is shut down; a queue pair that posted later does not open it.
Trusted boundary: none
Main exports: Hold, gateSystem, Opened, FirstShut, ShutsFirst, gate_opens_for_first_poster
-/
import Rdma101.Lib.LabelledSystem
import Rdma101.VerbsProbe.Verbs

namespace Rdma101.VerbsProbe

/-! ### The history of a hold

The gate keeps one queue pair.  What it should know is kept beside it: the posters in order, and
which of them have been shut down. -/

/-- What has happened since the last call of `r101_probe_hold_completions`: whether that call
holds, the queue pairs that have posted since, in the order of their first posts, and those of them
that have been shut down since. -/
structure Hold where
  inForce : Bool := false
  posters : List Nat := []
  shut : List Nat := []
deriving DecidableEq

/-- The queue pair that an event shuts down. -/
def Event.shutsDown : Event → Option Nat
  | .modifiedQp pointer stateInMask target result =>
      if result = 0 ∧ stateInMask ∧ (target = .err ∨ target = .reset) then some pointer else none
  | .destroyRequested pointer => some pointer
  | _ => none

/-- A poster is noted as shut down. -/
def Hold.shutDown (hold : Hold) (pointer : Nat) : Hold :=
  if pointer ∈ hold.posters then { hold with shut := pointer :: hold.shut } else hold

/-- A queue pair is noted as a poster. -/
def Hold.post (hold : Hold) (pointer : Nat) : Hold :=
  if pointer ∈ hold.posters then hold else { hold with posters := hold.posters ++ [pointer] }

def Hold.note (hold : Hold) : Event → Hold
  | .holdCompletions paused _ => { inForce := paused }
  | .postSend _ qp _ _ _ => hold.post qp.pointer
  | event => event.shutsDown.elim hold hold.shutDown

structure GateWorld where
  probe : Probe := {}
  hold : Hold := {}
deriving DecidableEq

def gateSystem : LabelledSystem GateWorld Event where
  Initial world := world = {}
  step world event :=
    (world.probe.step event).map fun probe => ⟨probe, world.hold.note event⟩

/-- Once a queue pair that posted under the hold has been shut down, completions are not held. -/
def Opened (world : GateWorld) : Prop :=
  world.hold.shut ≠ [] → world.probe.pauseCompletions = false

/-- The first poster has been shut down. -/
def Hold.Released (hold : Hold) : Prop :=
  ∃ first, hold.posters.head? = some first ∧ first ∈ hold.shut

/-- Whenever a poster has been shut down under the hold, the first one has. -/
def FirstShut (world : GateWorld) : Prop :=
  world.hold.inForce = true → world.hold.shut ≠ [] → world.hold.Released

/-- An event that shuts down a poster shuts down the first one, or that one has been shut down
before. -/
def ShutsFirst (world : GateWorld) (event : Event) : Prop :=
  ∀ pointer, event.shutsDown = some pointer → world.hold.inForce = true →
    pointer ∈ world.hold.posters →
    world.hold.posters.head? = some pointer ∨ world.hold.Released

/-! ### What leaves the gate alone

Posts, polls and the accounting touch the gate at one place only, the first post under a hold. -/

/-- The two fields that make up the gate. -/
def Probe.gate (probe : Probe) : Bool × Option Nat := (probe.pauseCompletions, probe.pausedQp)

section Frame

variable (probe : Probe)

theorem gate_recordPostedWr (qp : Qp) (wr : SendWr) :
    (recordPostedWr qp wr probe).gate = probe.gate := by
  unfold recordPostedWr
  split
  · rfl
  · split
    · split <;> rfl
    · split <;> split <;> rfl

theorem gate_recordAccepted (qp : Qp) (result : Int) (bad : Option Nat) (index : Nat)
    (wrs : List SendWr) : (recordAccepted qp result bad index wrs probe).2.gate = probe.gate := by
  induction wrs generalizing index probe with
  | nil => rfl
  | cons request rest inductionHypothesis =>
      simp only [recordAccepted]
      split
      · rfl
      · rw [inductionHypothesis]
        split
        · exact gate_recordPostedWr probe qp request
        · rfl

theorem gate_recordSendCompletion (cq : Cq) (completion : WorkCompletion) :
    (recordSendCompletion cq completion probe).gate = probe.gate := by
  unfold recordSendCompletion
  split
  · rfl
  · split
    · rfl
    · split
      · split <;> rfl
      · split
        · rfl
        · split
          · rfl
          · split <;> rfl

theorem gate_recordPolled (cq : Cq) (count : Int) (polled : Option (List WorkCompletion)) :
    (recordPolled cq count polled probe).gate = probe.gate := by
  have all : ∀ (entries : List WorkCompletion) (probe : Probe),
      (entries.foldl (fun probe entry => recordSendCompletion cq entry probe) probe).gate =
        probe.gate := by
    intro entries
    induction entries with
    | nil => exact fun _ => rfl
    | cons entry rest inductionHypothesis =>
        exact fun probe =>
          (inductionHypothesis _).trans (gate_recordSendCompletion probe cq entry)
  cases polled with
  | none =>
      simp only [recordPolled]
      split <;> rfl
  | some entries => exact all entries _

end Frame

/-- A post under a hold is remembered when it is the first one. -/
theorem gate_observedPostSend {probe after : Probe} {tid : Nat} {qp : Qp} {wrs : List SendWr}
    {result : Int} {bad : Option Nat}
    (posted : observedPostSend tid qp wrs result bad probe = some after) :
    after.gate = (countPost tid qp probe).gate := by
  unfold observedPostSend at posted
  split at posted
  · cases posted
  · obtain rfl := Option.some.inj posted
    split
    · exact gate_recordAccepted _ qp result bad 0 wrs
    · exact gate_recordAccepted _ qp result bad 0 wrs

/-- While completions are held, a poll counts itself and does nothing else. -/
theorem observedPollCq_held {probe : Probe} {tid : Nat} {cq : Cq} {count : Int}
    {polled : Option (List WorkCompletion)} (known : cq.context ∈ probe.contexts)
    (held : probe.pauseCompletions = true) :
    observedPollCq tid cq count polled probe =
      some ({ countPoll tid probe with calls.heldPolls := probe.calls.heldPolls + 1 },
        ⟨0, false⟩) := by
  have held' : (countPoll tid probe).pauseCompletions = true := held
  rw [observedPollCq, if_neg (not_not_intro known)]
  simp only [held', if_true]
  rfl

/-- An open gate lets the poll through to the provider. -/
theorem observedPollCq_open {probe : Probe} {tid : Nat} {cq : Cq} {count : Int}
    {polled : Option (List WorkCompletion)} (known : cq.context ∈ probe.contexts)
    (notHeld : probe.pauseCompletions = false) :
    observedPollCq tid cq count polled probe =
      some (countCompletions tid (polled.getD []).length
        (if probe.trackWrites then recordPolled cq count polled (countPoll tid probe)
          else countPoll tid probe),
        ⟨if polled.isNone then -1 else (polled.getD []).length, true⟩) := by
  have notHeld' : (countPoll tid probe).pauseCompletions = false := notHeld
  rw [observedPollCq, if_neg (not_not_intro known)]
  simp only [notHeld', Bool.false_eq_true, if_false]
  rfl

theorem gate_countCompletions (tid delivered : Nat) (probe : Probe) :
    (countCompletions tid delivered probe).gate = probe.gate := by
  unfold countCompletions
  split <;> rfl

/-- No poll moves the gate. -/
theorem gate_observedPollCq {probe : Probe} {tid : Nat} {cq : Cq} {count : Int}
    {polled : Option (List WorkCompletion)} {after : Probe × PollResult}
    (returned : observedPollCq tid cq count polled probe = some after) :
    after.1.gate = probe.gate := by
  by_cases known : cq.context ∈ probe.contexts
  · cases held : probe.pauseCompletions with
    | true =>
        rw [observedPollCq_held known held] at returned
        obtain rfl := Option.some.inj returned
        rfl
    | false =>
        rw [observedPollCq_open known held] at returned
        obtain rfl := Option.some.inj returned
        rw [gate_countCompletions]
        split
        · exact gate_recordPolled _ cq count polled
        · rfl
  · rw [observedPollCq, if_pos known] at returned
    cases returned

/-! ### The invariant of the gate

The remembered queue pair is the head of the list of posters.  From this follow both what the
gate guarantees and where it falls short of its comment. -/

/-- The gate is closed until the first poster is shut down, and remembers it. -/
structure Gated (world : GateWorld) : Prop where
  closed : world.probe.pauseCompletions = true ↔
    world.hold.inForce = true ∧ ¬world.hold.Released
  paused : world.probe.pauseCompletions = true →
    world.probe.pausedQp = world.hold.posters.head?
  idle : world.probe.pauseCompletions = false → world.probe.pausedQp = none
  posted : ∀ pointer ∈ world.hold.shut, pointer ∈ world.hold.posters

/-- The invariant is about the gate only. -/
theorem Gated.of_gate {world : GateWorld} {probe : Probe} (gated : Gated world)
    (same : probe.gate = world.probe.gate) : Gated { world with probe := probe } := by
  have samePause : probe.pauseCompletions = world.probe.pauseCompletions := congrArg Prod.fst same
  have samePaused : probe.pausedQp = world.probe.pausedQp := congrArg Prod.snd same
  refine ⟨?_, ?_, ?_, gated.posted⟩
  · rw [samePause]
    exact gated.closed
  · rw [samePause, samePaused]
    exact gated.paused
  · rw [samePause, samePaused]
    exact gated.idle

/-- A shutdown releases the hold when it is the one of the first poster. -/
theorem Hold.released_shutDown {hold : Hold} {pointer : Nat} :
    (hold.shutDown pointer).Released ↔ hold.Released ∨ hold.posters.head? = some pointer := by
  unfold shutDown
  split
  · simp only [Released, List.mem_cons]
    constructor
    · rintro ⟨first, isHead, rfl | shut⟩
      · exact .inr isHead
      · exact .inl ⟨first, isHead, shut⟩
    · rintro (⟨first, isHead, shut⟩ | isHead)
      · exact ⟨first, isHead, .inr shut⟩
      · exact ⟨pointer, isHead, .inl rfl⟩
  · rename_i notPoster
    refine ⟨.inl, fun released => released.resolve_right fun isHead => notPoster ?_⟩
    exact List.mem_of_head? isHead

/-- The first poster stays the first one. -/
theorem Hold.head?_post {hold : Hold} {pointer : Nat} :
    (hold.post pointer).posters.head? = hold.posters.head?.or (some pointer) := by
  unfold post
  split
  · rename_i poster
    cases named : hold.posters with
    | nil =>
        rw [named] at poster
        cases poster
    | cons first rest => rfl
  · simp

/-- A shutdown opens the gate exactly for the queue pair that it remembers. -/
theorem Gated.shutdown {world : GateWorld} (gated : Gated world) (pointer : Nat) :
    Gated ⟨resumeForShutdown pointer world.probe, world.hold.shutDown pointer⟩ := by
  have sameForce : (world.hold.shutDown pointer).inForce = world.hold.inForce := by
    unfold Hold.shutDown
    split <;> rfl
  have samePosters : (world.hold.shutDown pointer).posters = world.hold.posters := by
    unfold Hold.shutDown
    split <;> rfl
  have posted : ∀ shut ∈ (world.hold.shutDown pointer).shut,
      shut ∈ (world.hold.shutDown pointer).posters := by
    rw [samePosters]
    unfold Hold.shutDown
    split
    · rename_i poster
      intro shut member
      rcases List.mem_cons.mp member with rfl | member
      · exact poster
      · exact gated.posted shut member
    · exact gated.posted
  cases held : world.probe.pauseCompletions with
  | false =>
      have same : resumeForShutdown pointer world.probe = world.probe := by
        simp [resumeForShutdown, held]
      rw [same]
      refine ⟨?_, fun held' => absurd held' (by simp [held]), gated.idle, posted⟩
      rw [Hold.released_shutDown, sameForce, gated.closed]
      have closed := gated.closed
      rw [held] at closed
      constructor
      · exact fun open_ => absurd (closed.mpr open_) (by decide)
      · rintro ⟨inForce, notReleased⟩
        exact ⟨inForce, fun released => notReleased (.inl released)⟩
  | true =>
      obtain ⟨inForce, notReleased⟩ := gated.closed.mp held
      have paused := gated.paused held
      by_cases isHead : world.hold.posters.head? = some pointer
      · have opened : resumeForShutdown pointer world.probe = { world.probe with
            pauseCompletions := false
            pausedQp := none
            calls.shutdownReleases := world.probe.calls.shutdownReleases + 1 } := by
          simp [resumeForShutdown, held, paused, isHead]
        rw [opened]
        refine ⟨⟨fun open_ => absurd open_ Bool.false_ne_true, fun closed => ?_⟩,
          fun open_ => absurd open_ Bool.false_ne_true, fun _ => rfl, posted⟩
        exact absurd (Hold.released_shutDown.mpr (.inr isHead)) closed.2
      · have same : resumeForShutdown pointer world.probe = world.probe := by
          simp [resumeForShutdown, paused, isHead]
        rw [same]
        refine ⟨⟨fun _ => ⟨sameForce.trans inForce, fun released => ?_⟩, fun _ => held⟩,
          fun _ => samePosters ▸ paused, gated.idle, posted⟩
        exact (Hold.released_shutDown.mp released).elim notReleased isHead

/-- A post under a hold is remembered by both or by neither. -/
theorem Gated.post {world : GateWorld} (gated : Gated world) (tid : Nat) (qp : Qp) :
    Gated ⟨countPost tid qp world.probe, world.hold.post qp.pointer⟩ := by
  have sameForce : (world.hold.post qp.pointer).inForce = world.hold.inForce := by
    unfold Hold.post
    split <;> rfl
  have sameShut : (world.hold.post qp.pointer).shut = world.hold.shut := by
    unfold Hold.post
    split <;> rfl
  have more : ∀ pointer ∈ world.hold.posters, pointer ∈ (world.hold.post qp.pointer).posters := by
    intro pointer member
    unfold Hold.post
    split
    · exact member
    · exact List.mem_append_left _ member
  -- The first poster does not change, as those that were shut down are among the posters.
  have sameReleased : (world.hold.post qp.pointer).Released ↔ world.hold.Released := by
    rw [Hold.Released, Hold.Released, sameShut, Hold.head?_post]
    cases named : world.hold.posters with
    | nil =>
        have noneShut : world.hold.shut = [] := by
          apply List.eq_nil_iff_forall_not_mem.mpr
          intro pointer member
          have poster := gated.posted pointer member
          rw [named] at poster
          cases poster
        simp [noneShut]
    | cons first rest => simp
  refine ⟨?_, fun held => ?_, fun notHeld => ?_, fun pointer member => ?_⟩
  · rw [sameForce, sameReleased]
    exact gated.closed
  · have held' : world.probe.pauseCompletions = true := held
    rw [Hold.head?_post, ← gated.paused held']
    simp only [countPost, held', Bool.true_and]
    cases world.probe.pausedQp <;> rfl
  · have notHeld' : world.probe.pauseCompletions = false := notHeld
    simp only [countPost, notHeld', Bool.false_and, Bool.false_eq_true, if_false]
    exact gated.idle notHeld'
  · rw [sameShut] at member
    exact more pointer (gated.posted pointer member)

/-- Every event keeps the gate in step with the history of the hold. -/
theorem Gated.step {world after : GateWorld} {event : Event} (gated : Gated world)
    (taken : gateSystem.step world event = some after) : Gated after := by
  obtain ⟨probe, stepped, rfl⟩ := Option.map_eq_some_iff.mp taken
  cases event with
  | openDevice context =>
      obtain rfl := Option.some.inj stepped
      exact gated.of_gate rfl
  | closeDevice context result =>
      apply gated.of_gate
      simp only [Probe.step, closeDevice] at stepped
      split at stepped
      · cases stepped
      · split at stepped <;> exact Option.some.inj stepped ▸ rfl
  | createQp qp maxSendWr sqSigAll =>
      obtain rfl := Option.some.inj stepped
      exact gated.of_gate rfl
  | modifiedQp pointer stateInMask target result =>
      obtain rfl := Option.some.inj stepped
      simp only [Hold.note, Event.shutsDown, modifiedQp]
      split
      · exact gated.shutdown pointer
      · exact gated.of_gate rfl
  | destroyRequested pointer =>
      obtain rfl := Option.some.inj stepped
      exact gated.shutdown pointer
  | destroyQp pointer result =>
      obtain rfl := Option.some.inj stepped
      apply gated.of_gate
      simp only [destroyQp]
      split
      · rfl
      · split
        · rfl
        · split <;> rfl
  | postSend tid qp wrs result bad =>
      exact (gated.post tid qp).of_gate (gate_observedPostSend stepped)
  | pollCq tid cq count polled =>
      obtain ⟨returned, polled', rfl⟩ := Option.map_eq_some_iff.mp stepped
      exact gated.of_gate (gate_observedPollCq polled')
  | observeWrites enabled =>
      obtain rfl := Option.some.inj stepped
      exact gated.of_gate rfl
  | holdCompletions paused tid =>
      obtain rfl := Option.some.inj stepped
      refine ⟨?_, fun _ => rfl, fun _ => rfl, fun _ member => absurd member List.not_mem_nil⟩
      exact ⟨fun held => ⟨held, fun ⟨_, _, shut⟩ => absurd shut List.not_mem_nil⟩, And.left⟩

theorem gated_of_reachable {allowed : GateWorld → Event → Prop} {world : GateWorld}
    (reached : gateSystem.Reachable allowed world) : Gated world := by
  refine reached.invariant ?_ fun before event after gated _ taken => gated.step taken
  rintro world rfl
  exact ⟨⟨fun held => absurd held Bool.false_ne_true, fun closed => closed.1⟩, fun _ => rfl,
    fun _ => rfl, fun _ member => absurd member List.not_mem_nil⟩

/-- The gate is open after a shutdown exactly when the first poster has been shut down. -/
theorem Gated.opened_iff {world : GateWorld} (gated : Gated world) :
    Opened world ↔ FirstShut world := by
  constructor
  · intro opened inForce shut
    apply Classical.byContradiction
    intro notReleased
    have held := gated.closed.mpr ⟨inForce, notReleased⟩
    rw [opened shut] at held
    cases held
  · intro firstShut shut
    rw [Bool.eq_false_iff]
    intro held
    obtain ⟨inForce, notReleased⟩ := gated.closed.mp held
    exact notReleased (firstShut inForce shut)

/-- A post does not change which poster was the first one. -/
theorem Hold.Released.post {hold : Hold} {pointer : Nat} (released : hold.Released) :
    (hold.post pointer).Released := by
  obtain ⟨first, isHead, shut⟩ := released
  refine ⟨first, by rw [Hold.head?_post, isHead, Option.or_some, Option.getD_some], ?_⟩
  unfold Hold.post
  split <;> exact shut

/-- As long as shutdowns begin with the first poster, no later poster is shut down before it. -/
theorem firstShut_step {world after : GateWorld} {event : Event} (firstShut : FirstShut world)
    (obeys : ShutsFirst world event) (taken : gateSystem.step world event = some after) :
    FirstShut after := by
  obtain ⟨probe, -, rfl⟩ := Option.map_eq_some_iff.mp taken
  have shutdown : ∀ pointer, event.shutsDown = some pointer →
      FirstShut ⟨probe, world.hold.shutDown pointer⟩ := by
    intro pointer shuts inForce shut
    by_cases poster : pointer ∈ world.hold.posters
    · have inForce' : world.hold.inForce = true := by
        simpa [Hold.shutDown, poster] using inForce
      rcases obeys pointer shuts inForce' poster with isHead | released
      · exact Hold.released_shutDown.mpr (.inr isHead)
      · exact Hold.released_shutDown.mpr (.inl released)
    · have same : world.hold.shutDown pointer = world.hold := by simp [Hold.shutDown, poster]
      rw [same] at inForce shut ⊢
      exact firstShut inForce shut
  cases event with
  | holdCompletions paused tid => exact fun _ shut => absurd rfl shut
  | postSend tid qp wrs result bad =>
      intro inForce shut
      have same : (world.hold.post qp.pointer).inForce = world.hold.inForce ∧
          (world.hold.post qp.pointer).shut = world.hold.shut := by
        unfold Hold.post
        split <;> exact ⟨rfl, rfl⟩
      exact (firstShut (same.1 ▸ inForce) (same.2 ▸ shut)).post
  | modifiedQp pointer stateInMask target result =>
      cases shuts : (Event.modifiedQp pointer stateInMask target result).shutsDown with
      | none =>
          simp only [Hold.note, shuts, Option.elim_none]
          exact firstShut
      | some pointer' =>
          simp only [Hold.note, shuts, Option.elim_some]
          exact shutdown pointer' shuts
  | destroyRequested pointer => exact shutdown pointer rfl
  | openDevice context | closeDevice context result | createQp qp maxSendWr sqSigAll
  | destroyQp pointer result | pollCq tid cq count polled | observeWrites enabled =>
      exact firstShut

/-- What the gate guarantees.  In every run, a poll returns nothing and leaves the completions with
the provider while they are held, and the gate is open after the shutdown of a queue pair that
posted under the hold if and only if the one that posted first has been shut down; so it opens in
every run whose shutdowns begin with the first poster. -/
theorem gate_opens_for_first_poster {world : GateWorld}
    (reached : gateSystem.Reachable (fun _ _ => True) world) :
    (world.probe.pauseCompletions = true → ∀ tid cq count polled after result,
      observedPollCq tid cq count polled world.probe = some (after, result) →
      result = ⟨0, false⟩ ∧ after.writes = world.probe.writes ∧
        after.queuePairs = world.probe.queuePairs) ∧
    (Opened world ↔ FirstShut world) ∧
    (gateSystem.Reachable ShutsFirst world → Opened world) := by
  have gated := gated_of_reachable reached
  refine ⟨fun held tid cq count polled after result returned => ?_, gated.opened_iff,
    fun reached' => gated.opened_iff.mpr ?_⟩
  · by_cases known : cq.context ∈ world.probe.contexts
    · rw [observedPollCq_held known held] at returned
      cases returned
      exact ⟨rfl, rfl, rfl⟩
    · rw [observedPollCq, if_pos known] at returned
      cases returned
  · refine reached'.invariant ?_ fun before event after firstShut obeys taken =>
      firstShut_step firstShut obeys taken
    rintro world rfl
    exact fun inForce => absurd inForce Bool.false_ne_true

/-! ### Two posters, of which the second one is shut down -/

def firstPoster : Qp := ⟨101, 1, .rc, 7, 1⟩

def secondPoster : Qp := ⟨102, 1, .rc, 7, 2⟩

def sampleWrite : SendWr := ⟨5, .rdmaWrite, true⟩

def heldPosts : List Event :=
  [.openDevice 1, .createQp firstPoster 16 false, .createQp secondPoster 16 false,
    .holdCompletions true 0, .postSend 3 firstPoster [sampleWrite] 0 none,
    .postSend 3 secondPoster [sampleWrite] 0 none]

instance (world : GateWorld) : Decidable (Opened world) :=
  inferInstanceAs (Decidable (_ → _))

/-- The shutdown of the first poster opens the gate. -/
theorem gate_opens_for_first_poster_sample :
    ∃ world, world.hold.shut = [101] ∧ Opened world := by
  have computed : ∃ world, gateSystem.Reachable (fun _ _ => True) world ∧
      world.hold.shut = [101] ∧ world.hold.posters = [101, 102] :=
    LabelledSystem.exists_reachable (.initial rfl) (heldPosts ++ [.destroyRequested 101])
      (by decide)
  obtain ⟨world, reached, shut, posters⟩ := computed
  refine ⟨world, shut, (gate_opens_for_first_poster reached).2.1.mpr fun _ _ => ?_⟩
  exact ⟨101, by rw [posters]; rfl, by rw [shut]; exact .head []⟩

/-- The shutdown of the second poster alone leaves the gate closed. -/
theorem gate_stays_closed :
    ¬∀ world, gateSystem.Reachable (fun _ _ => True) world → Opened world := by
  have computed : ∃ world, gateSystem.Reachable (fun _ _ => True) world ∧ ¬Opened world :=
    LabelledSystem.exists_reachable (.initial rfl) (heldPosts ++ [.destroyRequested 102])
      (by decide)
  obtain ⟨world, reached, closed⟩ := computed
  exact fun always => closed (always world reached)

end Rdma101.VerbsProbe
