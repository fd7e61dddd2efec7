/-
Module: Rdma101.VerbsProbe.Background
Purpose: The evidence for background progress.  A test thread that waits for a counter of the probe
  reads only the difference of two records of call statistics; over the trace of the sections of
  all threads, the wait returns and raises exactly as if it watched the calls themselves.
Trusted boundary: human-reviewed translation of VerbsProbe.assert_background_only and
  VerbsProbe._wait_for_counter (tests/verbs_probe.py)
Main exports: assertBackgroundOnly, waitForCounter, Found, Probe.runAll, background_wait_exact
-/
import Rdma101.VerbsProbe.Gate

namespace Rdma101.VerbsProbe

/-! ### The wait of a test

A wait compares two records of the call statistics.  Between two looks any number of sections of
any threads may run. -/

/-- How the wait for a counter ends. -/
inductive WaitOutcome where
  | returned (current : CallStats)
  | applicationPosted (current : CallStats)
  | applicationPolled (current : CallStats)
  | deadlinePassed (current : CallStats)
  /-- Not an end: the wait is still going on. -/
  | waiting
  /-- The probe has aborted the process. -/
  | aborted
deriving DecidableEq

/-- `VerbsProbe.assert_background_only`. -/
def assertBackgroundOnly (before current : CallStats) : Except WaitOutcome CallStats :=
  if current.applicationPosts ≠ before.applicationPosts then .error (.applicationPosted current)
  else if current.applicationPolls ≠ before.applicationPolls then
    .error (.applicationPolled current)
  else .ok current

/-- The counter that a wait reads: `wait_for_post` or `wait_for_completion`. -/
inductive Awaited where
  | postedWrs
  | completions
deriving DecidableEq

def Awaited.field : Awaited → CallStats → Nat
  | .postedWrs => CallStats.postedWrs
  | .completions => CallStats.completions

/-- The sections since the previous look, and the clock after this look. -/
structure Look where
  sections : List Event
  now : Nat
deriving DecidableEq

/-- A section, with the probe that it found. -/
structure Found where
  probe : Probe
  event : Event
deriving DecidableEq

/-- Some sections, one after the other. -/
def Probe.runAll (probe : Probe) : List Event → Option (Probe × List Found)
  | [] => some (probe, [])
  | event :: rest => do
      let next ← probe.step event
      let later ← next.runAll rest
      return (later.1, ⟨probe, event⟩ :: later.2)

/-- `VerbsProbe._wait_for_counter`, for the looks that are made up to now. -/
def waitForCounter (awaited : Awaited) (before : CallStats) (minimum : Int) (deadline : Nat) :
    Probe → List Look → WaitOutcome
  | _, [] => .waiting
  | probe, look :: rest =>
      match probe.runAll look.sections with
      | none => .aborted
      | some (probe, _) =>
          match assertBackgroundOnly before probe.calls with
          | .error outcome => outcome
          | .ok current =>
              if minimum ≤ (awaited.field current : Int) - awaited.field before then
                .returned current
              else if look.now < deadline then
                waitForCounter awaited before minimum deadline probe rest
              else .deadlinePassed current

/-! ### What the sections are

The reference that the counters are compared with: who made each call, and what it added.  It is
computed from the sections alone, without the statistics of the probe. -/

/-- The thread that posts or polls. -/
def Event.caller : Event → Option Nat
  | .postSend tid _ _ _ _ | .pollCq tid _ _ _ => some tid
  | _ => none

/-- The thread that holds or releases the completions. -/
def Event.holder : Event → Option Nat
  | .holdCompletions _ tid => some tid
  | _ => none

def Found.postedBy (thread : Nat) (found : Found) : Bool :=
  match found.event with
  | .postSend tid _ _ _ _ => tid = thread
  | _ => false

def Found.polledBy (thread : Nat) (found : Found) : Bool :=
  match found.event with
  | .pollCq tid _ _ _ => tid = thread
  | _ => false

/-- What a section adds to the counter: the accepted requests of a post, or the completions that a
poll delivers. -/
def Awaited.amount : Awaited → Found → Nat
  | .postedWrs, ⟨_, .postSend _ _ wrs result bad⟩ =>
      if result = 0 then wrs.length else min (bad.getD 0) wrs.length
  | .completions, ⟨probe, .pollCq _ _ _ polled⟩ =>
      if probe.pauseCompletions then 0 else (polled.getD []).length
  | _, _ => 0

/-- What has happened up to a look, since the record that the wait compares with. -/
structure Seen where
  found : List Found
  now : Nat
deriving DecidableEq

/-- The looks of a wait, as they see the sections themselves.  There are no more looks once the
probe has aborted. -/
def observe : Probe → List Found → List Look → List Seen
  | _, _, [] => []
  | probe, earlier, look :: rest =>
      match probe.runAll look.sections with
      | none => []
      | some (next, found) =>
          ⟨earlier ++ found, look.now⟩ :: observe next (earlier ++ found) rest

inductive Verdict where
  | enough
  | disturbed
  | late
deriving DecidableEq

/-- How the wait ends at a look that sees this, unless it goes on. -/
def Seen.verdict (awaited : Awaited) (thread minimum deadline : Nat) (seen : Seen) :
    Option Verdict :=
  if ∃ found ∈ seen.found, found.event.caller = some thread then some .disturbed
  else if minimum ≤ (seen.found.map awaited.amount).sum then some .enough
  else if seen.now < deadline then none
  else some .late

def WaitOutcome.verdict : WaitOutcome → Option Verdict
  | .returned _ => some .enough
  | .applicationPosted _ | .applicationPolled _ => some .disturbed
  | .deadlinePassed _ => some .late
  | .waiting | .aborted => none

/-! ### What the sections do to the call statistics

Every post and poll counts itself and what it brought, in total and once more when the
application thread made it; the other sections count nothing. -/

section Calls

variable (probe : Probe)

theorem calls_recordPostedWr (qp : Qp) (wr : SendWr) :
    (recordPostedWr qp wr probe).calls = probe.calls := by
  unfold recordPostedWr
  split
  · rfl
  · split
    · split <;> rfl
    · split <;> split <;> rfl

/-- The loop over the chain counts in the write counters only. -/
theorem calls_recordAccepted (qp : Qp) (result : Int) (bad : Option Nat) (index : Nat)
    (wrs : List SendWr) : (recordAccepted qp result bad index wrs probe).2.calls = probe.calls := by
  induction wrs generalizing index probe with
  | nil => rfl
  | cons request rest inductionHypothesis =>
      simp only [recordAccepted]
      split
      · rfl
      · rw [inductionHypothesis]
        split
        · exact calls_recordPostedWr probe qp request
        · rfl

theorem recordAccepted_cons {qp : Qp} {result : Int} {bad : Option Nat} {index : Nat}
    {request : SendWr} (rest : List SendWr)
    (accepted : ¬(result ≠ 0 ∧ (bad = none ∨ bad = some index))) :
    (recordAccepted qp result bad index (request :: rest) probe).1 =
      (recordAccepted qp result bad (index + 1) rest
        (if probe.trackWrites then recordPostedWr qp request probe else probe)).1 + 1 := by
  rw [recordAccepted, if_neg accepted]

/-- A post that succeeds accepts the whole chain. -/
theorem recordAccepted_count_of_success (qp : Qp) (bad : Option Nat) (wrs : List SendWr)
    (index : Nat) : (recordAccepted qp 0 bad index wrs probe).1 = wrs.length := by
  induction wrs generalizing index probe with
  | nil => rfl
  | cons request rest inductionHypothesis =>
      rw [recordAccepted_cons probe rest fun refused => refused.1 rfl, inductionHypothesis,
        List.length_cons]

/-- The number of requests that a failed post accepts from the one at `index` on. -/
theorem recordAccepted_count_of_failure (qp : Qp) {result : Int} (failure : result ≠ 0)
    {bad : Option Nat} (wrs : List SendWr) {index : Nat}
    (notPast : ∀ position, bad = some position → index ≤ position) :
    (recordAccepted qp result bad index wrs probe).1 = min (bad.getD 0 - index) wrs.length := by
  induction wrs generalizing index probe with
  | nil => simp [recordAccepted]
  | cons request rest inductionHypothesis =>
      rw [List.length_cons]
      cases bad with
      | none => simp [recordAccepted, failure]
      | some position =>
          by_cases last : position = index
          · simp [recordAccepted, failure, last]
          · have room := notPast position rfl
            have notPast' : ∀ other, some position = some other → index + 1 ≤ other := by
              intro other same
              obtain rfl := Option.some.inj same
              omega
            rw [recordAccepted_cons probe rest (by simp [last]), inductionHypothesis _ notPast',
              Option.getD_some]
            omega

theorem calls_recordSendCompletion (cq : Cq) (completion : WorkCompletion) :
    (recordSendCompletion cq completion probe).calls = probe.calls := by
  unfold recordSendCompletion
  split
  · rfl
  · split
    · rfl
    · split
      · split <;> rfl
      · split
        · rfl
        · split
          · rfl
          · split <;> rfl

/-- So does the loop over the completions. -/
theorem calls_recordPolled (cq : Cq) (count : Int) (polled : Option (List WorkCompletion)) :
    (recordPolled cq count polled probe).calls = probe.calls := by
  have all : ∀ (entries : List WorkCompletion) (probe : Probe),
      (entries.foldl (fun probe entry => recordSendCompletion cq entry probe) probe).calls =
        probe.calls := by
    intro entries
    induction entries with
    | nil => exact fun _ => rfl
    | cons entry rest inductionHypothesis =>
        exact fun probe =>
          (inductionHypothesis _).trans (calls_recordSendCompletion probe cq entry)
  cases polled with
  | none =>
      simp only [recordPolled]
      split <;> rfl
  | some entries => exact all entries _

theorem calls_countCompletions (tid delivered : Nat) :
    let after := countCompletions tid delivered probe
    after.calls.applicationTid = probe.calls.applicationTid ∧
    after.calls.applicationPosts = probe.calls.applicationPosts ∧
    after.calls.applicationPolls = probe.calls.applicationPolls ∧
    after.calls.postedWrs = probe.calls.postedWrs ∧
    after.calls.completions = probe.calls.completions + delivered := by
  unfold countCompletions
  split
  · rename_i none_
    exact ⟨rfl, rfl, rfl, rfl, none_ ▸ rfl⟩
  · exact ⟨rfl, rfl, rfl, rfl, rfl⟩

/-- A poll counts itself and the completions that it delivers. -/
theorem calls_observedPollCq {tid : Nat} {cq : Cq} {count : Int}
    {polled : Option (List WorkCompletion)} {after : Probe × PollResult}
    (returned : observedPollCq tid cq count polled probe = some after) :
    after.1.calls.applicationTid = probe.calls.applicationTid ∧
    after.1.calls.applicationPosts = probe.calls.applicationPosts ∧
    after.1.calls.applicationPolls = (countPoll tid probe).calls.applicationPolls ∧
    after.1.calls.postedWrs = probe.calls.postedWrs ∧
    after.1.calls.completions = probe.calls.completions +
      Awaited.completions.amount ⟨probe, .pollCq tid cq count polled⟩ := by
  have known : cq.context ∈ probe.contexts := by
    apply Classical.byContradiction
    intro unknown
    rw [observedPollCq, if_pos unknown] at returned
    cases returned
  cases held : probe.pauseCompletions with
  | true =>
      rw [observedPollCq_held known held] at returned
      obtain rfl := Option.some.inj returned
      refine ⟨rfl, rfl, rfl, rfl, ?_⟩
      simp [countPoll, Awaited.amount, held]
  | false =>
      rw [observedPollCq_open known held] at returned
      obtain rfl := Option.some.inj returned
      have recorded : (if probe.trackWrites then recordPolled cq count polled (countPoll tid probe)
          else countPoll tid probe).calls = (countPoll tid probe).calls := by
        split
        · exact calls_recordPolled _ cq count polled
        · rfl
      have amount : Awaited.completions.amount ⟨probe, .pollCq tid cq count polled⟩ =
          (polled.getD []).length := by
        rw [Awaited.amount, held, if_neg Bool.false_ne_true]
      obtain ⟨sameTid, posts, polls, postedWrs, completions⟩ := calls_countCompletions
        (if probe.trackWrites then recordPolled cq count polled (countPoll tid probe)
          else countPoll tid probe) tid (polled.getD []).length
      rw [recorded] at sameTid posts polls postedWrs completions
      exact ⟨sameTid, posts, polls, postedWrs, completions.trans (by rw [amount]; rfl)⟩

end Calls

/-- Since the record, the thread has posted and polled this often, and the counters have grown by
what the sections add to them. -/
structure Counted (thread : Nat) (found : List Found) (before after : CallStats) : Prop where
  application : after.applicationTid = thread
  posts : after.applicationPosts = before.applicationPosts + found.countP (Found.postedBy thread)
  polls : after.applicationPolls = before.applicationPolls + found.countP (Found.polledBy thread)
  field : ∀ awaited : Awaited,
    awaited.field after = awaited.field before + (found.map awaited.amount).sum

/-- What is counted adds up from one part of the trace to the next. -/
theorem Counted.append {thread : Nat} {earlier later : List Found} {before middle after : CallStats}
    (first : Counted thread earlier before middle) (second : Counted thread later middle after) :
    Counted thread (earlier ++ later) before after := by
  refine ⟨second.application, ?_, ?_, fun awaited => ?_⟩
  · rw [second.posts, first.posts, List.countP_append, Nat.add_assoc]
  · rw [second.polls, first.polls, List.countP_append, Nat.add_assoc]
  · rw [second.field, first.field, List.map_append, List.sum_append, Nat.add_assoc]

/-- A section that is neither a post nor a poll. -/
theorem counted_quiet {thread : Nat} {found : Found} {before after : CallStats}
    (quiet : found.event.caller = none) (application : after.applicationTid = thread)
    (posts : after.applicationPosts = before.applicationPosts)
    (polls : after.applicationPolls = before.applicationPolls)
    (field : ∀ awaited : Awaited, awaited.field after = awaited.field before) :
    Counted thread [found] before after := by
  obtain ⟨probe, event⟩ := found
  have nothing : Found.postedBy thread ⟨probe, event⟩ = false ∧
      Found.polledBy thread ⟨probe, event⟩ = false ∧
      ∀ awaited : Awaited, awaited.amount ⟨probe, event⟩ = 0 := by
    cases event with
    | postSend _ _ _ _ _ => cases quiet
    | pollCq _ _ _ _ => cases quiet
    | openDevice _ | closeDevice _ _ | createQp _ _ _ | modifiedQp _ _ _ _ | destroyRequested _
    | destroyQp _ _ | observeWrites _ | holdCompletions _ _ =>
        refine ⟨rfl, rfl, fun awaited => ?_⟩
        cases awaited <;> rfl
  obtain ⟨notPosted, notPolled, noAmount⟩ := nothing
  refine ⟨application, ?_, ?_, fun awaited => ?_⟩
  · simp [posts, notPosted]
  · simp [polls, notPolled]
  · simp [field, noAmount]

/-- One section of any thread. -/
theorem counted_step {thread : Nat} {probe next : Probe} {event : Event}
    (application : probe.calls.applicationTid = thread)
    (holder : ∀ tid, event.holder = some tid → tid = thread)
    (stepped : probe.step event = some next) :
    Counted thread [⟨probe, event⟩] probe.calls next.calls := by
  have resumed : ∀ (pointer : Nat) (event : Event), event.caller = none →
      Counted thread [⟨probe, event⟩] probe.calls (resumeForShutdown pointer probe).calls := by
    intro pointer event quiet
    unfold resumeForShutdown
    split
    · refine counted_quiet quiet application rfl rfl fun awaited => ?_
      cases awaited <;> rfl
    · exact counted_quiet quiet application rfl rfl fun _ => rfl
  cases event with
  | openDevice context =>
      obtain rfl := Option.some.inj stepped
      refine counted_quiet rfl application rfl rfl fun awaited => ?_
      cases awaited <;> rfl
  | closeDevice context result =>
      simp only [Probe.step, closeDevice] at stepped
      split at stepped
      · cases stepped
      · split at stepped <;> obtain rfl := Option.some.inj stepped
        · refine counted_quiet rfl application rfl rfl fun awaited => ?_
          cases awaited <;> rfl
        · exact counted_quiet rfl application rfl rfl fun _ => rfl
  | createQp qp maxSendWr sqSigAll =>
      obtain rfl := Option.some.inj stepped
      exact counted_quiet rfl application rfl rfl fun _ => rfl
  | modifiedQp pointer stateInMask target result =>
      obtain rfl := Option.some.inj stepped
      unfold modifiedQp
      split
      · exact resumed pointer _ rfl
      · exact counted_quiet rfl application rfl rfl fun _ => rfl
  | destroyRequested pointer =>
      obtain rfl := Option.some.inj stepped
      exact resumed pointer _ rfl
  | destroyQp pointer result =>
      obtain rfl := Option.some.inj stepped
      have same : (destroyQp pointer result probe).calls = probe.calls := by
        unfold destroyQp
        split
        · rfl
        · split
          · rfl
          · simp only
            split <;> rfl
      rw [same]
      exact counted_quiet rfl application rfl rfl fun _ => rfl
  | postSend tid qp wrs result bad =>
      have amount : (recordAccepted qp result bad 0 wrs (countPost tid qp probe)).1 =
          Awaited.postedWrs.amount ⟨probe, .postSend tid qp wrs result bad⟩ := by
        by_cases success : result = 0
        · subst success
          rw [recordAccepted_count_of_success, Awaited.amount, if_pos rfl]
        · rw [recordAccepted_count_of_failure _ _ success _ fun _ _ => Nat.zero_le _,
            Awaited.amount, if_neg success, Nat.sub_zero]
      have calls : next.calls = { (countPost tid qp probe).calls with
          postedWrs := probe.calls.postedWrs +
            Awaited.postedWrs.amount ⟨probe, .postSend tid qp wrs result bad⟩ } := by
        rw [← amount]
        have same := calls_recordAccepted (countPost tid qp probe) qp result bad 0 wrs
        simp only [Probe.step, observedPostSend] at stepped
        split at stepped
        · cases stepped
        · obtain rfl := Option.some.inj stepped
          split
          · simp only [countBatch, Probe.logSubtraction, same]
            rfl
          · simp only [same]
            rfl
      rw [calls]
      refine ⟨application, ?_, ?_, fun awaited => ?_⟩
      · simp only [countPost, application, List.countP_singleton, Found.postedBy,
          decide_eq_true_eq]
        split <;> rfl
      · rfl
      · cases awaited with
        | postedWrs => simp [Awaited.field]
        | completions => rfl
  | pollCq tid cq count polled =>
      obtain ⟨returned, polled', rfl⟩ := Option.map_eq_some_iff.mp stepped
      obtain ⟨sameTid, posts, polls, postedWrs, completions⟩ :=
        calls_observedPollCq probe polled'
      refine ⟨sameTid.trans application, posts, ?_, fun awaited => ?_⟩
      · rw [polls]
        simp only [countPoll, application, List.countP_singleton, Found.polledBy,
          decide_eq_true_eq]
        split <;> rfl
      · cases awaited with
        | postedWrs => exact postedWrs
        | completions => simpa [Awaited.field] using completions
  | observeWrites enabled =>
      obtain rfl := Option.some.inj stepped
      exact counted_quiet rfl application rfl rfl fun _ => rfl
  | holdCompletions paused tid =>
      obtain rfl := Option.some.inj stepped
      refine counted_quiet rfl (holder tid rfl) rfl rfl fun awaited => ?_
      cases awaited <;> rfl

/-! ### Every wait

By induction on the looks: at each of them the differences of the counters are the numbers of
the sections seen so far. -/

/-- All sections between two looks, by induction. -/
theorem counted_runAll {thread : Nat} {events : List Event} {probe final : Probe}
    {found : List Found} (application : probe.calls.applicationTid = thread)
    (holder : ∀ event ∈ events, ∀ tid, event.holder = some tid → tid = thread)
    (ran : probe.runAll events = some (final, found)) :
    Counted thread found probe.calls final.calls := by
  induction events generalizing probe found with
  | nil =>
      obtain ⟨rfl, rfl⟩ := Prod.mk.inj (Option.some.inj ran)
      exact ⟨application, rfl, rfl, fun _ => rfl⟩
  | cons event rest inductionHypothesis =>
      obtain ⟨next, stepped, later⟩ := Option.bind_eq_some_iff.mp ran
      obtain ⟨⟨final', found'⟩, ran', same⟩ := Option.bind_eq_some_iff.mp later
      obtain ⟨rfl, rfl⟩ := Prod.mk.inj (Option.some.inj same)
      have first := counted_step application (holder event (.head rest)) stepped
      exact first.append (inductionHypothesis first.application
        (fun other member => holder other (.tail event member)) ran')

/-- The application thread has left its counters alone exactly when it has made no call. -/
theorem Counted.undisturbed {thread : Nat} {found : List Found} {before after : CallStats}
    (counted : Counted thread found before after) :
    (∃ section_ ∈ found, section_.event.caller = some thread) ↔
      after.applicationPosts ≠ before.applicationPosts ∨
        after.applicationPolls ≠ before.applicationPolls := by
  have called : ∀ section_ : Found, section_.event.caller = some thread ↔
      Found.postedBy thread section_ = true ∨ Found.polledBy thread section_ = true := by
    rintro ⟨probe, event⟩
    cases event <;> simp [Event.caller, Found.postedBy, Found.polledBy]
  have posted := counted.posts
  have polled := counted.polls
  have moved : (after.applicationPosts ≠ before.applicationPosts ∨
      after.applicationPolls ≠ before.applicationPolls) ↔
      0 < found.countP (Found.postedBy thread) ∨ 0 < found.countP (Found.polledBy thread) := by
    omega
  rw [moved, List.countP_pos_iff, List.countP_pos_iff]
  constructor
  · rintro ⟨section_, member, caller⟩
    exact ((called section_).mp caller).imp (fun post => ⟨section_, member, post⟩)
      fun poll => ⟨section_, member, poll⟩
  · rintro (⟨section_, member, post⟩ | ⟨section_, member, poll⟩)
    · exact ⟨section_, member, (called section_).mpr (.inl post)⟩
    · exact ⟨section_, member, (called section_).mpr (.inr poll)⟩

/-- A look decides by the counters what the sections decide. -/
theorem verdict_waitForCounter (awaited : Awaited) {thread minimum deadline : Nat}
    {before : CallStats} (looks : List Look) {probe : Probe} {earlier : List Found}
    (counted : Counted thread earlier before probe.calls)
    (holder : ∀ look ∈ looks, ∀ event ∈ look.sections, ∀ tid,
      event.holder = some tid → tid = thread) :
    (waitForCounter awaited before minimum deadline probe looks).verdict =
      (observe probe earlier looks).findSome? (Seen.verdict awaited thread minimum deadline) := by
  induction looks generalizing probe earlier with
  | nil => rfl
  | cons look rest inductionHypothesis =>
      rw [waitForCounter, observe]
      cases ran : probe.runAll look.sections with
      | none => rfl
      | some reached =>
          obtain ⟨next, found⟩ := reached
          have counted' : Counted thread (earlier ++ found) before next.calls :=
            counted.append (counted_runAll counted.application (holder look (.head rest)) ran)
          have later := inductionHypothesis counted' fun other member =>
            holder other (.tail look member)
          have grown := counted'.field awaited
          have disturbed := counted'.undisturbed
          simp only [List.findSome?_cons, Seen.verdict, assertBackgroundOnly]
          by_cases posts : next.calls.applicationPosts = before.applicationPosts
          · by_cases polls : next.calls.applicationPolls = before.applicationPolls
            · have calm : ¬∃ section_ ∈ earlier ++ found, section_.event.caller = some thread := by
                rw [disturbed]
                simp [posts, polls]
              have enough : ((minimum : Int) ≤
                  (awaited.field next.calls : Int) - awaited.field before) ↔
                  minimum ≤ ((earlier ++ found).map awaited.amount).sum := by
                omega
              simp only [posts, polls, ne_eq, not_true_eq_false, if_false, calm, enough]
              split
              · rfl
              · split
                · exact later
                · rfl
            · have called := disturbed.mpr (.inr polls)
              simp only [posts, polls, ne_eq, not_true_eq_false, not_false_eq_true, if_false,
                if_true, called]
              rfl
          · have called := disturbed.mpr (.inl posts)
            simp only [posts, ne_eq, not_false_eq_true, if_true, called]
            rfl

/-- The evidence for background progress is exact.  Let a test thread hold the completions and take
the record `before`; whatever the threads of the process do from then on, in whatever order, while
no other thread holds or releases completions: a wait for posts or for completions ends as if it
saw the sections themselves.  It fails at the first look before which the test thread itself has
posted or polled, returns at the first one up to which background threads have got at least
`minimum` requests accepted, or completions delivered, and gives up only once the deadline has
passed before either. -/
theorem background_wait_exact (awaited : Awaited) (minimum deadline : Nat) {start probe : Probe}
    {earlier : List Event} {found : List Found} (looks : List Look)
    (ran : start.runAll earlier = some (probe, found))
    (holder : ∀ event ∈ earlier ++ looks.flatMap Look.sections, ∀ tid,
      event.holder = some tid → tid = start.calls.applicationTid) :
    (waitForCounter awaited start.calls minimum deadline probe looks).verdict =
      (observe probe found looks).findSome?
        (Seen.verdict awaited start.calls.applicationTid minimum deadline) := by
  refine verdict_waitForCounter awaited looks (counted_runAll rfl ?_ ran) ?_
  · exact fun event member => holder event (List.mem_append_left _ member)
  · intro look member event inLook
    exact holder event (List.mem_append_right _ (List.mem_flatMap.mpr ⟨look, member, inLook⟩))

/-- Thread 0 holds the completions of a device with one queue pair. -/
def heldProbe : Probe :=
  holdCompletions true 0 (createQp firstPoster 16 false (openDevice 1 {}))

/-- Thread 3 posts after the first look. -/
def workerPosts : List Look :=
  [⟨[], 1⟩, ⟨[.postSend 3 firstPoster [sampleWrite, sampleWrite] 0 none], 2⟩]

/-- The test thread polls before the worker posts. -/
def testPolls : List Look :=
  ⟨[.pollCq 0 ⟨7, 1⟩ 8 (some [])], 1⟩ :: workerPosts

theorem background_wait_exact_worker :
    (waitForCounter .postedWrs heldProbe.calls 2 5 heldProbe workerPosts).verdict =
        some .enough ∧
      (waitForCounter .postedWrs heldProbe.calls 2 5 heldProbe testPolls).verdict =
        some .disturbed := by
  have nobody : ∀ looks ∈ [workerPosts, testPolls], ∀ event ∈ [] ++ looks.flatMap Look.sections,
      event.holder = none := by decide
  refine ⟨?_, ?_⟩
  · have exact_ := @background_wait_exact .postedWrs 2 5 heldProbe heldProbe [] [] workerPosts rfl
      fun event member tid holds => by
        rw [nobody _ (.head _) event member] at holds
        cases holds
    exact exact_.trans (by decide)
  · have exact_ := @background_wait_exact .postedWrs 2 5 heldProbe heldProbe [] [] testPolls rfl
      fun event member tid holds => by
        rw [nobody _ (.tail _ (.head _)) event member] at holds
        cases holds
    exact exact_.trans (by decide)

end Rdma101.VerbsProbe
