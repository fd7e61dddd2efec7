/-
Module: Rdma101.VerbsProbe.Verbs
Purpose: The verbs probe of the tests: what it records of the queue pairs, the posted work requests
  and the completions that pass through it, and its gate in front of the completions.  Every
  function below is one section under the lock of the probe.  The counters of the source are
  `uint64_t`; here they are `Nat`, so sums never wrap, which is the source as long as no counter
  reaches 2^64.  Differences wrap as in the source.
Trusted boundary: human-reviewed translation of tests/verbs_probe.c
Main exports: Probe, recordPostedWr, recordSendCompletion, observedPostSend, observedPollCq,
  resumeForShutdown, Event, Probe.step
-/
import Mathlib.Algebra.GroupWithZero.Nat

namespace Rdma101.VerbsProbe

/-! ### The verbs objects that the probe looks at -/

inductive QpType where
  | rc
  | uc
  | ud
  | other (code : Nat)
deriving DecidableEq

/-- `struct ibv_qp`, with the address that identifies it. -/
structure Qp where
  pointer : Nat
  context : Nat
  qpType : QpType
  sendCq : Nat
  qpNum : UInt32
deriving DecidableEq

/-- `struct ibv_cq`. -/
structure Cq where
  pointer : Nat
  context : Nat
deriving DecidableEq

inductive WrOpcode where
  | rdmaWrite
  | rdmaWriteWithImm
  | send
  | rdmaRead
  | atomicCmpAndSwp
  | atomicFetchAndAdd
  | other (code : Nat)
deriving DecidableEq

/-- `struct ibv_send_wr`; a chain of requests is a list. -/
structure SendWr where
  wrId : UInt64
  opcode : WrOpcode
  signaled : Bool
deriving DecidableEq

/-- `struct ibv_wc`; `receive` is the bit `IBV_WC_RECV` of the opcode. -/
structure WorkCompletion where
  wrId : UInt64
  qpNum : UInt32
  success : Bool
  receive : Bool
deriving DecidableEq

inductive QpTransition where
  | reset
  | init
  | rtr
  | rts
  | sqd
  | sqe
  | err
deriving DecidableEq

/-! ### The records of the probe

The fields of the source, less the mutex.  Its linked lists are lists here; a record is found by
its pointer and changed in place. -/

structure CallStats where
  applicationTid : Nat := 0
  contexts : Nat := 0
  liveContexts : Nat := 0
  postCalls : Nat := 0
  postedWrs : Nat := 0
  applicationPosts : Nat := 0
  lastPostTid : Nat := 0
  pollCalls : Nat := 0
  heldPolls : Nat := 0
  applicationPolls : Nat := 0
  completions : Nat := 0
  applicationCompletions : Nat := 0
  lastCompletionTid : Nat := 0
  shutdownReleases : Nat := 0
deriving DecidableEq

structure WriteStats where
  posted : Nat := 0
  completed : Nat := 0
  signaled : Nat := 0
  cqes : Nat := 0
  inFlight : Nat := 0
  peakInFlight : Nat := 0
  postBatch : Nat := 0
  pollEntries : Nat := 0
  postErrors : Nat := 0
  completionErrors : Nat := 0
  capacityErrors : Nat := 0
  untrackedWrites : Nat := 0
deriving DecidableEq

structure SignaledWr where
  wrId : UInt64
  writeSequence : Nat
deriving DecidableEq

/-- `pending` is the list from `pending_head` to `pending_tail`. -/
structure QpState where
  qp : Qp
  sendCapacity : Nat
  signalAll : Bool
  posted : Nat := 0
  completed : Nat := 0
  pending : List SignaledWr := []
deriving DecidableEq

/-- The static record of the probe.  `subtractions` records the operands of every unsigned
subtraction between write counters. -/
structure Probe where
  contexts : List Nat := []
  queuePairs : List QpState := []
  calls : CallStats := {}
  writes : WriteStats := {}
  trackWrites : Bool := false
  pauseCompletions : Bool := false
  pausedQp : Option Nat := none
  subtractions : List (Nat × Nat) := []
deriving DecidableEq

/-- Subtraction of `uint64_t` values. -/
def subtract (minuend subtrahend : Nat) : Nat :=
  if subtrahend ≤ minuend then minuend - subtrahend else minuend + 2 ^ 64 - subtrahend

def Probe.logSubtraction (probe : Probe) (minuend subtrahend : Nat) : Probe :=
  { probe with subtractions := probe.subtractions ++ [(minuend, subtrahend)] }

/-- An assignment through the pointer to the first record that is found. -/
def modifyFirst {α : Type} (found : α → Bool) (change : α → α) : List α → List α
  | [] => []
  | first :: rest =>
      if found first then change first :: rest else first :: modifyFirst found change rest

def QpState.isQp (pointer : Nat) (state : QpState) : Bool := state.qp.pointer = pointer

def resetQpTracking (state : QpState) : QpState :=
  { state with pending := [], posted := 0, completed := 0 }

def observeWrites (enabled : Bool) (probe : Probe) : Probe :=
  { probe with
    queuePairs := probe.queuePairs.map resetQpTracking
    writes := if enabled then {} else probe.writes
    trackWrites := enabled }

def holdCompletions (paused : Bool) (tid : Nat) (probe : Probe) : Probe :=
  { probe with
    calls.applicationTid := tid
    pauseCompletions := paused
    pausedQp := none }

/-! ### Posting

The provider is called while the lock is held, so a whole post is one section, with the
provider's answer as an argument. -/

/-- The counters of one WRITE. -/
def countWrite (state : QpState) (stats : WriteStats) : WriteStats :=
  { stats with
    posted := stats.posted + 1
    inFlight := stats.inFlight + 1
    peakInFlight := max stats.peakInFlight (stats.inFlight + 1)
    capacityErrors :=
      if state.sendCapacity < subtract (state.posted + 1) state.completed then
        stats.capacityErrors + 1
      else stats.capacityErrors }

/-- A signaled request waits for its completion, with the number of WRITEs up to it. -/
def QpState.enqueue (wr : SendWr) (state : QpState) : QpState :=
  { state with pending := state.pending ++ [⟨wr.wrId, state.posted⟩] }

def recordPostedWr (qp : Qp) (wr : SendWr) (probe : Probe) : Probe :=
  if qp.qpType ≠ .rc then probe
  else match probe.queuePairs.find? (QpState.isQp qp.pointer) with
    | none =>
        if wr.opcode = .rdmaWrite then
          { probe with writes.untrackedWrites := probe.writes.untrackedWrites + 1 }
        else probe
    | some state =>
        let probe :=
          if wr.opcode = .rdmaWrite then
            { probe.logSubtraction (state.posted + 1) state.completed with
              queuePairs := modifyFirst (QpState.isQp qp.pointer)
                (fun state => { state with posted := state.posted + 1 }) probe.queuePairs
              writes := countWrite state probe.writes }
          else probe
        if !state.signalAll && !wr.signaled then probe
        else
          { probe with
            queuePairs := modifyFirst (QpState.isQp qp.pointer) (QpState.enqueue wr)
              probe.queuePairs
            writes.signaled :=
              if wr.opcode = .rdmaWrite then probe.writes.signaled + 1
              else probe.writes.signaled }

/-- The loop over the chain, from the request with this index on: the number of accepted requests
and the probe.  `bad` is the index of the request that `*bad_wr` points to, and `none` when there
is no such pointer. -/
def recordAccepted (qp : Qp) (result : Int) (bad : Option Nat) :
    Nat → List SendWr → Probe → Nat × Probe
  | _, [], probe => (0, probe)
  | index, request :: rest, probe =>
      if result ≠ 0 ∧ (bad = none ∨ bad = some index) then (0, probe)
      else
        let later := recordAccepted qp result bad (index + 1) rest
          (if probe.trackWrites then recordPostedWr qp request probe else probe)
        (later.1 + 1, later.2)

/-- What the post call counts before it calls the provider. -/
def countPost (tid : Nat) (qp : Qp) (probe : Probe) : Probe :=
  { probe with
    calls.postCalls := probe.calls.postCalls + 1
    calls.lastPostTid := tid
    calls.applicationPosts :=
      if tid = probe.calls.applicationTid then probe.calls.applicationPosts + 1
      else probe.calls.applicationPosts
    pausedQp :=
      if probe.pauseCompletions && probe.pausedQp.isNone then some qp.pointer
      else probe.pausedQp }

/-- The bookkeeping of a whole post, when writes are tracked. -/
def countBatch (qp : Qp) (wrs : List SendWr) (result : Int) (bad : Option Nat)
    (writesBefore : Nat) (probe : Probe) : Probe :=
  let failedWrite := result ≠ 0 ∧ qp.qpType = .rc ∧
    ∃ request ∈ bad.bind fun index => wrs[index]?, request.opcode = .rdmaWrite
  { probe.logSubtraction probe.writes.posted writesBefore with
    writes := { probe.writes with
      postErrors := if failedWrite then probe.writes.postErrors + 1 else probe.writes.postErrors
      postBatch := max probe.writes.postBatch (subtract probe.writes.posted writesBefore) } }

/-- The provider has answered with `result` and `bad`.  There is no next state when the probe
aborts. -/
def observedPostSend (tid : Nat) (qp : Qp) (wrs : List SendWr) (result : Int) (bad : Option Nat)
    (probe : Probe) : Option Probe :=
  if qp.context ∉ probe.contexts then none
  else
    let probe := countPost tid qp probe
    let writesBefore := probe.writes.posted
    let recorded := recordAccepted qp result bad 0 wrs probe
    let probe := { recorded.2 with
      calls.postedWrs := recorded.2.calls.postedWrs + recorded.1 }
    some (if probe.trackWrites then countBatch qp wrs result bad writesBefore probe else probe)

/-! ### Polling

While completions are held a poll returns nothing without asking the provider; otherwise each
completion it delivers is recorded. -/

def QpState.completes (cq : Cq) (completion : WorkCompletion) (state : QpState) : Bool :=
  state.qp.sendCq = cq.pointer ∧ state.qp.qpNum = completion.qpNum

def Probe.completionError (probe : Probe) : Probe :=
  { probe with writes.completionErrors := probe.writes.completionErrors + 1 }

/-- The first signaled request has completed, and with it the WRITEs up to it. -/
def QpState.retire (state : QpState) (signaled : SignaledWr) : QpState :=
  { state with completed := signaled.writeSequence, pending := state.pending.tail }

def recordSendCompletion (cq : Cq) (completion : WorkCompletion) (probe : Probe) : Probe :=
  match probe.queuePairs.find? (QpState.completes cq completion) with
  | none => probe
  | some state =>
      if state.qp.qpType ≠ .rc then probe
      else if !completion.success then
        if state.posted ≠ state.completed then probe.completionError else probe
      else if completion.receive then probe
      else match state.pending with
        | [] => probe.completionError
        | signaled :: _ =>
            if signaled.wrId ≠ completion.wrId then probe.completionError
            else
              let retired := subtract signaled.writeSequence state.completed
              let probe := probe.logSubtraction signaled.writeSequence state.completed
              let probe := probe.logSubtraction probe.writes.inFlight retired
              { probe with
                queuePairs := modifyFirst (QpState.completes cq completion)
                  (fun state => state.retire signaled) probe.queuePairs
                writes.completed := probe.writes.completed + retired
                writes.inFlight := subtract probe.writes.inFlight retired
                writes.cqes :=
                  if retired ≠ 0 then probe.writes.cqes + 1 else probe.writes.cqes }

def countPoll (tid : Nat) (probe : Probe) : Probe :=
  { probe with
    calls.pollCalls := probe.calls.pollCalls + 1
    calls.applicationPolls :=
      if tid = probe.calls.applicationTid then probe.calls.applicationPolls + 1
      else probe.calls.applicationPolls }

/-- What a poll does to the write counters; `polled` is what the provider delivers, and `none` when
it fails. -/
def recordPolled (cq : Cq) (count : Int) (polled : Option (List WorkCompletion))
    (probe : Probe) : Probe :=
  let probe := { probe with
    writes.pollEntries :=
      if 0 < probe.writes.inFlight ∧ 0 < count then max probe.writes.pollEntries count.toNat
      else probe.writes.pollEntries }
  match polled with
  | none => if 0 < probe.writes.inFlight then probe.completionError else probe
  | some entries => entries.foldl (fun probe entry => recordSendCompletion cq entry probe) probe

def countCompletions (tid : Nat) (delivered : Nat) (probe : Probe) : Probe :=
  if delivered = 0 then probe
  else
    { probe with
      calls.completions := probe.calls.completions + delivered
      calls.lastCompletionTid := tid
      calls.applicationCompletions :=
        if tid = probe.calls.applicationTid then probe.calls.applicationCompletions + delivered
        else probe.calls.applicationCompletions }

/-- What a poll returns to its caller. -/
structure PollResult where
  result : Int
  calledProvider : Bool
deriving DecidableEq

def observedPollCq (tid : Nat) (cq : Cq) (count : Int) (polled : Option (List WorkCompletion))
    (probe : Probe) : Option (Probe × PollResult) :=
  if cq.context ∉ probe.contexts then none
  else
    let probe := countPoll tid probe
    if probe.pauseCompletions then
      some ({ probe with calls.heldPolls := probe.calls.heldPolls + 1 }, ⟨0, false⟩)
    else
      let probe := if probe.trackWrites then recordPolled cq count polled probe else probe
      let delivered := (polled.getD []).length
      some (countCompletions tid delivered probe,
        ⟨if polled.isNone then -1 else delivered, true⟩)

/-! ### Devices and queue pairs -/

def openDevice (context : Nat) (probe : Probe) : Probe :=
  { probe with
    contexts := context :: probe.contexts
    calls.contexts := probe.calls.contexts + 1
    calls.liveContexts := probe.calls.liveContexts + 1 }

def closeDevice (context : Nat) (result : Int) (probe : Probe) : Option Probe :=
  if context ∉ probe.contexts then none
  else if result = 0 then
    some { probe with
      contexts := probe.contexts.erase context
      calls.liveContexts := subtract probe.calls.liveContexts 1 }
  else some probe

def createQp (qp : Qp) (maxSendWr : UInt32) (sqSigAll : Bool) (probe : Probe) : Probe :=
  { probe with
    queuePairs := ⟨qp, maxSendWr.toNat, sqSigAll, 0, 0, []⟩ :: probe.queuePairs }

/-- `resume_for_shutdown`. -/
def resumeForShutdown (pointer : Nat) (probe : Probe) : Probe :=
  if probe.pauseCompletions && probe.pausedQp == some pointer then
    { probe with
      pauseCompletions := false
      pausedQp := none
      calls.shutdownReleases := probe.calls.shutdownReleases + 1 }
  else probe

/-- What follows the provider's call in `ibv_modify_qp`. -/
def modifiedQp (pointer : Nat) (stateInMask : Bool) (target : QpTransition) (result : Int)
    (probe : Probe) : Probe :=
  if result = 0 ∧ stateInMask ∧ (target = .err ∨ target = .reset) then
    resumeForShutdown pointer probe
  else probe

/-- The second section of `ibv_destroy_qp`. -/
def destroyQp (pointer : Nat) (result : Int) (probe : Probe) : Probe :=
  if result ≠ 0 then probe
  else match probe.queuePairs.find? (QpState.isQp pointer) with
    | none => probe
    | some state =>
        let unretired := subtract state.posted state.completed
        let probe :=
          if probe.trackWrites then
            let logged := (probe.logSubtraction state.posted state.completed).logSubtraction
              probe.writes.inFlight unretired
            { logged with writes.inFlight := subtract probe.writes.inFlight unretired }
          else probe
        { probe with queuePairs := probe.queuePairs.eraseP (QpState.isQp pointer) }

/-! ### Runs -/

/-- One section, with what the provider answers in it. -/
inductive Event where
  | openDevice (context : Nat)
  | closeDevice (context : Nat) (result : Int)
  | createQp (qp : Qp) (maxSendWr : UInt32) (sqSigAll : Bool)
  | modifiedQp (pointer : Nat) (stateInMask : Bool) (target : QpTransition) (result : Int)
  | destroyRequested (pointer : Nat)
  | destroyQp (pointer : Nat) (result : Int)
  | postSend (tid : Nat) (qp : Qp) (wrs : List SendWr) (result : Int) (bad : Option Nat)
  | pollCq (tid : Nat) (cq : Cq) (count : Int) (polled : Option (List WorkCompletion))
  | observeWrites (enabled : Bool)
  | holdCompletions (paused : Bool) (tid : Nat)
deriving DecidableEq

def Probe.step (probe : Probe) : Event → Option Probe
  | .openDevice context => some (openDevice context probe)
  | .closeDevice context result => closeDevice context result probe
  | .createQp qp maxSendWr sqSigAll => some (createQp qp maxSendWr sqSigAll probe)
  | .modifiedQp pointer stateInMask target result =>
      some (modifiedQp pointer stateInMask target result probe)
  | .destroyRequested pointer => some (resumeForShutdown pointer probe)
  | .destroyQp pointer result => some (destroyQp pointer result probe)
  | .postSend tid qp wrs result bad => observedPostSend tid qp wrs result bad probe
  | .pollCq tid cq count polled => (observedPollCq tid cq count polled probe).map Prod.fst
  | .observeWrites enabled => some (observeWrites enabled probe)
  | .holdCompletions paused tid => some (holdCompletions paused tid probe)

end Rdma101.VerbsProbe
