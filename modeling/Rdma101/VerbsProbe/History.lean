/-
Module: Rdma101.VerbsProbe.History
Purpose: The true history of the work requests behind the counters of the probe: for each queue
  pair the accepted requests and how many of its signaled ones have completed, and what it means
  that a provider is honest about them.
Trusted boundary: human-reviewed statement of what the verbs provider promises
Main exports: History, splitAtSignal, marks, EvidenceWorld, evidenceSystem, Honest
-/
import Rdma101.VerbsProbe.Accounting

namespace Rdma101.VerbsProbe

/-- A queue pair since the measurement began: the send requests that the provider has accepted, and
how many completions of signaled ones have been delivered. -/
structure History where
  qp : Qp
  sendCapacity : Nat
  signalAll : Bool
  accepted : List SendWr := []
  delivered : Nat := 0
deriving DecidableEq

def SendWr.isWrite (wr : SendWr) : Bool := wr.opcode = .rdmaWrite

/-- The number of WRITEs. -/
def writeCount (wrs : List SendWr) : Nat := wrs.countP SendWr.isWrite

/-- The requests up to the signaled one with this number, counted from one, and the others. -/
def splitAtSignal (signaled : SendWr → Bool) : Nat → List SendWr → List SendWr × List SendWr
  | 0, wrs => ([], wrs)
  | _ + 1, [] => ([], [])
  | signals + 1, wr :: rest =>
      let later := splitAtSignal signaled (if signaled wr then signals else signals + 1) rest
      (wr :: later.1, later.2)

/-- The signaled requests, each with the number of WRITEs up to it. -/
def marks (signaled : SendWr → Bool) : Nat → List SendWr → List SignaledWr
  | _, [] => []
  | count, wr :: rest =>
      let count := if wr.isWrite then count + 1 else count
      if signaled wr then ⟨wr.wrId, count⟩ :: marks signaled count rest
      else marks signaled count rest

namespace History

def signals (history : History) (wr : SendWr) : Bool := history.signalAll || wr.signaled

/-- The requests at or before the last signaled one whose completion has been delivered. -/
def covered (history : History) : List SendWr :=
  (splitAtSignal history.signals history.delivered history.accepted).1

/-- The requests after it. -/
def uncovered (history : History) : List SendWr :=
  (splitAtSignal history.signals history.delivered history.accepted).2

def isQp (pointer : Nat) (history : History) : Bool := history.qp.pointer = pointer

def completes (cq : Cq) (completion : WorkCompletion) (history : History) : Bool :=
  history.qp.sendCq = cq.pointer ∧ history.qp.qpNum = completion.qpNum

def accept (wr : SendWr) (history : History) : History :=
  { history with accepted := history.accepted ++ [wr] }

def deliver (history : History) : History :=
  { history with delivered := history.delivered + 1 }

/-- With this WRITE, the queue pair has more unretired WRITEs than it has room for. -/
def Overruns (history : History) (wr : SendWr) : Prop :=
  wr.isWrite = true ∧ history.sendCapacity <
    writeCount (history.accepted ++ [wr]) - writeCount history.covered

instance (history : History) (wr : SendWr) : Decidable (history.Overruns wr) :=
  inferInstanceAs (Decidable (_ ∧ _))

end History

/-- The probe next to the histories of the live and of the destroyed queue pairs, and the number of
accepted WRITEs that overran their queue pair. -/
structure EvidenceWorld where
  probe : Probe
  live : List History
  gone : List History := []
  overruns : Nat := 0
deriving DecidableEq

/-- The requests of a chain that the provider accepts. -/
def acceptedWrs (wrs : List SendWr) (result : Int) (bad : Option Nat) : List SendWr :=
  if result = 0 then wrs else wrs.take (bad.getD 0)

/-- The provider accepts one request on an RC queue pair. -/
def acceptWr (qp : Qp) (histories : List History × Nat) (wr : SendWr) : List History × Nat :=
  match histories.1.find? (History.isQp qp.pointer) with
  | none => histories
  | some history =>
      (modifyFirst (History.isQp qp.pointer) (History.accept wr) histories.1,
        if history.Overruns wr then histories.2 + 1 else histories.2)

/-- The provider delivers one completion.  Those of RC queue pairs that are not receives retire the
next signaled request. -/
def deliverCompletion (cq : Cq) (histories : List History) (completion : WorkCompletion) :
    List History :=
  match histories.find? (History.completes cq completion) with
  | none => histories
  | some history =>
      if history.qp.qpType = .rc ∧ completion.receive = false then
        modifyFirst (History.completes cq completion) History.deliver histories
      else histories

/-- What really happens at an event. -/
def EvidenceWorld.note (world : EvidenceWorld) (probe : Probe) : Event → EvidenceWorld
  | .createQp qp maxSendWr sqSigAll =>
      { world with
        probe := probe
        live := { qp := qp, sendCapacity := maxSendWr.toNat, signalAll := sqSigAll } :: world.live }
  | .destroyQp pointer result =>
      if result = 0 then
        { world with
          probe := probe
          live := world.live.eraseP (History.isQp pointer)
          gone := (world.live.find? (History.isQp pointer)).toList ++ world.gone }
      else { world with probe := probe }
  | .postSend _ qp wrs result bad =>
      if qp.qpType = .rc then
        let histories := (acceptedWrs wrs result bad).foldl (acceptWr qp)
          (world.live, world.overruns)
        { world with probe := probe, live := histories.1, overruns := histories.2 }
      else { world with probe := probe }
  | .pollCq _ cq _ polled =>
      if world.probe.pauseCompletions then { world with probe := probe }
      else
        { world with
          probe := probe
          live := (polled.getD []).foldl (deliverCompletion cq) world.live }
  | _ => { world with probe := probe }

/-- The queue pair has no outstanding requests. -/
def QpState.newHistory (state : QpState) : History where
  qp := state.qp
  sendCapacity := state.sendCapacity
  signalAll := state.signalAll

/-- A measurement starts with no outstanding requests. -/
def EvidenceWorld.start (probe : Probe) : EvidenceWorld where
  probe := observeWrites true probe
  live := probe.queuePairs.map QpState.newHistory

/-- The measurement may start at any point in the life of a probe. -/
def evidenceSystem : LabelledSystem EvidenceWorld Event where
  Initial world := ∃ before : AccountingWorld,
    accountingSystem.Reachable (fun _ _ => True) before ∧ world = EvidenceWorld.start before.probe
  step world event := (world.probe.step event).map fun probe => world.note probe event

/-- A completion that the provider may deliver: on an RC queue pair, a successful receive, or the
success of the next signaled request in posting order. -/
def Genuine (cq : Cq) (histories : List History) (completion : WorkCompletion) : Prop :=
  ∀ history ∈ histories, history.completes cq completion = true → history.qp.qpType = .rc →
    completion.success = true ∧ (completion.receive = false →
      ((history.accepted.filter history.signals)[history.delivered]?.map SendWr.wrId) =
        some completion.wrId)

instance (cq : Cq) (histories : List History) (completion : WorkCompletion) :
    Decidable (Genuine cq histories completion) :=
  inferInstanceAs (Decidable (∀ history ∈ histories, _))

/-- The completions of one poll, each after the ones before it. -/
def GenuineAll (cq : Cq) : List History → List WorkCompletion → Prop
  | _, [] => True
  | histories, completion :: rest =>
      Genuine cq histories completion ∧
        GenuineAll cq (deliverCompletion cq histories completion) rest

instance decidableGenuineAll (cq : Cq) : (histories : List History) →
    (completions : List WorkCompletion) → Decidable (GenuineAll cq histories completions)
  | _, [] => isTrue trivial
  | histories, completion :: rest =>
      have := decidableGenuineAll cq (deliverCompletion cq histories completion) rest
      inferInstanceAs (Decidable (Genuine cq histories completion ∧ _))

/-- The provider keeps its promises during the measurement: RC queue pairs that are posted on were
created under the probe, a post that fails names the first request it refused, polls succeed and
their completions are genuine. -/
def Honest (world : EvidenceWorld) : Event → Prop
  | .postSend _ qp _ result bad =>
      (qp.qpType = .rc → ∃ history ∈ world.live, history.qp = qp) ∧
        (result ≠ 0 → bad.isSome = true)
  | .pollCq _ cq _ polled =>
      world.probe.pauseCompletions = true ∨
        (polled.isSome = true ∧ GenuineAll cq world.live (polled.getD []))
  | .observeWrites _ => False
  | _ => True

instance (world : EvidenceWorld) : (event : Event) → Decidable (Honest world event)
  | .postSend _ _ _ _ _ => inferInstanceAs (Decidable (_ ∧ _))
  | .pollCq _ _ _ _ => inferInstanceAs (Decidable (_ ∨ _))
  | .observeWrites _ => inferInstanceAs (Decidable False)
  | .openDevice _ | .closeDevice _ _ | .createQp _ _ _ | .modifiedQp _ _ _ _
  | .destroyRequested _ | .destroyQp _ _ | .holdCompletions _ _ => inferInstanceAs (Decidable True)

end Rdma101.VerbsProbe
