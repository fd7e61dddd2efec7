/-
Module: Rdma101.Control.Published
Purpose: What a registration that returned normally promises in runs that lose replies: every
  peer that is ready has imported it.
Trusted boundary: none
Main exports: System.Covered, System.Promises, step_publishes, ready_not_one_sided
-/
import Rdma101.Control.OneSided

namespace Rdma101

open Wire ControlPlane ControlServicer

variable {Node : Type} [DecidableEq Node] {topology : Topology Node}
  {before after : System Node} {action : Action Node} {node other : Node}
  {key second : String} {own theirs earlier : Peer}

/-! ### The loop of `publish`

A registration moves forward at two kinds of step: the section that appends and selects the
peers, and a reply that lets the loop go on with the rest. -/

/-- The node publishes: its section appends and selects the ready peers, or it takes the reply of
a peer and goes on with the rest. -/
inductive Publishes (before : System Node) (node : Node) (metadata : Bytes) (snapshot : Snapshot)
    (peers : List Peer) (control : ControlPlane) : Prop where
  | append (registered : (before.engine node).operation = some (.registered metadata))
      (run : (publishAppend metadata).run (before.engine node).control =
        .ok (snapshot, peers) control)
  | goOn {past : Peer} {call : Nat} {rpc : Rpc Node} {reply : Reply}
      (running : (before.engine node).operation =
        some (.notifying metadata snapshot past peers call))
      (found : before.rpcs[call]? = some rpc) (answered : .ok reply ∈ rpc.answers)
      (same : control = (before.engine node).control)

theorem resume_publishes {operation : Operation} {call : Nat} {rpc : Rpc Node} {reply : Reply}
    {env : Environment} (running : (before.engine node).operation = some operation)
    (isCall : operation.call? = some call) (found : before.rpcs[call]? = some rpc)
    (answered : .ok reply ∈ rpc.answers)
    (taken : before.stepResume topology node operation reply env = some after) :
    ((∀ metadata, .publish metadata (.ok ()) ∈ (after.engine node).outcomes →
        .publish metadata (.ok ()) ∈ (before.engine node).outcomes) ∧
      ∀ metadata snapshot peer rest call, (after.engine node).operation =
          some (.notifying metadata snapshot peer rest call) →
        some operation = some (.notifying metadata snapshot peer rest call)) ∨
    ∃ metadata snapshot peers control, Publishes before node metadata snapshot peers control ∧
      after = before.notify topology node control metadata snapshot peers := by
  unfold System.stepResume at taken
  split at taken
  · refine .inl ?_
    dsimp only at taken
    split at taken <;>
      (rw [Option.some.injEq] at taken; subst taken; simp [Engine.finish, Engine.proceed])
  · refine .inl ?_
    dsimp only at taken
    split at taken <;>
      (rw [Option.some.injEq] at taken; subst taken; simp [Engine.finish])
  · rename_i metadata snapshot past rest number
    obtain rfl : number = call := by simpa [Operation.call?] using isCall
    rw [Option.some.injEq] at taken
    exact .inr ⟨metadata, snapshot, rest, _, .goOn running found answered rfl, taken.symm⟩
  · rw [Option.some.injEq] at taken
    exact .inl (by simp [← taken, Engine.finish])
  · simp at taken

/-- The registrations that a step brings to an end or lets go on are those of a node that
publishes. -/
theorem step_publishes (taken : before.step topology action = some after) (node : Node) :
    ((∀ metadata, .publish metadata (.ok ()) ∈ (after.engine node).outcomes →
        .publish metadata (.ok ()) ∈ (before.engine node).outcomes) ∧
      ∀ metadata snapshot peer rest call, (after.engine node).operation =
          some (.notifying metadata snapshot peer rest call) →
        (before.engine node).operation = some (.notifying metadata snapshot peer rest call)) ∨
    ∃ metadata snapshot peers control, Publishes before node metadata snapshot peers control ∧
      after = before.notify topology node control metadata snapshot peers := by
  by_cases acting : action.actor? = some node
  · cases action with
    | connect actor endpoint env =>
        obtain rfl := Option.some.inj acting
        simp only [System.step, Option.ite_none_right_eq_some, Option.some.injEq] at taken
        refine .inl ?_
        rw [← taken.2, System.stepConnect]
        split <;> simp [Engine.finish, Engine.proceed]
    | disconnect actor handle env =>
        obtain rfl := Option.some.inj acting
        simp only [System.step, Option.ite_none_right_eq_some, Option.some.injEq] at taken
        refine .inl ?_
        rw [← taken.2, System.stepDisconnect]
        split <;> simp [Engine.finish, Engine.proceed]
    | registerLocalMemory actor env =>
        obtain rfl := Option.some.inj acting
        simp only [System.step, Option.ite_none_right_eq_some, Option.some.injEq] at taken
        refine .inl ?_
        rw [← taken.2, System.stepRegister]
        split <;> simp [Engine.finish, Engine.proceed]
    | publish actor =>
        obtain rfl := Option.some.inj acting
        simp only [System.step] at taken
        split at taken
        · rename_i metadata registered
          rw [Option.some.injEq, System.stepPublish] at taken
          split at taken
          · exact .inl (by simp [← taken, Engine.finish])
          · rename_i snapshot peers control run
            exact .inr ⟨metadata, snapshot, peers, control, .append registered run, taken.symm⟩
        · simp at taken
    | handle => cases acting
    | resume actor index env =>
        obtain rfl := Option.some.inj acting
        simp only [System.step] at taken
        cases running : (before.engine actor).operation with
        | none => simp [running] at taken
        | some operation =>
            simp only [running] at taken
            split at taken
            · simp at taken
            · rw [Option.some.injEq] at taken
              refine .inl ?_
              rw [← taken, System.raiseRpcError]
              cases operation <;> simp [Engine.finish, Operation.rpcFailed]
            · rename_i reply answered
              obtain ⟨rpc, isRpc, isAnswer⟩ := Option.bind_eq_some_iff.mp answered
              obtain ⟨call, isCall, found⟩ := Option.bind_eq_some_iff.mp isRpc
              exact resume_publishes running isCall found (List.mem_of_getElem? isAnswer) taken
    | timeout actor =>
        obtain rfl := Option.some.inj acting
        simp only [System.step] at taken
        split at taken
        · simp at taken
        · split at taken
          · simp at taken
          · rename_i operation _ _
            rw [Option.some.injEq] at taken
            refine .inl ?_
            rw [← taken, System.raiseRpcError]
            cases operation <;> simp [Engine.finish, Operation.rpcFailed]
    | close actor =>
        obtain rfl := Option.some.inj acting
        simp only [System.step, Option.ite_none_right_eq_some, Option.some.injEq] at taken
        exact .inl (by simp [← taken.2])
  · rw [System.step_elsewhere taken acting]
    exact .inl ⟨fun _ => id, fun _ _ _ _ _ => id⟩

/-! ### How far the others have got

A count of registrations is covered when everybody has imported that many, except the peers that
are still to be notified.  A connect that is about to make a peer ready counts as well: the
snapshot that it will import must be new enough. -/

/-- The first `count` registrations of a node have reached every peer that is ready and connected
to one of its live peers, except those connected to the pending ones; and they will have reached
every peer that becomes ready. -/
structure System.Covered (system : System Node) (node : Node) (count : Nat)
    (pending : List Handle) : Prop where
  within : (system.engine node).control.closed = false →
    count ≤ (system.engine node).control.memoryMetadata.length
  ready : ∀ other key second own theirs, system.Linked node other key second own theirs →
    theirs.state = .ready → own.handle ∉ pending → (count : Int) ≤ theirs.remoteVersion
  /-- The reply that a connect of the other node is about to take is new enough. -/
  replying : ∀ other key second own theirs peer call rpc snapshot,
    system.Linked node other key second own theirs →
    (system.engine other).operation = some (.updating peer call) →
    peer.connectionId = theirs.connectionId → system.rpcs[call]? = some rpc →
    .ok (.snapshot snapshot) ∈ rpc.answers → own.handle ∉ pending →
    (count : Int) ≤ max (snapshot.version : Int) theirs.remoteVersion
  /-- The snapshot that a connect of the node itself has sent is new enough. -/
  updating : ∀ peer call rpc update,
    (system.engine node).operation = some (.updating peer call) →
    system.rpcs[call]? = some rpc → rpc.request = .ready update →
    count ≤ update.snapshot.version

/-- An answer that returned is an old one, or the handler gave it now. -/
theorem Transition.answered (transition : Transition topology before action after) {call : Nat}
    {later : Rpc Node} {reply : Reply} (found : after.rpcs[call]? = some later)
    (member : .ok reply ∈ later.answers) :
    ∃ rpc, before.rpcs[call]? = some rpc ∧ rpc.endpoint = later.endpoint ∧
      rpc.request = later.request ∧ (.ok reply ∈ rpc.answers ∨
        ∃ target, topology.resolve rpc.endpoint = some target ∧
          Request.Replies (topology.endpoint target) rpc.request reply
            (after.engine target).control) := by
  cases transition with
  | ended => exact ⟨later, found, rfl, rfl, .inl member⟩
  | registered => exact ⟨later, found, rfl, rfl, .inl member⟩
  | closed => exact ⟨later, found, rfl, rfl, .inl member⟩
  | sent =>
      rw [System.send_rpcs, System.setEngine_rpcs, List.getElem?_append] at found
      split at found
      · exact ⟨later, found, rfl, rfl, .inl member⟩
      · rw [List.getElem?_singleton] at found
        split at found
        · rw [Option.some.injEq] at found
          simp [← found] at member
        · simp at found
  | @handled number env rpc target control result isRpc reached effects replied =>
      rw [System.answer_getElem?, System.setEngine_rpcs] at found
      split at found
      · rename_i here
        rw [here, isRpc, Option.map_some, Option.some.injEq] at found
        subst found
        refine ⟨rpc, here ▸ isRpc, rfl, rfl, ?_⟩
        rcases List.mem_append.mp member with old | new
        · exact .inl old
        · refine .inr ⟨target, reached, ?_⟩
          simpa using replied reply (List.mem_singleton.mp new).symm
      · exact ⟨later, found, rfl, rfl, .inl member⟩

namespace LossyStep

/-- The registrations of an open engine only grow. -/
theorem memories (step : LossyStep topology before action after)
    (isOpen : (after.engine node).control.closed = false) :
    (before.engine node).control.memoryMetadata <+:
      (after.engine node).control.memoryMetadata := by
  obtain ⟨env, grant, _, evolves⟩ :=
    (step.transition.grows step.lossy.authentic.consistent).evolves node
  exact evolves.memories isOpen

theorem covered_within (step : LossyStep topology before action after) {count : Nat}
    {pending : List Handle} (covered : before.Covered node count pending)
    (isOpen : (after.engine node).control.closed = false) :
    count ≤ (after.engine node).control.memoryMetadata.length :=
  Nat.le_trans (covered.within (step.transition.was_open step.lossy.authentic isOpen))
    (step.memories isOpen).length_le

/-- A peer that is ready after a step has got as far. -/
theorem covered_ready (step : LossyStep topology before action after) {count : Nat}
    {pending : List Handle} (covered : before.Covered node count pending)
    (linked : after.Linked node other key second own theirs) (isReady : theirs.state = .ready)
    (notPending : own.handle ∉ pending) : (count : Int) ≤ theirs.remoteVersion := by
  obtain ⟨earlier, heldThere, succeeds, joined, became⟩ :=
    step.lossy.becameReady step.transition step.taken linked.heldThere isReady
  obtain ⟨mine, wasLinked, grew⟩ := step.linked linked heldThere succeeds joined
  rw [grew.sameObject.handle] at notPending
  have version := succeeds.version
  cases became with
  | was wasReady =>
      exact Int.le_trans
        (covered.ready other key second mine earlier wasLinked wasReady notPending) version
  | @handled call env rpc later update reply isHandle found reached isRequest addressed named
      foundAfter sameRequest sameCaller sameEndpoint returned =>
      have remote := succeeds.remote fun empty => joined
        ((((step.lossy.authentic.consistent other).formed heldThere).named heldThere).mpr empty)
      obtain ⟨isCaller, peer, running, _⟩ :=
        step.handled_ready isHandle wasLinked found isRequest (named.trans remote)
      have sent := covered.updating peer call rpc update running found isRequest
      -- The handler has taken the snapshot that the connect sent.
      have formed := (step.lossyAfter.authentic.consistent other).formed linked.heldThere
      obtain ⟨entry, held, acknowledges⟩ := step.lossyAfter.acknowledged later
        (List.mem_of_getElem? foundAfter) reply returned other (sameEndpoint ▸ reached)
        (by
          rw [sameCaller, isCaller]
          exact (step.lossyAfter.authentic.consistent node).open_of_held linked.held)
        ((step.lossyAfter.authentic.consistent other).open_of_held linked.heldThere)
      rw [sameRequest, isRequest] at held acknowledges
      obtain rfl : theirs = entry := by
        rw [Request.connection, addressed, formed.keyed linked.heldThere, linked.heldThere,
          Option.some.injEq] at held
        exact held
      have := acknowledges.2.2
      omega
  | finished _ running _ sameId found answered version' =>
      have := covered.replying other key second mine earlier _ _ _ _ wasLinked running
        (sameId.trans succeeds.sameObject.connectionId) found answered notPending
      omega

/-- What a connect of the other node is about to take is new enough after a step. -/
theorem covered_replying (step : LossyStep topology before action after) {count : Nat}
    {pending : List Handle} (covered : before.Covered node count pending) {peer : Peer}
    {call : Nat} {later : Rpc Node} {snapshot : Snapshot}
    (linked : after.Linked node other key second own theirs)
    (running : (after.engine other).operation = some (.updating peer call))
    (sameId : peer.connectionId = theirs.connectionId) (found : after.rpcs[call]? = some later)
    (answered : .ok (.snapshot snapshot) ∈ later.answers) (notPending : own.handle ∉ pending) :
    (count : Int) ≤ max (snapshot.version : Int) theirs.remoteVersion := by
  obtain ⟨rpc, isOld, sameEndpoint, sameRequest, given⟩ := step.transition.answered found answered
  rcases step.transition.operation_cases running with
    wasRunning | ⟨_, impossible⟩ | ⟨endpoint, request, sends, _⟩
  · obtain ⟨earlier, held, succeeds, joined⟩ :=
      step.updating_entry wasRunning linked.heldThere sameId
    obtain ⟨mine, wasLinked, grew⟩ := step.linked linked held succeeds joined
    rcases given with old | ⟨target, reached, replied⟩
    · rw [grew.sameObject.handle] at notPending
      have := covered.replying other key second mine earlier peer call rpc snapshot wasLinked
        wasRunning (sameId.trans succeeds.sameObject.connectionId) isOld old notPending
      have := succeeds.version
      omega
    · -- The handler of the node replies with all its registrations.
      obtain ⟨isMade, ⟨_, sent, isSent, _, isEndpoint, isRequest⟩, _⟩ :=
        step.lossy.authentic.operations other _ wasRunning
      obtain rfl : rpc = sent := by simpa [isOld] using isSent
      obtain rfl : target = node := by
        obtain ⟨isTarget, _⟩ := step.lossy.connected wasLinked
        rw [isEndpoint, ← step.lossy.authentic.entry_key isMade held
          (sameId.trans succeeds.sameObject.connectionId), isTarget, topology.resolve_endpoint,
          Option.some.injEq] at reached
        exact reached.symm
      rw [isRequest] at replied
      obtain rfl : snapshot = (after.engine target).control.snapshot := by
        simpa [Request.Replies] using replied
      have := step.covered_within covered
        ((step.lossyAfter.authentic.consistent target).open_of_held linked.held)
      simp only [ControlPlane.snapshot]
      omega
  · simp at impossible
  · -- A request that is sent now has no answers.
    generalize (before.engine other).operation = previous at sends
    cases sends with
    | update => simp at isOld

/-- What a connect of the node has sent is new enough after a step. -/
theorem covered_updating (step : LossyStep topology before action after) {count : Nat}
    {pending : List Handle} (covered : before.Covered node count pending) {peer : Peer}
    {call : Nat} {later : Rpc Node} {update : Update}
    (running : (after.engine node).operation = some (.updating peer call))
    (found : after.rpcs[call]? = some later) (isRequest : later.request = .ready update) :
    count ≤ update.snapshot.version := by
  rcases step.transition.operation_cases running with
    wasRunning | ⟨_, impossible⟩ | ⟨endpoint, request, sends, sent⟩
  · obtain ⟨_, ⟨_, rpc, isOld, _⟩, _⟩ := step.lossy.authentic.operations node _ wasRunning
    obtain ⟨known, isKnown, _, _, sameRequest⟩ := step.transition.rpcs isOld
    obtain rfl : later = known := by simpa [found] using isKnown
    exact covered.updating peer call rpc update wasRunning isOld (sameRequest ▸ isRequest)
  · simp at impossible
  · generalize (before.engine node).operation = previous at sends
    cases sends with
    | update held =>
        obtain ⟨known, isKnown, _, _, sameRequest⟩ := sent
        obtain rfl : later = known := by simpa [found] using isKnown
        rw [isRequest] at sameRequest
        obtain rfl := Request.ready.inj sameRequest
        exact step.covered_within covered
          ((step.lossyAfter.authentic.consistent node).open_of_held held)

/-- A step takes nothing back. -/
theorem covered (step : LossyStep topology before action after) {count : Nat}
    {pending : List Handle} (covered : before.Covered node count pending) :
    after.Covered node count pending where
  within := step.covered_within covered
  ready := fun _ _ _ _ _ linked => step.covered_ready covered linked
  replying := fun _ _ _ _ _ _ _ _ _ linked => step.covered_replying covered linked
  updating := fun _ _ _ _ => step.covered_updating covered

end LossyStep

/-! ### What the registrations promise

While it is published, a registration promises its place in the list up to the peers that are
left; once it has returned, nobody is left.  Errors promise nothing. -/

/-- The metadata are among the first `count` registrations of the open engine. -/
def ControlPlane.Lists (control : ControlPlane) (metadata : Bytes) (count : Nat) : Prop :=
  control.closed = false → metadata ∈ control.memoryMetadata.take count

/-- What a registration promises while it is published and once it has returned. -/
structure System.Promises (system : System Node) : Prop where
  notifying : ∀ node metadata snapshot peer rest call,
    (system.engine node).operation = some (.notifying metadata snapshot peer rest call) →
    system.Covered node snapshot.version ((peer :: rest).map Peer.handle) ∧
      (system.engine node).control.Lists metadata snapshot.version
  published : ∀ node metadata, .publish metadata (.ok ()) ∈ (system.engine node).outcomes →
    ∃ count, system.Covered node count [] ∧ (system.engine node).control.Lists metadata count

namespace LossyStep

theorem lists (step : LossyStep topology before action after) {count : Nat}
    {pending : List Handle} {metadata : Bytes} (covered : before.Covered node count pending)
    (listed : (before.engine node).control.Lists metadata count) :
    (after.engine node).control.Lists metadata count := by
  intro isOpen
  have wasOpen := step.transition.was_open step.lossy.authentic isOpen
  obtain ⟨more, grown⟩ := step.memories isOpen
  rw [← grown, List.take_append_of_le_length (covered.within wasOpen)]
  exact listed wasOpen

/-- When a node starts to publish, everybody who is ready is to be notified. -/
theorem announced (step : LossyStep topology before action after)
    (matched : after.Matched topology) (agreed : after.ReadyBothEnds) {metadata : Bytes}
    {snapshot : Snapshot} {peers : List Peer} {control : ControlPlane}
    (run : (publishAppend metadata).run (before.engine node).control =
      .ok (snapshot, peers) control)
    (isAfter : after = before.notify topology node control metadata snapshot peers) :
    after.Covered node snapshot.version (peers.map Peer.handle) ∧
      (after.engine node).control.Lists metadata snapshot.version := by
  have isControl : (after.engine node).control = control := by
    cases peers <;> simp [isAfter, System.notify, Engine.finish, Engine.proceed]
  have notUpdating : ∀ peer call,
      (after.engine node).operation ≠ some (.updating peer call) := by
    intro peer call
    cases peers <;> simp [isAfter, System.notify, Engine.finish, Engine.proceed]
  have isOpen : (before.engine node).control.closed = false := by
    cases isClosed : (before.engine node).control.closed with
    | false => rfl
    | true => simp [publishAppend, run_checkOpen, isClosed] at run
  rw [publishAppend_smooth isOpen] at run
  obtain ⟨isResult, rfl⟩ := EStateM.Result.ok.inj run
  obtain ⟨rfl, rfl⟩ := Prod.mk.inj isResult
  -- The peers that are ready are those to notify.
  have pending : ∀ key peer, (after.engine node).control.peers.get? key = some peer →
      peer.state = .ready → peer.handle ∈ ((before.engine node).control.peers.values.filter
        fun peer => peer.state = .ready).map Peer.handle := by
    intro key peer held isReady
    rw [isControl] at held
    exact List.mem_map_of_mem
      (List.mem_filter.mpr ⟨OrderedDict.mem_values.mpr ⟨key, held⟩, by simp [isReady]⟩)
  refine ⟨⟨fun _ => ?_, ?_, ?_, ?_⟩, fun _ => ?_⟩
  · rw [isControl]
    exact Nat.le_refl _
  · intro other key second own theirs linked isReady notPending
    rcases agreed node other key second own theirs linked isReady with
      ownReady | ⟨peer, call, running, _⟩
    · exact absurd (pending key own linked.held ownReady) notPending
    · exact absurd running (notUpdating peer call)
  · intro other key second own theirs peer call rpc reply linked running sameId found answered
      notPending
    exact absurd (pending key own linked.held
      (step.lossyAfter.replied_ready matched linked running sameId found answered)) notPending
  · intro peer call _ _ running
    exact absurd running (notUpdating peer call)
  · rw [isControl, List.take_of_length_le (by simp [ControlPlane.snapshot])]
    simp

/-- A peer whose node has answered its notification has got as far. -/
theorem notified (step : LossyStep topology before action after) {metadata : Bytes}
    {snapshot : Snapshot} {past : Peer} {peers : List Peer} {call : Nat} {rpc : Rpc Node}
    {reply : Reply}
    (running : (before.engine node).operation =
      some (.notifying metadata snapshot past peers call))
    (found : before.rpcs[call]? = some rpc) (answered : .ok reply ∈ rpc.answers)
    (linked : after.Linked node other key second own theirs)
    (isPast : own.handle = past.handle) : (snapshot.version : Int) ≤ theirs.remoteVersion := by
  have authenticAfter := step.lossyAfter.authentic
  obtain ⟨made, _, sent, isSent, isCaller, isEndpoint, isRequest⟩ :=
    step.lossy.authentic.operations node _ running
  obtain rfl : rpc = sent := by simpa [found] using isSent
  obtain ⟨later, isLater, sameCaller, sameEndpoint, sameRequest⟩ := step.transition.rpcs found
  obtain ⟨known, isKnown, _, grown⟩ := step.transition.answers found
  obtain rfl : later = known := by simpa [isLater] using isKnown
  have madeAfter : after.Made node past :=
    (step.transition.grows step.lossy.authentic.consistent).made (made past (by simp))
  have isKey := authenticAfter.entry_key madeAfter linked.held
    ((authenticAfter.sameObject madeAfter linked.held).mpr isPast).symm
  obtain ⟨isTarget, reached⟩ := step.lossyAfter.connected linked
  obtain ⟨entry, held, acknowledges⟩ := step.lossyAfter.acknowledged later
    (List.mem_of_getElem? isLater) reply (grown answered) other
    (by rw [sameEndpoint, isEndpoint, ← isKey, reached])
    (by
      rw [sameCaller, isCaller]
      exact (authenticAfter.consistent node).open_of_held linked.held)
    ((authenticAfter.consistent other).open_of_held linked.heldThere)
  rw [sameRequest, isRequest] at held acknowledges
  obtain rfl : theirs = entry := by
    have heldThere := linked.heldThere
    rw [isTarget] at heldThere
    exact Option.some.inj (heldThere.symm.trans held)
  exact acknowledges.2

/-- A node that publishes keeps its promise. -/
theorem publishes (step : LossyStep topology before action after)
    (matched : after.Matched topology) (agreed : after.ReadyBothEnds)
    (promises : before.Promises) {metadata : Bytes} {snapshot : Snapshot} {peers : List Peer}
    {control : ControlPlane}
    (publishes : Publishes before node metadata snapshot peers control)
    (isAfter : after = before.notify topology node control metadata snapshot peers) :
    after.Covered node snapshot.version (peers.map Peer.handle) ∧
      (after.engine node).control.Lists metadata snapshot.version := by
  cases publishes with
  | append registered run => exact step.announced matched agreed run isAfter
  | @goOn past call rpc reply running found answered same =>
      obtain ⟨wasCovered, listed⟩ := promises.notifying node _ _ _ _ _ running
      have covered := step.covered wasCovered
      refine ⟨⟨covered.within, ?_, ?_, covered.updating⟩, step.lists wasCovered listed⟩
      · intro other key second own theirs linked isReady notPending
        by_cases isPast : own.handle = past.handle
        · exact step.notified running found answered linked isPast
        · exact covered.ready other key second own theirs linked isReady
            (by simpa [isPast] using notPending)
      · intro other key second own theirs peer number known given linked updating sameId isKnown
          replied notPending
        by_cases isPast : own.handle = past.handle
        · have := step.notified running found answered linked isPast
          omega
        · exact covered.replying other key second own theirs peer number known given linked
            updating sameId isKnown replied (by simpa [isPast] using notPending)

theorem promises (step : LossyStep topology before action after)
    (matched : after.Matched topology) (agreed : after.ReadyBothEnds)
    (promises : before.Promises) : after.Promises where
  notifying := by
    intro node metadata snapshot peer rest call running
    rcases step_publishes step.taken node with
      ⟨_, old⟩ | ⟨metadata', snapshot', peers, control, publishes, isAfter⟩
    · obtain ⟨covered, listed⟩ := promises.notifying node _ _ _ _ _ (old _ _ _ _ _ running)
      exact ⟨step.covered covered, step.lists covered listed⟩
    · have kept := step.publishes matched agreed promises publishes isAfter
      cases peers with
      | nil => simp [isAfter, System.notify, Engine.finish] at running
      | cons first others =>
          obtain ⟨rfl, rfl, rfl, rfl, _⟩ : metadata' = metadata ∧ snapshot' = snapshot ∧
              first = peer ∧ others = rest ∧ before.rpcs.length = call := by
            simpa [isAfter, System.notify, Engine.proceed] using running
          exact kept
  published := by
    intro node metadata published
    have still : .publish metadata (.ok ()) ∈ (before.engine node).outcomes →
        ∃ count, after.Covered node count [] ∧
          (after.engine node).control.Lists metadata count := by
      intro old
      obtain ⟨count, covered, listed⟩ := promises.published node metadata old
      exact ⟨count, step.covered covered, step.lists covered listed⟩
    rcases step_publishes step.taken node with
      ⟨old, _⟩ | ⟨metadata', snapshot', peers, control, publishes, isAfter⟩
    · exact still (old metadata published)
    · have kept := step.publishes matched agreed promises publishes isAfter
      cases peers with
      | nil =>
          have member : .publish metadata (.ok ()) ∈ (before.engine node).outcomes ∨
              metadata = metadata' := by
            simpa [isAfter, System.notify, Engine.finish] using published
          rcases member with old | rfl
          · exact still old
          · exact ⟨snapshot'.version, kept⟩
      | cons first others =>
          exact still (by simpa [isAfter, System.notify, Engine.proceed] using published)

end LossyStep

/-! ### Runs -/

/-- The runs in which no connect gives up once its `Ready` has returned. -/
def System.Persevering (topology : Topology Node) (system : System Node) (action : Action Node) :
    Prop :=
  system.MayLoseReplies topology action ∧ ¬system.LeavesUnready action

theorem promises_of_reachable {system : System Node}
    (reached : (controlSystem topology).Reachable (System.Persevering topology) system) :
    system.ReadyBothEnds ∧ system.Promises := by
  let property (state : System Node) : Prop :=
    state.Matched topology ∧ state.ReadyBothEnds ∧ state.Promises
  have holds : property system := by
    refine reached.invariant_with (fun _ => lossy_of_reachable fun _ _ obeys => obeys.1)
      (fun state isStart => ?_) ?_
    · rw [show state = System.start from isStart]
      refine ⟨?_, ?_, ?_, ?_⟩
      · intro node other key second own theirs peer call linked
        have held := linked.held
        simp [System.start] at held
      · intro node other key second own theirs linked
        have held := linked.held
        simp [System.start] at held
      · simp [System.start]
      · simp [System.start]
    · rintro before action after lossy lossyAfter ⟨matched, agreed, promises⟩ ⟨mayLose, calm⟩ taken
      have step : LossyStep topology before action after :=
        ⟨lossy, lossyAfter, mayLose, taken, lossy.authentic.transition mayLose.fresh taken⟩
      have matchedAfter := step.matched matched
      have agreedAfter := step.readyBothEnds calm matched agreed
      exact ⟨matchedAfter, agreedAfter, step.promises matchedAfter agreedAfter promises⟩
  exact holds.2

/-! ### Runs that are computed -/

section Deciding

variable [Fintype Node]

instance (topology : Topology Node) (system : System Node) (action : Action Node) :
    Decidable (system.MayLoseReplies topology action) :=
  decidable_of_iff (system.FreshNames topology action ∧ action.NoDisconnect ∧
      system.LosesReplies action)
    ⟨fun ⟨fresh, noDisconnect, losesReplies⟩ => ⟨fresh, noDisconnect, losesReplies⟩,
      fun obeys => ⟨obeys.fresh, obeys.noDisconnect, obeys.losesReplies⟩⟩

instance (control : ControlPlane) (peer : Peer) : Decidable (control.Unready peer) :=
  inferInstanceAs (Decidable (∃ current ∈ control.peers.get? peer.endpoint, _))

instance (env : Environment) (control : ControlPlane) (peer : Peer)
    (answer : Except PyError Reply) : Decidable (env.FailsImport control peer answer) :=
  match answer with
  | .ok (.snapshot snapshot) => inferInstanceAs (Decidable
      ((∃ current ∈ control.peers.get? peer.endpoint, (snapshot.version : Int) >
        current.remoteVersion) ∧
      ∃ failure ∈ env.importFailure, failure.1 < snapshot.memories.length))
  | .ok (.offer _) | .ok .empty | .error _ => isFalse id

instance (system : System Node) (call : Nat) : Decidable (system.HasReturned call) :=
  inferInstanceAs (Decidable (∃ rpc ∈ system.rpcs[call]?, ∃ answer ∈ rpc.answers, _))

instance (system : System Node) (action : Action Node) : Decidable (system.LeavesUnready action) :=
  match action with
  | .timeout node =>
      match running : (system.engine node).operation with
      | some (.updating peer call) =>
          decidable_of_iff (system.HasReturned call ∧ (system.engine node).control.Unready peer)
            (by simp [System.LeavesUnready, running])
      | none | some (.offering _ _) | some (.registered _) | some (.notifying _ _ _ _ _)
      | some (.closing _ _) => isFalse (by simp [System.LeavesUnready, running])
  | .resume node index env =>
      match running : (system.engine node).operation with
      | some (.updating peer call) =>
          decidable_of_iff ((∃ rpc ∈ system.rpcs[call]?, ∃ answer ∈ rpc.answers[index]?,
              env.FailsImport (system.engine node).control peer answer) ∧
              (system.engine node).control.Unready peer)
            (by simp [System.LeavesUnready, running])
      | none | some (.offering _ _) | some (.registered _) | some (.notifying _ _ _ _ _)
      | some (.closing _ _) => isFalse (by simp [System.LeavesUnready, running])
  | .connect _ _ _ | .disconnect _ _ _ | .registerLocalMemory _ _ | .publish _ | .handle _ _
  | .close _ => isFalse id

instance (topology : Topology Node) (system : System Node) (action : Action Node) :
    Decidable (system.Persevering topology action) :=
  inferInstanceAs (Decidable (_ ∧ _))

end Deciding

/-- `alpha` loses the reply to its first offer, and then connects and registers a memory. -/
def connectAgain : List (Action Bool) :=
  [.connect false "beta" (.naming 1 "a1"), .handle 0 (.naming 1 "b1"), .timeout false,
    .connect false "beta" (.naming 2 "a2"), .handle 1 (.naming 2 "b2"), .resume false 0 .idle,
    .handle 2 (.naming 3 "b3"), .resume false 0 .idle, .registerLocalMemory false (.naming 7 ""),
    .publish false, .handle 3 (.naming 3 "b3"), .resume false 0 .idle]


/-! ### The theorem

The invariants of both ends and of the registrations are put together; a run that loses a reply
shows that the condition on the runs is needed. -/

/-- A connection that is ready at one end is ready at the other, or a connect that will make it so
is in progress; and a registration that returned has reached every node that is ready. -/
theorem ready_not_one_sided {system : System Node}
    (reached : (controlSystem topology).Reachable (System.Persevering topology) system)
    (linked : system.Linked node other key second own theirs) (isReady : theirs.state = .ready) :
    (own.state = .ready ∨ ∃ peer call,
      (system.engine node).operation = some (.updating peer call) ∧
        peer.connectionId = own.connectionId) ∧
    ∀ metadata, .publish metadata (.ok ()) ∈ (system.engine node).outcomes →
      (theirs.handle, metadata) ∈ (system.engine other).control.native.imports := by
  obtain ⟨agreed, promises⟩ := promises_of_reachable reached
  constructor
  · rcases agreed node other key second own theirs linked isReady with
      ownReady | ⟨peer, call, running, sameId, _⟩
    · exact .inl ownReady
    · exact .inr ⟨peer, call, running, sameId⟩
  · intro metadata published
    have lossy := lossy_of_reachable (fun _ _ obeys => obeys.1) reached
    obtain ⟨count, covered, listed⟩ := promises.published node metadata published
    have reaches := covered.ready other key second own theirs linked isReady (by simp)
    have isOpen := (lossy.authentic.consistent node).open_of_held linked.held
    have isTarget : topology.endpoint node = theirs.endpoint := by
      rw [((lossy.authentic.consistent other).formed linked.heldThere).keyed linked.heldThere,
        (lossy.connected linked).1]
    obtain ⟨imported, known⟩ := (importsPrefixes_of_reachable
      (fun _ _ obeys => obeys.1.fresh) reached other).prefixes second theirs linked.heldThere _
      ⟨node, isTarget, isOpen, rfl⟩
    refine (known.imports metadata).mpr
      ((List.take_sublist_take_left ?_).subset (listed isOpen))
    have := known.version
    omega

theorem ready_not_one_sided_pair : ∃ (system : System Bool) (own theirs : Peer),
    (system.engine false).control.peers.get? "beta" = some own ∧ own.state = .ready ∧
    (system.engine true).control.peers.get? "alpha" = some theirs ∧ theirs.state = .ready ∧
    (theirs.handle, [7]) ∈ (system.engine true).control.native.imports := by
  have computed : ∃ system, (controlSystem Topology.pair).Reachable
      (System.Persevering Topology.pair) system ∧
      ∃ own ∈ (system.engine false).control.peers.get? "beta",
      ∃ theirs ∈ (system.engine true).control.peers.get? "alpha",
        own.connectionId = theirs.remoteConnectionId ∧ theirs.state = .ready ∧
        (system.engine false).operation = none ∧
        .publish [7] (.ok ()) ∈ (system.engine false).outcomes :=
    LabelledSystem.exists_reachable (.initial rfl) connectAgain (by decide)
  obtain ⟨system, reached, own, held, theirs, heldThere, named, isReady, idle, published⟩ :=
    computed
  obtain ⟨ownReady | ⟨peer, call, running, _⟩, imported⟩ :=
    ready_not_one_sided reached ⟨held, heldThere, named⟩ isReady
  · exact ⟨system, own, theirs, held, ownReady, heldThere, isReady, imported [7] published⟩
  · simp [idle] at running

/-- `alpha` loses the reply to its `Ready` and then registers a memory. -/
def connectLosingReady : List (Action Bool) :=
  [.connect false "beta" (.naming 1 "a1"), .handle 0 (.naming 1 "b1"), .resume false 0 .idle,
    .handle 1 (.naming 2 "b2"), .timeout false, .registerLocalMemory false (.naming 7 ""),
    .publish false]

/-- A lost reply leaves `beta` ready and `alpha` not, with no connect in progress; `alpha` then
registers without an error a memory that `beta` never imports, and a connect of `beta` would return
at once. -/
theorem lost_ready_leaves_one_side : ∃ (system : System Bool) (own theirs : Peer),
    (controlSystem Topology.pair).Reachable (System.MayLoseReplies Topology.pair) system ∧
    system.Linked false true "beta" "alpha" own theirs ∧ theirs.state = .ready ∧
    own.state ≠ .ready ∧ (system.engine false).operation = none ∧
    .publish [7] (.ok ()) ∈ (system.engine false).outcomes ∧
    (theirs.handle, [7]) ∉ (system.engine true).control.native.imports ∧
    ∃ control, (connectOffer "beta" .idle "alpha").run (system.engine true).control =
      .ok (.inl theirs.handle) control := by
  have computed : ∃ system, (controlSystem Topology.pair).Reachable
      (System.MayLoseReplies Topology.pair) system ∧
      ∃ own ∈ (system.engine false).control.peers.get? "beta",
      ∃ theirs ∈ (system.engine true).control.peers.get? "alpha",
        own.connectionId = theirs.remoteConnectionId ∧ theirs.state = .ready ∧
        own.state ≠ .ready ∧ (system.engine false).operation = none ∧
        .publish [7] (.ok ()) ∈ (system.engine false).outcomes ∧
        (theirs.handle, [7]) ∉ (system.engine true).control.native.imports ∧
        (system.engine true).control.closed = false :=
    LabelledSystem.exists_reachable (.initial rfl) connectLosingReady (by decide)
  obtain ⟨system, reached, own, held, theirs, heldThere, named, isReady, notReady, idle,
    published, missing, isOpen⟩ := computed
  refine ⟨system, own, theirs, reached, ⟨held, heldThere, named⟩, isReady, notReady, idle,
    published, missing, (system.engine true).control, ?_⟩
  have found : (system.engine true).control.peers.get? "alpha" = some theirs := heldThere
  simp [run_connectOffer, isOpen, run_getOrCreatePeer, found, isReady]

end Rdma101
