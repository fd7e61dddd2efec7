/-
Module: Rdma101.Control.OneSided
Purpose: When a connect that fails leaves a connection ready at one end only: the peer at the
  other end is ready, or its connect is still in progress, in every run in which no connect
  gives up after its Ready has returned.
Trusted boundary: none
Main exports: BecameReady, Lossy.becameReady, System.ReadyBothEnds, LossyStep,
  LossyStep.readyBothEnds
-/
import Rdma101.Control.LostReplies

namespace Rdma101

open Wire ControlPlane ControlServicer

variable {Node : Type} [DecidableEq Node] {topology : Topology Node}
  {before after : System Node} {action : Action Node} {node other : Node}
  {key second : String} {own theirs earlier : Peer}

/-! ### How a peer becomes ready

A ready peer was marked by the handler of a `Ready` or by the end of its own connect.  The proof
looks at the step that did it, and at the operation of the other end at that time. -/

/-- The ways in which an entry of `other` is ready after a step: it was, the handler of a `Ready`
marked it, or the connect of its own node took the reply to its `Ready`. -/
inductive BecameReady (topology : Topology Node) (before after : System Node)
    (action : Action Node) (other : Node) (earlier theirs : Peer) : Prop where
  | was (wasReady : earlier.state = .ready)
  | handled {call : Nat} {env : Environment} {rpc later : Rpc Node} {update : Update}
      {reply : Reply} (isHandle : action = .handle call env)
      (found : before.rpcs[call]? = some rpc)
      (reached : topology.resolve rpc.endpoint = some other)
      (isReady : rpc.request = .ready update)
      (addressed : update.connection.endpoint = theirs.endpoint)
      (named : update.connection.id = theirs.remoteConnectionId)
      (foundAfter : after.rpcs[call]? = some later) (sameRequest : later.request = rpc.request)
      (sameCaller : later.caller = rpc.caller) (sameEndpoint : later.endpoint = rpc.endpoint)
      (returned : .ok reply ∈ later.answers)
  | finished {index call : Nat} {env : Environment} {peer : Peer} {rpc : Rpc Node}
      {snapshot : Snapshot} (isResume : action = .resume other index env)
      (running : (before.engine other).operation = some (.updating peer call))
      (sameEndpoint : peer.endpoint = theirs.endpoint)
      (sameId : peer.connectionId = theirs.connectionId)
      (found : before.rpcs[call]? = some rpc)
      (answered : .ok (.snapshot snapshot) ∈ rpc.answers)
      (version : (snapshot.version : Int) ≤ theirs.remoteVersion)

/-- The handler of a `Ready` that leaves a peer ready either found it so, or marked it. -/
theorem Lossy.becameReady_handled (lossy : Lossy topology before) {call : Nat}
    {env : Environment} {rpc : Rpc Node} {update : Update}
    (taken : before.step topology (.handle call env) = some after)
    (found : before.rpcs[call]? = some rpc)
    (reached : topology.resolve rpc.endpoint = some other)
    (isRequest : rpc.request = .ready update)
    (effects : Effects env (Request.grant (topology.endpoint other) (.ready update))
      (before.engine other).control (after.engine other).control)
    (heldThere : (after.engine other).control.peers.get? second = some theirs)
    (isReady : theirs.state = .ready) :
    ∃ earlier, (before.engine other).control.peers.get? second = some earlier ∧
      earlier.Succeeds theirs ∧ earlier.state ≠ .created ∧
      BecameReady topology before after (.handle call env) other earlier theirs := by
  have consistent := lossy.authentic.consistent other
  obtain ⟨earlier, held, succeeds, joined⟩ := Effects.joined_before effects consistent
    (fun _ => id) (fun _ _ => id) heldThere (by simp [isReady])
  refine ⟨earlier, held, succeeds, joined, ?_⟩
  by_cases wasReady : earlier.state = .ready
  · exact .was wasReady
  have formed := consistent.formed held
  have isKey := formed.keyed held
  obtain ⟨handled, target, later, found', reached', foundAfter, sameCaller, sameEndpoint,
    sameRequest, answers, isAfter⟩ := step_handle_answer taken
  obtain rfl : rpc = handled := by simpa [found] using found'
  obtain rfl : other = target := by simpa [reached] using reached'
  -- A request that is not about the peer would have left it alone.
  obtain ⟨addressed, named⟩ : earlier.endpoint = update.connection.endpoint ∧
      earlier.remoteConnectionId = update.connection.id := by
    by_contra elsewhere
    have spared : (Request.grant (topology.endpoint other) (.ready update)).Spares earlier :=
      ⟨fun _ => id, fun _ granted => elsewhere ⟨granted.1, granted.2.1⟩,
        fun granted => elsewhere granted, id⟩
    have same := (Effects.spares effects consistent (isKey ▸ held) spared).1
    rw [isKey, heldThere, Option.some.injEq] at same
    exact wasReady (same ▸ isReady)
  have remote := succeeds.remote fun empty => joined ((formed.named held).mpr empty)
  cases run : (ready env update).run (before.engine other).control with
  | error error control =>
      -- A handler that raised would have left it alone, too.
      have samePeers := ready_fails consistent run
      rw [isAfter, serveResult, isRequest, serve, run] at heldThere
      simp only [samePeers, held, Option.some.injEq] at heldThere
      exact absurd (heldThere ▸ isReady) wasReady
  | ok reply control =>
      have returned : .ok reply ∈ later.answers := by
        rw [answers, serveResult, isRequest, serve, run]
        simp
      exact .handled rfl found reached isRequest
        (by rw [← addressed, succeeds.sameObject.endpoint]) (by rw [← named, remote]) foundAfter
        sameRequest sameCaller sameEndpoint returned

/-- A connect that takes the reply to its `Ready` leaves a peer ready that was, or finishes. -/
theorem Lossy.becameReady_finished (lossy : Lossy topology before) {index call : Nat}
    {env : Environment} {peer : Peer} {snapshot : Snapshot}
    (taken : before.step topology (.resume other index env) = some after)
    (running : (before.engine other).operation = some (.updating peer call))
    (effects : Effects env
      { imports := fun held given => held.handle = peer.handle ∧
          held.endpoint = peer.endpoint ∧ given = snapshot
        readies := fun held => held.handle = peer.handle ∧ held.endpoint = peer.endpoint }
      (before.engine other).control (after.engine other).control)
    (heldThere : (after.engine other).control.peers.get? second = some theirs)
    (isReady : theirs.state = .ready) :
    ∃ earlier, (before.engine other).control.peers.get? second = some earlier ∧
      earlier.Succeeds theirs ∧ earlier.state ≠ .created ∧
      BecameReady topology before after (.resume other index env) other earlier theirs := by
  have consistent := lossy.authentic.consistent other
  obtain ⟨earlier, held, succeeds, joined⟩ := Effects.joined_before effects consistent
    (fun _ => id) (fun _ _ => id) heldThere (by simp [isReady])
  refine ⟨earlier, held, succeeds, joined, ?_⟩
  by_cases wasReady : earlier.state = .ready
  · exact .was wasReady
  have formed := consistent.formed held
  have isKey := formed.keyed held
  obtain ⟨isPeer, _, isJoined⟩ := lossy.authentic.operations other _ running
  obtain ⟨sameHandle, sameEndpoint⟩ : earlier.handle = peer.handle ∧
      earlier.endpoint = peer.endpoint := by
    by_contra elsewhere
    have same := (Effects.spares effects consistent (isKey ▸ held) ⟨fun _ => id,
      fun _ granted => elsewhere ⟨granted.1, granted.2.1⟩, fun granted => elsewhere granted,
      id⟩).1
    rw [isKey, heldThere, Option.some.injEq] at same
    exact wasReady (same ▸ isReady)
  have unchanged : (after.engine other).control.peers = (before.engine other).control.peers →
      BecameReady topology before after (.resume other index env) other earlier theirs := by
    intro samePeers
    rw [samePeers, held, Option.some.injEq] at heldThere
    exact absurd (heldThere ▸ isReady) wasReady
  rcases System.step_goes_on taken rfl running rfl with
    ⟨rfl, _⟩ | ⟨index', env', rpc', reply, isResume, found, answered, resumed⟩
  · exact unchanged (by simp [System.raiseRpcError, Engine.finish])
  · obtain ⟨_, rfl, rfl⟩ : other = other ∧ index = index' ∧ env = env' := by
      simpa using isResume
    cases reply with
    | offer | empty => simp [System.stepResume] at resumed
    | snapshot given =>
        simp only [System.stepResume] at resumed
        cases run : (connectFinish env peer given).run (before.engine other).control with
        | error error control =>
            simp only [run, Option.some.injEq] at resumed
            subst resumed
            apply unchanged
            simpa [Engine.finish] using (connectFinish_fails consistent isJoined run).1
        | ok handle control =>
            simp only [run, Option.some.injEq] at resumed
            subst resumed
            obtain ⟨current, stored, _, _, version⟩ :=
              connectFinish_returns consistent isJoined run
            have isTheirs : current = theirs := by
              rw [System.setEngine_engine_self, Engine.finish, ← isKey, sameEndpoint, stored,
                Option.some.injEq] at heldThere
              exact heldThere
            refine .finished rfl running (by rw [← sameEndpoint, succeeds.sameObject.endpoint])
              ?_ found (List.mem_of_getElem? answered) (isTheirs ▸ version)
            rw [succeeds.sameObject.connectionId]
            exact ((lossy.authentic.sameObject isPeer held).mpr sameHandle).symm

/-- Where the ready entries of a node come from. -/
theorem Lossy.becameReady (lossy : Lossy topology before)
    (transition : Transition topology before action after)
    (taken : before.step topology action = some after)
    (heldThere : (after.engine other).control.peers.get? second = some theirs)
    (isReady : theirs.state = .ready) :
    ∃ earlier, (before.engine other).control.peers.get? second = some earlier ∧
      earlier.Succeeds theirs ∧ earlier.state ≠ .created ∧
      BecameReady topology before after action other earlier theirs := by
  obtain ⟨actor, others, change⟩ := transition.effects
  by_cases here : other = actor
  · subst here
    have consistent := lossy.authentic.consistent other
    rcases change with ⟨grant, entitled, _, effects⟩ | ⟨rfl, isClosed⟩
    · have still : (∀ peer, ¬grant.readies peer) → ∃ earlier,
          (before.engine other).control.peers.get? second = some earlier ∧
          earlier.Succeeds theirs ∧ earlier.state ≠ .created ∧
          BecameReady topology before after action other earlier theirs := by
        intro noReadies
        obtain ⟨earlier, held, succeeds, wasReady⟩ :=
          Effects.ready_before effects consistent noReadies heldThere isReady
        exact ⟨earlier, held, succeeds, by simp [wasReady], .was wasReady⟩
      cases entitled with
      | nothing | dial | join | append | disconnect | register => exact still fun _ => id
      | finish running found answered =>
          exact lossy.becameReady_finished taken running effects heldThere isReady
      | @handle _ call env rpc found reached =>
          cases isRequest : rpc.request with
          | ready update =>
              rw [isRequest] at effects
              exact lossy.becameReady_handled taken found reached isRequest effects heldThere
                isReady
          | connect | changed | close =>
              rw [isRequest] at still
              exact still fun _ => id
    · rw [isClosed, ControlPlane.close] at heldThere
      split at heldThere
      · rename_i wasClosed
        simp [(consistent.shut wasClosed)] at heldThere
      · simp at heldThere
  · rw [others other here] at heldThere
    exact ⟨theirs, heldThere, .refl theirs, by simp [isReady], .was isReady⟩

/-! ### Both ends

The invariant is about pairs of entries that are linked: when one is ready, the other is ready
or its connect waits for a `Ready` that has returned.  It fails only at a step that gives up in
between. -/

/-- A live peer whose counterpart is ready is ready, or its connect waits for a `Ready` that has
returned. -/
def System.ReadyBothEnds (system : System Node) : Prop :=
  ∀ node other key second own theirs, system.Linked node other key second own theirs →
    theirs.state = .ready → own.state = .ready ∨
      ∃ peer call, (system.engine node).operation = some (.updating peer call) ∧
        peer.connectionId = own.connectionId ∧ system.HasReturned call

/-- The facts about one step that its invariants share. -/
structure LossyStep (topology : Topology Node) (before : System Node) (action : Action Node)
    (after : System Node) : Prop where
  lossy : Lossy topology before
  lossyAfter : Lossy topology after
  obeys : before.MayLoseReplies topology action
  taken : before.step topology action = some after
  transition : Transition topology before action after

namespace LossyStep

/-- A linked pair whose second peer was connected already was linked before. -/
theorem linked (step : LossyStep topology before action after)
    (linked : after.Linked node other key second own theirs)
    (heldThere : (before.engine other).control.peers.get? second = some earlier)
    (succeeds : earlier.Succeeds theirs) (joined : earlier.state ≠ .created) :
    ∃ mine, before.Linked node other key second mine earlier ∧ mine.Succeeds own := by
  obtain ⟨mine, held, succeeded⟩ :=
    step.lossy.linked_before step.transition step.lossyAfter.authentic linked
  refine ⟨mine, ⟨held, heldThere, ?_⟩, succeeded⟩
  have named : earlier.remoteConnectionId ≠ "" := fun empty =>
    joined ((((step.lossy.authentic.consistent other).formed heldThere).named heldThere).mpr empty)
  rw [← succeeded.sameObject.connectionId, linked.named, succeeds.remote named]

/-- The peer of a waiting connect is the entry with its id, which is connected. -/
theorem updating_entry (step : LossyStep topology before action after) {peer : Peer} {call : Nat}
    (running : (before.engine other).operation = some (.updating peer call))
    (heldThere : (after.engine other).control.peers.get? second = some theirs)
    (sameId : peer.connectionId = theirs.connectionId) :
    ∃ earlier, (before.engine other).control.peers.get? second = some earlier ∧
      earlier.Succeeds theirs ∧ earlier.state ≠ .created := by
  have authentic := step.lossy.authentic
  obtain ⟨isMade, _, joined⟩ := authentic.operations other _ running
  obtain ⟨env, grant, fresh, evolves⟩ :=
    (step.transition.grows authentic.consistent).evolves other
  rcases evolves.origin heldThere with ⟨earlier, held, succeeds⟩ | ⟨granted, isNew, _⟩
  · have wasSame := sameId.trans succeeds.sameObject.connectionId
    refine ⟨earlier, held, succeeds, joined earlier ?_
      ((authentic.sameObject isMade held).mp wasSame.symm)⟩
    rw [← authentic.entry_key isMade held wasSame, held]
  · obtain ⟨origin, made, isPeer⟩ := isMade
    refine absurd ?_ ((fresh second granted).id other origin made)
    rw [isPeer.connectionId, sameId, isNew]

/-- The connect that sends its `Ready` has connected its peer to the entry that answered its
offer. -/
theorem matched_sent (step : LossyStep topology before action after) {peer : Peer}
    {previous call : Nat} (linked : after.Linked node other key second own theirs)
    (offering : (before.engine other).operation = some (.offering peer previous))
    (running : (after.engine other).operation = some (.updating peer call))
    (sameId : peer.connectionId = theirs.connectionId) : key = topology.endpoint other := by
  have authentic := step.lossy.authentic
  have authenticAfter := step.lossyAfter.authentic
  have acting : action.actor? = some other := by
    by_contra elsewhere
    rw [System.step_operation step.taken elsewhere, offering] at running
    simp at running
  rcases System.step_goes_on step.taken acting offering rfl with
    ⟨isAfter, _⟩ | ⟨index, env, rpc, reply, rfl, found, answered, resumed⟩
  · simp [isAfter, System.raiseRpcError, Engine.finish] at running
  cases reply with
  | snapshot | empty => simp [System.stepResume] at resumed
  | offer remote =>
      simp only [System.stepResume] at resumed
      cases run : (connectUpdate (topology.endpoint other) env peer remote).run
          (before.engine other).control with
      | error error control =>
          simp only [run, Option.some.injEq] at resumed
          simp [← resumed, Engine.finish] at running
      | ok update control =>
          simp only [run, Option.some.injEq] at resumed
          obtain ⟨current, stored, sameHandle, sameRemote⟩ :=
            connectUpdate_joined (authentic.consistent other) run
          have isControl : (after.engine other).control = control := by
            simp [← resumed, Engine.proceed]
          rw [← isControl] at stored
          -- The entry that the section connected is the linked one.
          obtain ⟨isPeer, _⟩ := authenticAfter.operations other _ running
          have formed := (authenticAfter.consistent other).formed linked.heldThere
          have isKey := formed.handle_injective linked.heldThere stored
            (((authenticAfter.sameObject isPeer linked.heldThere).mp sameId.symm).trans
              sameHandle.symm)
          obtain rfl : theirs = current := by
            have held := linked.heldThere
            rw [isKey, stored, Option.some.injEq] at held
            exact held.symm
          obtain ⟨isTarget, _⟩ := step.lossyAfter.connected linked
          obtain ⟨mine, held, succeeds⟩ :=
            step.lossy.linked_before step.transition authenticAfter linked
          -- What the offer was answered with is the entry that the target holds for the caller.
          obtain ⟨_, sent, isSent, rfl, sameEndpoint, isOffer⟩ :=
            authentic.operations other _ offering
          obtain rfl : rpc = sent := by simpa [found] using isSent
          obtain ⟨entry, entryHeld, acknowledges⟩ := step.lossy.acknowledged rpc
            (List.mem_of_getElem? found) _ (List.mem_of_getElem? answered) node
            (by rw [sameEndpoint, ← isKey, isTarget, topology.resolve_endpoint])
            (step.transition.was_open authentic
              ((authenticAfter.consistent _).open_of_held linked.heldThere))
            ((authentic.consistent node).open_of_held held)
          rw [isOffer] at entryHeld acknowledges
          exact (authentic.entry_unique held entryHeld (by
            rw [← succeeds.sameObject.connectionId, linked.named, sameRemote]
            exact acknowledges.2.symm)).2.1

theorem matched (step : LossyStep topology before action after)
    (matched : before.Matched topology) : after.Matched topology := by
  intro node other key second own theirs peer call linked running sameId
  rcases step.transition.operation_cases running with
    earlier | ⟨_, impossible⟩ | ⟨endpoint, request, sends, _⟩
  · obtain ⟨known, held, succeeds, joined⟩ := step.updating_entry earlier linked.heldThere sameId
    obtain ⟨mine, wasLinked, _⟩ := step.linked linked held succeeds joined
    exact matched node other key second mine known peer call wasLinked earlier
      (sameId.trans succeeds.sameObject.connectionId)
  · simp at impossible
  · generalize isBefore : (before.engine other).operation = previous at sends
    cases sends with
    | update => exact step.matched_sent linked isBefore running sameId

/-- A call that has returned is not answered with an error. -/
theorem returned_ok (step : LossyStep topology before action after) {call index : Nat}
    {rpc : Rpc Node} {error : PyError} (found : before.rpcs[call]? = some rpc)
    (answered : rpc.answers[index]? = some (.error error)) : ¬before.HasReturned call := by
  rintro ⟨known, isKnown, answer, member, isOk⟩
  obtain rfl : rpc = known := by simpa [found] using isKnown
  have once := step.lossy.patient.once rpc (List.mem_of_getElem? found)
  cases isAnswers : rpc.answers with
  | nil => simp [isAnswers] at member
  | cons first rest =>
      obtain rfl : rest = [] := by simpa [isAnswers] using once
      have isFirst : answer = .error error := by
        rw [isAnswers] at answered member
        rw [List.mem_singleton.mp member]
        exact (List.mem_singleton.mp (List.mem_of_getElem? answered)).symm
      simp [isFirst, Except.isOk, Except.toBool] at isOk

/-- A connect whose `Ready` has returned leaves its peer ready when it goes on, unless it gives
up. -/
theorem finishes (step : LossyStep topology before action after)
    (calm : ¬before.LeavesUnready action) (acting : action.actor? = some node) {peer : Peer}
    {call : Nat} (running : (before.engine node).operation = some (.updating peer call))
    (held : (before.engine node).control.peers.get? key = some earlier)
    (sameId : peer.connectionId = earlier.connectionId) (returned : before.HasReturned call)
    (heldAfter : (after.engine node).control.peers.get? key = some own)
    (succeeds : earlier.Succeeds own) : own.state = .ready := by
  have authentic := step.lossy.authentic
  obtain ⟨isPeer, _, joined⟩ := authentic.operations node _ running
  have sameHandle := (authentic.sameObject isPeer held).mp sameId.symm
  obtain rfl := authentic.entry_key isPeer held sameId
  by_contra notReady
  have unready : (before.engine node).control.Unready peer :=
    ⟨earlier, held, sameHandle, fun wasReady => notReady (succeeds.stays_ready wasReady)⟩
  rcases System.step_goes_on step.taken acting running rfl with
    ⟨_, rfl | ⟨index, env, rpc, error, rfl, found, answered⟩⟩ |
    ⟨index, env, rpc, reply, rfl, found, answered, resumed⟩
  · exact calm ⟨peer, call, running, returned, unready⟩
  · exact step.returned_ok found answered returned
  · cases reply with
    | offer | empty => simp [System.stepResume] at resumed
    | snapshot snapshot =>
        simp only [System.stepResume] at resumed
        cases run : (connectFinish env peer snapshot).run (before.engine node).control with
        | error error control =>
            have fails := (connectFinish_fails (authentic.consistent node) joined run).2 earlier
              held sameHandle
            exact calm ⟨peer, call, running, ⟨rpc, by simp [found], _, answered, fails⟩, unready⟩
        | ok handle control =>
            simp only [run, Option.some.injEq] at resumed
            obtain ⟨current, stored, _, isReady, _⟩ :=
              connectFinish_returns (authentic.consistent node) joined run
            rw [← resumed, System.setEngine_engine_self, Engine.finish, stored,
              Option.some.injEq] at heldAfter
            exact notReady (heldAfter ▸ isReady)

/-- A call that has returned stays returned. -/
theorem hasReturned (step : LossyStep topology before action after) {call : Nat}
    (returned : before.HasReturned call) : after.HasReturned call := by
  obtain ⟨rpc, found, answer, member, isOk⟩ := returned
  obtain ⟨later, isLater, _, grown⟩ := step.transition.answers found
  exact ⟨later, isLater, answer, grown member, isOk⟩

/-- The request that marks a linked peer ready comes from the connect of the live peer, which
waits for it. -/
theorem handled_ready (step : LossyStep topology before action after) {call : Nat}
    {env : Environment} {rpc : Rpc Node} {update : Update} (isHandle : action = .handle call env)
    (linked : before.Linked node other key second own theirs)
    (found : before.rpcs[call]? = some rpc) (isRequest : rpc.request = .ready update)
    (named : update.connection.id = theirs.remoteConnectionId) :
    rpc.caller = node ∧ ∃ peer, (before.engine node).operation = some (.updating peer call) ∧
      peer.connectionId = own.connectionId := by
  have authentic := step.lossy.authentic
  subst isHandle
  have unanswered : rpc.answers = [] := step.obeys.losesReplies rpc (by simp [found])
  obtain ⟨operation, running, isCall⟩ := step.lossy.patient.waits call rpc found unanswered
  obtain ⟨peer, rfl, sameId⟩ := authentic.updating_of_call running isCall found isRequest
  obtain ⟨⟨origin, made, isPeer⟩, _⟩ := authentic.operations rpc.caller _ running
  obtain ⟨entry, entryMade, isEntry⟩ :=
    ((authentic.consistent node).formed linked.held).fromCreated linked.held
  have isOwn : peer.connectionId = own.connectionId := by
    rw [← sameId, named, linked.named]
  obtain ⟨rfl, -⟩ := authentic.distinctIds rpc.caller origin made node entry entryMade
    (by rw [isPeer.connectionId, isOwn, isEntry.connectionId])
  exact ⟨rfl, peer, running, isOwn⟩

theorem readyBothEnds (step : LossyStep topology before action after)
    (calm : ¬before.LeavesUnready action) (matched : before.Matched topology)
    (agreed : before.ReadyBothEnds) : after.ReadyBothEnds := by
  intro node other key second own theirs linked isReady
  obtain ⟨earlier, heldThere, succeeds, joined, became⟩ :=
    step.lossy.becameReady step.transition step.taken linked.heldThere isReady
  obtain ⟨mine, wasLinked, grew⟩ := step.linked linked heldThere succeeds joined
  cases became with
  | was wasReady =>
      rcases agreed node other key second mine earlier wasLinked wasReady with
        mineReady | ⟨peer, call, running, sameId, returned⟩
      · exact .inl (grew.stays_ready mineReady)
      · by_cases acting : action.actor? = some node
        · exact .inl (step.finishes calm acting running wasLinked.held sameId returned linked.held
            grew)
        · exact .inr ⟨peer, call, by rw [System.step_operation step.taken acting, running],
            sameId.trans grew.sameObject.connectionId.symm, step.hasReturned returned⟩
  | @handled call env rpc later update reply isHandle found _ isRequest _ named foundAfter _ _ _
      returned =>
      have remote := succeeds.remote fun empty => joined
        ((((step.lossy.authentic.consistent other).formed heldThere).named heldThere).mpr empty)
      obtain ⟨_, peer, running, isOwn⟩ :=
        step.handled_ready isHandle wasLinked found isRequest (named.trans remote)
      refine .inr ⟨peer, call, ?_, isOwn.trans grew.sameObject.connectionId.symm, later,
        foundAfter, _, returned, rfl⟩
      rw [System.step_operation step.taken (by simp [isHandle, Action.actor?]), running]
  | finished _ running _ sameId found answered =>
      exact .inl (grew.stays_ready (step.lossy.replied_ready matched wasLinked running
        (sameId.trans succeeds.sameObject.connectionId) found answered))

end LossyStep

end Rdma101
