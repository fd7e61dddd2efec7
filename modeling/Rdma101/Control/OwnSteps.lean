/-
Module: Rdma101.Control.OwnSteps
Purpose: The critical sections of an outgoing operation are acts of its node in the session with
  any other node; the other node sees nothing of them.
Trusted boundary: none
Main exports: stepConnect_own, stepDisconnect_own, stepRegister_own, stepPublish_own,
  raiseRpcError_own, stepResume_own
-/
import Rdma101.Control.View

namespace Rdma101

open Wire ControlPlane Session

theorem Peer.link_joinedTo {peer : Peer} {id : String} (joins : peer.Joins id) :
    (peer.joinedTo id).link = { peer.link with remote := some id } := by
  by_cases unconnected : peer.state = .created
  · simp [joinedTo, unconnected, link]
  · have same := joins.resolve_left unconnected
    simp [joinedTo, unconnected, link, same]

theorem Peer.link_imported (peer : Peer) (version : Nat) :
    (peer.imported version).link =
      { peer.link with version := max peer.link.version version } := by
  have larger : (max peer.remoteVersion version).toNat = max peer.remoteVersion.toNat version := by
    omega
  rw [link, link, imported, larger]

theorem Peer.link_ready (peer : Peer) (joined : peer.state ≠ .created) :
    ({ peer with state := .ready } : Peer).link = { peer.link with ready := true } := by
  simp [link, joined]

/-- The peer is free, or connected to the id, exactly if its link is. -/
theorem Peer.joins_iff {peer : Peer} {id : String} :
    peer.Joins id ↔ peer.link.remote = none ∨ peer.link.remote = some id := by
  by_cases unconnected : peer.state = .created <;> simp [Joins, link, unconnected]

variable {Node : Type} {topology : Topology Node} {before after : System Node}
  {node other : Node} {env : Environment} {rules : Rules String Bytes}

section

variable (rules)

/-- The acts of the node, in the session with another node, that a step amounts to. -/
def OwnStep (topology : Topology Node) (before after : System Node) (node other : Node) : Prop :=
  Own rules ((before.engine other).sideTo before.rpcs (topology.endpoint node))
    ((before.engine node).sideTo before.rpcs (topology.endpoint other))
    ((after.engine node).sideTo after.rpcs (topology.endpoint other))

end

/-- A step that the session does not show. -/
theorem OwnStep.of_eq
    (same : (after.engine node).sideTo after.rpcs (topology.endpoint other) =
      (before.engine node).sideTo before.rpcs (topology.endpoint other)) :
    OwnStep rules topology before after node other := by
  rw [OwnStep, same]

theorem OwnStep.of_act {near : Side String Bytes}
    (act : Act rules ((before.engine node).sideTo before.rpcs (topology.endpoint other))
      ((before.engine other).sideTo before.rpcs (topology.endpoint node)) near
      ((before.engine other).sideTo before.rpcs (topology.endpoint node)))
    (same : (after.engine node).sideTo after.rpcs (topology.endpoint other) = near) :
    OwnStep rules topology before after node other :=
  Relation.ReflTransGen.single (same ▸ act)

/-- A drawn id was drawn for no session. -/
theorem System.FreshFor.unmade (fresh : before.FreshFor node env) (one : Node)
    (endpoint : String) : env.uuid4 ∉ (before.engine one).control.madeFor endpoint := by
  rintro ⟨peer, member, _, same⟩
  exact fresh.id one peer member same

/-- The entry of a table whose id a peer of the node has is that peer object. -/
theorem Authentic.sameObject (authentic : Authentic topology before) {peer current : Peer}
    {endpoint : String} (made : before.Made node peer)
    (held : (before.engine node).control.peers.get? endpoint = some current) :
    current.connectionId = peer.connectionId ↔ current.handle = peer.handle := by
  have formed := (authentic.consistent node).formed held
  obtain ⟨origin, member, sameObject⟩ := made
  obtain ⟨entry, entryMember, sameEntry⟩ := formed.fromCreated held
  constructor
  · intro same
    have isOrigin := (authentic.distinctIds node entry entryMember node origin member
      (by rw [sameEntry.connectionId, same, sameObject.connectionId])).2
    rw [← sameEntry.handle, isOrigin, sameObject.handle]
  · intro same
    have isOrigin := formed.createdDistinct entry entryMember origin member
      (by rw [sameEntry.handle, same, sameObject.handle])
    rw [← sameEntry.connectionId, isOrigin, sameObject.connectionId]

/-- What `Connect` returned to an operation names the endpoint that was dialed, and an id. -/
theorem Authentic.offer_addressed (authentic : Authentic topology before)
    (waiting : before.Waiting) (made : MadeForNodes topology before) {peer : Peer} {call : Nat}
    {remote : Offer}
    (running : (before.engine node).operation = some (.offering peer call))
    (answered : answersOf before.rpcs call = [.ok (.offer remote)]) :
    remote.connection.endpoint = peer.endpoint ∧ remote.connection.id ≠ "" := by
  obtain ⟨⟨origin, member, sameObject⟩, rpc, found, _, isEndpoint, isRequest⟩ :=
    authentic.operations node _ running
  have isAnswer : .ok (.offer remote) ∈ rpc.answers := by
    simp only [answersOf, found] at answered
    simp [answered]
  obtain ⟨target, reached, isReply⟩ :=
    authentic.replies rpc (List.mem_of_getElem? found) _ isAnswer
  rw [isRequest] at isReply
  obtain ⟨theirs, theirsMade, _, rfl⟩ := isReply
  obtain ⟨dialed, _, isDialed⟩ := made node origin member
  have sameTarget : dialed = target := by
    rw [isEndpoint, ← sameObject.endpoint, isDialed, topology.resolve_endpoint,
      Option.some.injEq] at reached
    exact reached
  refine ⟨?_, ?_⟩
  · simp [offer, connection, ← sameObject.endpoint, isDialed, sameTarget]
  · exact ((authentic.consistent target).opened (waiting.opened target)).idNonempty theirs
      theirsMade

variable [DecidableEq Node]

/-- The first section of `connect` makes a link or offers the one there is. -/
theorem stepConnect_own {endpoint : String} (authentic : Authentic topology before)
    (isOpen : (before.engine node).control.closed = false)
    (succeeds : env.Succeeds) (fresh : before.FreshFor node env)
    (idle : (before.engine node).operation = none) :
    OwnStep rules topology before (before.stepConnect topology node endpoint env) node other := by
  have sideIdle := fun endpoint => Engine.sideTo_idle idle before.rpcs endpoint
  by_cases remote : endpoint = "" ∨ endpoint = topology.endpoint node
  · refine .of_eq ?_
    simp [System.stepConnect, run_connectOffer, remote, sideIdle, returnedIn_append]
  obtain ⟨result, control, computed, offers⟩ := connectOffer_smooth succeeds isOpen remote
  simp only [System.stepConnect, computed]
  cases offers with
  | ready held isReady =>
      refine .of_eq ?_
      simp [sideIdle, returnedIn_append]
  | @again peer held unready =>
      obtain rfl := ((authentic.consistent node).formed held).keyed held
      by_cases here : peer.endpoint = topology.endpoint other
      · have isLink := here ▸ linkTo_of_get? held
        refine .of_act (.dial (by simp [sideIdle]) (by simp only [sideIdle]; exact isLink)) ?_
        simp [sideIdle, Operation.callTo, here, statusOf, Peer.link]
      · refine .of_eq ?_
        simp [sideIdle, Operation.callTo, here]
  | @new made _ absent rewrites =>
      by_cases here : topology.endpoint other = endpoint
      · subst here
        refine .of_act (.create (by simp [sideIdle]) (by simp [sideIdle, linkTo, absent])
          (fresh.unmade node _) (fresh.unmade other _)) ?_
        simp [sideIdle, Operation.callTo, rewrites.linkTo, rewrites.madeFor_single,
          rewrites.memories, freshPeer, statusOf, Peer.link]
      · refine .of_eq ?_
        simp [sideIdle, Operation.callTo, rewrites.linkTo, rewrites.madeFor_single,
          rewrites.memories, freshPeer, here, Ne.symm here]

/-- `disconnect` drops the link. -/
theorem stepDisconnect_own {handle : Handle} (authentic : Authentic topology before)
    (isOpen : (before.engine node).control.closed = false) (succeeds : env.Succeeds)
    (idle : (before.engine node).operation = none)
    (allowed : ∀ peer, (before.engine node).control.peers.get? (topology.endpoint other) =
      some peer → peer.handle = handle → rules.drops peer.link) :
    OwnStep rules topology before (before.stepDisconnect topology node handle env) node other := by
  have sideIdle := fun endpoint => Engine.sideTo_idle idle before.rpcs endpoint
  rcases disconnectDestroy_smooth succeeds isOpen (authentic.consistent node) handle with
    ⟨error, computed⟩ | ⟨peer, computed, held, isHandle⟩
  · refine .of_eq ?_
    simp [System.stepDisconnect, computed, sideIdle, returnedIn_append]
  have rewrites := dropPeer_rewrites (before.engine node).control peer
  simp only [System.stepDisconnect, computed]
  by_cases here : topology.endpoint other = peer.endpoint
  · have heldThere := here ▸ held
    have isLink := linkTo_of_get? heldThere
    refine .of_act (.drop (by simp [sideIdle]) (by simp only [sideIdle]; exact isLink)
      (allowed peer heldThere isHandle)) ?_
    simp [sideIdle, Operation.callTo, rewrites.linkTo, rewrites.madeFor, here, statusOf, Peer.link]
  · refine .of_eq ?_
    simp [sideIdle, Operation.callTo, rewrites.linkTo, rewrites.madeFor, here, Ne.symm here]

/-- A native registration is no act. -/
theorem stepRegister_own (isOpen : (before.engine node).control.closed = false)
    (succeeds : env.Succeeds) (idle : (before.engine node).operation = none) :
    OwnStep rules topology before (before.stepRegister node env) node other := by
  obtain ⟨registration, control, computed, samePeers, sameMemories, sameCreated⟩ :=
    registerLocalMemory_smooth succeeds isOpen
  refine .of_eq ?_
  simp [System.stepRegister, computed, Engine.sideTo_idle idle, Operation.callTo, linkTo, madeFor,
    samePeers, sameMemories, sameCreated]

/-- The rest of the loop of `publish`, when it has come to a list of peers. -/
theorem notify_own {near : Side String Bytes} {metadata : Bytes} {snapshot : Snapshot}
    {peers : List Peer} {control : ControlPlane}
    (isNear : near = { link := control.linkTo (topology.endpoint other)
                       call := some (.notifying metadata snapshot.version
                         (pendingTurn peers (topology.endpoint other)))
                       memories := control.memoryMetadata
                       returned := returnedIn (before.engine node).outcomes
                       made := control.madeFor (topology.endpoint other) }) :
    Own rules ((before.engine other).sideTo before.rpcs (topology.endpoint node)) near
      (((before.notify topology node control metadata snapshot peers).engine node).sideTo
        (before.notify topology node control metadata snapshot peers).rpcs
        (topology.endpoint other)) := by
  subst isNear
  cases peers with
  | nil =>
      refine .single ?_
      simp only [System.notify, System.setEngine_engine_self, Engine.sideTo_finish,
        returnedIn_published]
      exact .published rfl
  | cons peer rest =>
      simp only [System.notify, System.send_engine, System.setEngine_engine_self,
        Engine.sideTo_proceed, Operation.callTo, System.send_rpcs, System.setEngine_rpcs]
      by_cases here : peer.endpoint = topology.endpoint other
      · refine .single ?_
        simp only [pendingTurn_cons, here, if_true, answersOf_append, statusOf]
        exact .notify rfl
      · simp only [pendingTurn_cons, here, if_false]
        exact .refl

/-- The loop of `publish` starts with the peer of the link that is ready, if there is one. -/
theorem pendingTurn_ready {control : ControlPlane} (formed : control.WellFormed)
    {endpoint : String} {side : Side String Bytes} (isLink : side.link = control.linkTo endpoint) :
    pendingTurn (control.peers.values.filter fun peer => peer.state = .ready) endpoint =
      side.turn := by
  have found : ∀ peer, (control.peers.values.filter fun peer => peer.state = .ready).find?
      (fun peer => peer.endpoint = endpoint) = some peer →
      control.peers.get? endpoint = some peer ∧ peer.state = .ready := by
    intro peer isFound
    obtain ⟨isValue, isReady⟩ := List.mem_filter.mp (List.mem_of_find?_eq_some isFound)
    obtain ⟨key, held⟩ := OrderedDict.mem_values.mp isValue
    have sameEndpoint : peer.endpoint = endpoint := by simpa using List.find?_some isFound
    exact ⟨sameEndpoint ▸ formed.keyed held ▸ held, by simpa using isReady⟩
  rw [pendingTurn, Side.turn, isLink]
  cases search : (control.peers.values.filter fun peer => peer.state = .ready).find?
      fun peer => peer.endpoint = endpoint with
  | some peer =>
      obtain ⟨held, isReady⟩ := found peer search
      simp [linkTo, held, Peer.link, isReady]
  | none =>
      cases held : control.peers.get? endpoint with
      | none => simp [linkTo, held]
      | some peer =>
          have unready : peer.state ≠ .ready := by
            intro isReady
            have member : peer ∈ control.peers.values.filter fun peer => peer.state = .ready :=
              List.mem_filter.mpr ⟨OrderedDict.mem_values.mpr ⟨endpoint, held⟩, by simp [isReady]⟩
            have missed := List.find?_eq_none.mp search peer member
            simp [formed.keyed held] at missed
          simp [linkTo, held, Peer.link, unready]

/-- The first section of `publish` appends a memory and starts to notify. -/
theorem stepPublish_own {metadata : Bytes} (authentic : Authentic topology before)
    (isOpen : (before.engine node).control.closed = false)
    (registered : (before.engine node).operation = some (.registered metadata)) :
    OwnStep rules topology before (before.stepPublish topology node metadata) node other := by
  have sideBefore := fun endpoint => Engine.sideTo_running registered before.rpcs endpoint
  have formed := (authentic.consistent node).opened isOpen
  have idle : ((before.engine node).sideTo before.rpcs (topology.endpoint other)).call = none := by
    simp [sideBefore, Operation.callTo]
  have turn : pendingTurn
      ((before.engine node).control.peers.values.filter fun peer => peer.state = .ready)
      (topology.endpoint other) =
      ((before.engine node).sideTo before.rpcs (topology.endpoint other)).turn :=
    pendingTurn_ready formed rfl
  apply Relation.ReflTransGen.head (.publish metadata idle)
  simp only [System.stepPublish, publishAppend_smooth isOpen metadata]
  apply notify_own
  rw [turn]
  simp [sideBefore, snapshot, linkTo, madeFor]

/-- An operation whose request was answered with an error gives up. -/
theorem raiseRpcError_own {operation : Operation} {call : Nat} {error : PyError}
    (running : (before.engine node).operation = some operation)
    (isCall : operation.call? = some call) (failed : answersOf before.rpcs call = [.error error]) :
    OwnStep rules topology before (before.raiseRpcError node operation) node other := by
  have sideBefore := fun endpoint => Engine.sideTo_running running before.rpcs endpoint
  have unpublished : ∀ metadata, operation.rpcFailed ≠ .publish metadata (.ok ()) := by
    cases operation <;> simp [Operation.rpcFailed]
  have sideAfter : ((before.raiseRpcError node operation).engine node).sideTo
      (before.raiseRpcError node operation).rpcs (topology.endpoint other) =
      { (before.engine node).sideTo before.rpcs (topology.endpoint other) with call := none } := by
    simp [System.raiseRpcError, sideBefore, returnedIn_append _ unpublished]
  cases operation with
  | registered metadata => simp [Operation.call?] at isCall
  | offering peer number =>
      obtain rfl : number = call := by simpa [Operation.call?] using isCall
      by_cases here : peer.endpoint = topology.endpoint other
      · have calling : ((before.engine node).sideTo before.rpcs (topology.endpoint other)).call =
            some (.offering peer.connectionId .failed) := by
          simp [sideBefore, Operation.callTo, here, failed, statusOf]
        exact .of_act (.abandonOffer calling (by simp) (by simp)) sideAfter
      · exact .of_eq (sideAfter.trans (by simp [sideBefore, Operation.callTo, here]))
  | updating peer number =>
      obtain rfl : number = call := by simpa [Operation.call?] using isCall
      by_cases here : peer.endpoint = topology.endpoint other
      · have calling : ((before.engine node).sideTo before.rpcs (topology.endpoint other)).call =
            some (.updating peer.connectionId (sentVersion before.rpcs number) .failed) := by
          simp [sideBefore, Operation.callTo, here, failed, statusOf]
        exact .of_act (.abandonUpdate calling (by simp) (by simp)) sideAfter
      · exact .of_eq (sideAfter.trans (by simp [sideBefore, Operation.callTo, here]))
  | notifying metadata snapshot peer rest number =>
      obtain ⟨turn, calling⟩ : ∃ turn,
          ((before.engine node).sideTo before.rpcs (topology.endpoint other)).call =
            some (.notifying metadata snapshot.version turn) :=
        ⟨_, by simp only [sideBefore, Operation.callTo]; rfl⟩
      exact .of_act (.abandonPublish calling) sideAfter
  | closing peer number =>
      obtain rfl : number = call := by simpa [Operation.call?] using isCall
      by_cases here : peer.endpoint = topology.endpoint other
      · have calling : ((before.engine node).sideTo before.rpcs (topology.endpoint other)).call =
            some (.closing peer.connectionId .failed) := by
          simp [sideBefore, Operation.callTo, here, failed, statusOf]
        exact .of_act (.closed calling (by simp)) sideAfter
      · exact .of_eq (sideAfter.trans (by simp [sideBefore, Operation.callTo, here]))

/-- The second section of `connect` joins the link, or gives up. -/
theorem resumeOffering_own {peer : Peer} {call : Nat} {remote : Offer}
    (authentic : Authentic topology before) (succeeds : env.Succeeds)
    (running : (before.engine node).operation = some (.offering peer call))
    (answered : answersOf before.rpcs call = [.ok (.offer remote)])
    (addressed : remote.connection.endpoint = peer.endpoint) (named : remote.connection.id ≠ "")
    (taken : before.stepResume topology node (.offering peer call) (.offer remote) env =
      some after) : OwnStep rules topology before after node other := by
  have sideBefore := fun endpoint => Engine.sideTo_running running before.rpcs endpoint
  have made := (authentic.operations node _ running).1
  simp only [System.stepResume] at taken
  rcases connectUpdate_smooth (topology.endpoint node) succeeds
    (authentic.consistent node) addressed named with
    ⟨current, control, computed, held, sameHandle, joins, rewrites⟩ | ⟨⟨error, computed⟩, stuck⟩
  · simp only [computed, Option.some.injEq] at taken
    subst taken
    have sameId := (authentic.sameObject made held).mpr sameHandle
    by_cases here : peer.endpoint = topology.endpoint other
    · have isLink := here ▸ linkTo_of_get? held
      have calling : ((before.engine node).sideTo before.rpcs (topology.endpoint other)).call =
          some (.offering current.link.id (.answered remote.connection.id)) := by
        simp [sideBefore, Operation.callTo, here, answered, statusOf, Reply.offeredId?, Peer.link,
          sameId]
      refine .of_act (.join calling (by simp only [sideBefore]; exact isLink)
        (Peer.joins_iff.mp joins)) ?_
      simp [sideBefore, Operation.callTo, here, rewrites.linkTo, rewrites.madeFor,
        rewrites.memories, Peer.link_joinedTo joins, statusOf, Request.version, snapshot]
      simp [Peer.link, sameId]
    · refine .of_eq ?_
      simp [sideBefore, Operation.callTo, here, Ne.symm here, rewrites.linkTo, rewrites.madeFor,
        rewrites.memories]
  · simp only [computed, Option.some.injEq] at taken
    subst taken
    by_cases here : peer.endpoint = topology.endpoint other
    · have calling : ((before.engine node).sideTo before.rpcs (topology.endpoint other)).call =
          some (.offering peer.connectionId (.answered remote.connection.id)) := by
        simp [sideBefore, Operation.callTo, here, answered, statusOf, Reply.offeredId?]
      refine .of_act (.abandonOffer calling (by simp) ?_) ?_
      · intro theirs link isAnswer isLink sameId
        obtain rfl : remote.connection.id = theirs := by simpa using isAnswer
        simp only [sideBefore] at isLink
        obtain ⟨current, held, rfl⟩ := get?_of_linkTo isLink
        have elsewhere := stuck current (here.symm ▸ held)
          ((authentic.sameObject made held).mp sameId)
        rw [Peer.joins_iff] at elsewhere
        exact not_or.mp elsewhere
      · simp [sideBefore, returnedIn_append]
    · refine .of_eq ?_
      simp [sideBefore, Operation.callTo, here, returnedIn_append]

/-- The last section of `connect` makes the link ready, or gives up. -/
theorem resumeUpdating_own {peer : Peer} {call : Nat} {snapshot : Snapshot}
    (authentic : Authentic topology before) (succeeds : env.Succeeds)
    (running : (before.engine node).operation = some (.updating peer call))
    (answered : answersOf before.rpcs call = [.ok (.snapshot snapshot)])
    (taken : before.stepResume topology node (.updating peer call) (.snapshot snapshot) env =
      some after) : OwnStep rules topology before after node other := by
  have sideBefore := fun endpoint => Engine.sideTo_running running before.rpcs endpoint
  obtain ⟨made, _, joined⟩ := authentic.operations node _ running
  simp only [System.stepResume] at taken
  rcases connectFinish_smooth succeeds (authentic.consistent node) snapshot joined with
    ⟨current, control, computed, held, sameHandle, rewrites⟩ | ⟨⟨error, computed⟩, gone⟩
  · simp only [computed, Option.some.injEq] at taken
    subst taken
    have sameId := (authentic.sameObject made held).mpr sameHandle
    by_cases here : peer.endpoint = topology.endpoint other
    · have isLink := here ▸ linkTo_of_get? held
      have calling : ((before.engine node).sideTo before.rpcs (topology.endpoint other)).call =
          some (.updating current.link.id (sentVersion before.rpcs call)
            (.answered snapshot.version)) := by
        simp [sideBefore, Operation.callTo, here, answered, statusOf, Reply.version?, Peer.link,
          sameId]
      refine .of_act (.finish calling (by simp only [sideBefore]; exact isLink)) ?_
      have isJoined := joined current held sameHandle
      simp [sideBefore, here, rewrites.linkTo, rewrites.madeFor, rewrites.memories,
        returnedIn_append, Peer.link_ready (current.imported snapshot.version) isJoined,
        Peer.link_imported]
    · refine .of_eq ?_
      simp [sideBefore, Operation.callTo, here, Ne.symm here, rewrites.linkTo, rewrites.madeFor,
        rewrites.memories, returnedIn_append]
  · simp only [computed, Option.some.injEq] at taken
    subst taken
    by_cases here : peer.endpoint = topology.endpoint other
    · have calling : ((before.engine node).sideTo before.rpcs (topology.endpoint other)).call =
          some (.updating peer.connectionId (sentVersion before.rpcs call)
            (.answered snapshot.version)) := by
        simp [sideBefore, Operation.callTo, here, answered, statusOf, Reply.version?]
      refine .of_act (.abandonUpdate calling (by simp) ?_) ?_
      · intro count link _ isLink sameId
        simp only [sideBefore] at isLink
        obtain ⟨current, held, rfl⟩ := get?_of_linkTo isLink
        exact gone current (here.symm ▸ held) ((authentic.sameObject made held).mp sameId)
      · simp [sideBefore, returnedIn_append]
    · refine .of_eq ?_
      simp [sideBefore, Operation.callTo, here, returnedIn_append]

/-- `publish` goes on to the next peer. -/
theorem resumeNotifying_own {metadata : Bytes} {snapshot : Snapshot} {peer : Peer}
    {rest : List Peer} {call : Nat}
    (running : (before.engine node).operation =
      some (.notifying metadata snapshot peer rest call))
    (distinct : ((peer :: rest).map Peer.endpoint).Nodup)
    (answered : answersOf before.rpcs call = [.ok .empty]) :
    OwnStep rules topology before
      (before.notify topology node (before.engine node).control metadata snapshot rest) node
      other := by
  have sideBefore := fun endpoint => Engine.sideTo_running running before.rpcs endpoint
  by_cases here : peer.endpoint = topology.endpoint other
  · -- The peer of the other node was told, and the rest of the list belongs to third nodes.
    have calling : ((before.engine node).sideTo before.rpcs (topology.endpoint other)).call =
        some (.notifying metadata snapshot.version (.told peer.connectionId (.answered ()))) := by
      simp [sideBefore, Operation.callTo, here, answered, statusOf, Reply.empty?]
    have noneLeft : pendingTurn rest (topology.endpoint other) = .past := by
      have absent : rest.find? (fun later => later.endpoint = topology.endpoint other) = none := by
        rw [List.find?_eq_none]
        intro later member same
        rw [List.map_cons, List.nodup_cons] at distinct
        exact distinct.1 (List.mem_map.mpr ⟨later, member, by simpa [here] using same⟩)
      rw [pendingTurn, absent]
    refine Relation.ReflTransGen.head (.pass calling) (notify_own ?_)
    simp [sideBefore, noneLeft]
  · apply notify_own
    simp [sideBefore, Operation.callTo, here]

/-- `disconnect` returns. -/
theorem resumeClosing_own {peer : Peer} {call : Nat}
    (running : (before.engine node).operation = some (.closing peer call))
    (answered : answersOf before.rpcs call = [.ok .empty]) :
    OwnStep rules topology before
      (before.setEngine node ((before.engine node).finish (before.engine node).control
        (.disconnect peer.handle (.ok ())))) node other := by
  have sideBefore := fun endpoint => Engine.sideTo_running running before.rpcs endpoint
  by_cases here : peer.endpoint = topology.endpoint other
  · have calling : ((before.engine node).sideTo before.rpcs (topology.endpoint other)).call =
        some (.closing peer.connectionId (.answered ())) := by
      simp [sideBefore, Operation.callTo, here, answered, statusOf, Reply.empty?]
    refine .of_act (.closed calling (by simp)) ?_
    simp [sideBefore, returnedIn_append]
  · refine .of_eq ?_
    simp [sideBefore, Operation.callTo, here, returnedIn_append]

/-- An operation that goes on is an act of its node. -/
theorem stepResume_own {operation : Operation} {call : Nat} {reply : Reply}
    (authentic : Authentic topology before) (waiting : before.Waiting)
    (made : MadeForNodes topology before) (succeeds : env.Succeeds)
    (running : (before.engine node).operation = some operation)
    (isCall : operation.call? = some call) (answered : answersOf before.rpcs call = [.ok reply])
    (taken : before.stepResume topology node operation reply env = some after) :
    OwnStep rules topology before after node other := by
  cases operation with
  | registered => simp [Operation.call?] at isCall
  | offering peer number =>
      obtain rfl : number = call := by simpa [Operation.call?] using isCall
      cases reply with
      | offer remote =>
          obtain ⟨addressed, named⟩ := authentic.offer_addressed waiting made running answered
          exact resumeOffering_own authentic succeeds running answered addressed named taken
      | snapshot => simp [System.stepResume] at taken
      | empty => simp [System.stepResume] at taken
  | updating peer number =>
      obtain rfl : number = call := by simpa [Operation.call?] using isCall
      cases reply with
      | snapshot snapshot =>
          exact resumeUpdating_own authentic succeeds running answered taken
      | offer => simp [System.stepResume] at taken
      | empty => simp [System.stepResume] at taken
  | notifying metadata snapshot peer rest number =>
      obtain rfl : number = call := by simpa [Operation.call?] using isCall
      cases reply with
      | empty =>
          simp only [System.stepResume, Option.some.injEq] at taken
          subst taken
          exact resumeNotifying_own running (waiting.notified node _ _ _ _ _ running) answered
      | offer => simp [System.stepResume] at taken
      | snapshot => simp [System.stepResume] at taken
  | closing peer number =>
      obtain rfl : number = call := by simpa [Operation.call?] using isCall
      cases reply with
      | empty =>
          simp only [System.stepResume, Option.some.injEq] at taken
          subst taken
          exact resumeClosing_own running answered
      | offer => simp [System.stepResume] at taken
      | snapshot => simp [System.stepResume] at taken

end Rdma101
