/-
Module: Rdma101.Control.LostReplies
Purpose: Runs in which replies get lost and native imports fail, but no peer is dropped: which
  peers are ready at one end only, and which memories a ready peer has imported.
Trusted boundary: none
Main exports: System.MayLoseReplies, System.LeavesUnready, Lossy, System.Matched,
  lossy_of_reachable
-/
import Rdma101.Control.Acknowledged
import Rdma101.Control.Snapshots

namespace Rdma101

open Wire ControlPlane ControlServicer

variable {Node : Type}

/-! ### The discipline

A caller may give up after its request was handled, so it may be wrong about what happened at
the other end; but no request is handled after its caller has gone on. -/

/-- No application disconnects; every request is handled once at most, and its caller gives up
only after that.  Any native call may fail, and any engine may close. -/
structure System.MayLoseReplies (topology : Topology Node) (system : System Node)
    (action : Action Node) : Prop where
  fresh : system.FreshNames topology action
  noDisconnect : action.NoDisconnect
  losesReplies : system.LosesReplies action

/-- The table holds the peer object, and not as a ready peer. -/
def ControlPlane.Unready (control : ControlPlane) (peer : Peer) : Prop :=
  ∃ current ∈ control.peers.get? peer.endpoint, current.handle = peer.handle ∧
    current.state ≠ .ready

/-- The answer carries a newer snapshot than the peer has, and one of its imports fails. -/
def Environment.FailsImport (env : Environment) (control : ControlPlane) (peer : Peer) :
    Except PyError Reply → Prop
  | .ok (.snapshot snapshot) => (∃ current ∈ control.peers.get? peer.endpoint,
      (snapshot.version : Int) > current.remoteVersion) ∧
      ∃ failure ∈ env.importFailure, failure.1 < snapshot.memories.length
  | _ => False

/-- The call has returned at its target. -/
def System.HasReturned (system : System Node) (call : Nat) : Prop :=
  ∃ rpc ∈ system.rpcs[call]?, ∃ answer ∈ rpc.answers, answer.isOk = true

/-- The action ends a `connect` in an error after the handler of its `Ready` has returned, while
its own peer is not ready: the reply got lost, or an import of the snapshot it carries fails. -/
def System.LeavesUnready (system : System Node) : Action Node → Prop
  | .timeout node => ∃ peer call, (system.engine node).operation = some (.updating peer call) ∧
      system.HasReturned call ∧ (system.engine node).control.Unready peer
  | .resume node index env => ∃ peer call,
      (system.engine node).operation = some (.updating peer call) ∧
      (∃ rpc ∈ system.rpcs[call]?, ∃ answer ∈ rpc.answers[index]?,
        env.FailsImport (system.engine node).control peer answer) ∧
      (system.engine node).control.Unready peer
  | _ => False

/-! ### What the sections of `connect` and the handler of `Ready` leave behind

An import that fails leaves the table as it was, and only a section that returns has marked its
peer ready. -/

section Sections

variable {env : Environment} {advertised : String} {control after : ControlPlane} {peer : Peer}

/-- The section between the two RPCs, once it returned, has connected the peer to the offer. -/
theorem connectUpdate_joined {remote : Offer} {update : Update} (consistent : control.Consistent)
    (run : (connectUpdate advertised env peer remote).run control = .ok update after) :
    ∃ current, after.peers.get? peer.endpoint = some current ∧
      current.handle = peer.handle ∧ current.remoteConnectionId = remote.connection.id := by
  rw [run_connectUpdate] at run
  split at run
  · simp at run
  rename_i current middle found
  have required : Section env {} (requirePeer peer) control _ := requirePeer_performs consistent
  obtain ⟨-, rfl, held, sameEndpoint, sameHandle⟩ := required.ok found
  split at run
  · simp at run
  rename_i joins
  obtain ⟨-, rfl⟩ := EStateM.Result.ok.inj run
  obtain ⟨_, _, joined, stored, sameObject, sameRemote⟩ :=
    connectNative_joined (consistent.formed held) held joins
  exact ⟨joined, sameEndpoint ▸ stored, sameObject.handle.trans sameHandle, sameRemote⟩

/-- The last section, once it returned, has made the peer ready at the version of the snapshot. -/
theorem connectFinish_returns {snapshot : Snapshot} {handle : Handle}
    (consistent : control.Consistent)
    (joined : ∀ current, control.peers.get? peer.endpoint = some current →
      current.handle = peer.handle → current.state ≠ .created)
    (run : (connectFinish env peer snapshot).run control = .ok handle after) :
    ∃ current, after.peers.get? peer.endpoint = some current ∧
      current.handle = peer.handle ∧ current.state = .ready ∧
      (snapshot.version : Int) ≤ current.remoteVersion := by
  rw [run_connectFinish] at run
  split at run
  · simp at run
  rename_i current middle found
  have required : Section env {} (requirePeer peer) control _ := requirePeer_performs consistent
  obtain ⟨-, rfl, held, sameEndpoint, sameHandle⟩ := required.ok found
  split at run
  · simp at run
  rename_i imports
  split at run
  · simp at run
  rename_i marks
  obtain ⟨-, rfl⟩ := EStateM.Result.ok.inj run
  obtain ⟨final, stored, sameObject, _, isReady, version⟩ :=
    importReady_delivers (consistent.formed held) held
      (joined current (sameEndpoint ▸ held) sameHandle) imports marks
  exact ⟨final, sameEndpoint ▸ stored, sameObject.handle.trans sameHandle, isReady, version⟩

/-- A snapshot that could not be imported leaves the table as it was. -/
theorem importSnapshot_fails {snapshot : Snapshot} {error : PyError} (formed : control.WellFormed)
    (held : control.peers.get? peer.endpoint = some peer) (joined : peer.state ≠ .created)
    (run : (importSnapshot env peer snapshot).run control = .error error after) :
    after.peers = control.peers ∧ (snapshot.version : Int) > peer.remoteVersion ∧
      ∃ failure ∈ env.importFailure, failure.1 < snapshot.memories.length := by
  rcases run_importSnapshot env snapshot formed held joined with
    ⟨_, computed⟩ | ⟨_, computed⟩ | ⟨newer, done, metadata, rest, code, split, failure, computed⟩
  · simp [computed] at run
  · simp [computed] at run
  · rw [computed] at run
    obtain ⟨-, rfl⟩ := EStateM.Result.error.inj run
    exact ⟨rfl, newer, _, by rw [failure]; rfl, by simp [split]⟩

/-- The check that the table still holds the peer object, either way. -/
theorem requirePeer_cases (control : ControlPlane) (peer : Peer) :
    (∃ current, control.peers.get? peer.endpoint = some current ∧
        current.handle = peer.handle ∧ (requirePeer peer).run control = .ok current control) ∨
      ((∀ current, control.peers.get? peer.endpoint = some current →
          current.handle ≠ peer.handle) ∧
        ∃ error, (requirePeer peer).run control = .error error control) := by
  have run := run_requirePeer control peer
  cases held : control.peers.get? peer.endpoint with
  | none =>
      rw [held] at run
      exact .inr ⟨by simp, _, run⟩
  | some current =>
      simp only [held] at run
      by_cases same : current.handle = peer.handle
      · simp only [same, ne_eq, not_true_eq_false, if_false] at run
        exact .inl ⟨current, rfl, same, run⟩
      · simp only [same, ne_eq, not_false_eq_true, if_true] at run
        exact .inr ⟨by simp [same], _, run⟩

/-- A peer of the table can be marked. -/
theorem markReady_returns {current : Peer}
    (stored : control.peers.get? peer.endpoint = some current)
    (sameEndpoint : current.endpoint = peer.endpoint) :
    ∃ final, (markReady peer).run control = .ok () final := by
  have sameProgram : markReady peer = markReady current := by
    rw [markReady, markReady, sameEndpoint]
  exact ⟨_, by rw [sameProgram, run_markReady (sameEndpoint ▸ stored)]⟩

/-- The last section, when it raises, leaves the table as it was; if the table holds the peer,
an import of the snapshot failed. -/
theorem connectFinish_fails {snapshot : Snapshot} {error : PyError}
    (consistent : control.Consistent)
    (joined : ∀ current, control.peers.get? peer.endpoint = some current →
      current.handle = peer.handle → current.state ≠ .created)
    (run : (connectFinish env peer snapshot).run control = .error error after) :
    after.peers = control.peers ∧ ∀ current, control.peers.get? peer.endpoint = some current →
      current.handle = peer.handle → env.FailsImport control peer (.ok (.snapshot snapshot)) := by
  rw [run_connectFinish] at run
  rcases requirePeer_cases control peer with
    ⟨current, held, sameHandle, found⟩ | ⟨gone, raised, found⟩
  · have formed := consistent.formed held
    have sameEndpoint := formed.keyed held
    have heldHere : control.peers.get? current.endpoint = some current := by
      rw [sameEndpoint, held]
    have isJoined := joined current held sameHandle
    simp only [found] at run
    split at run
    · rename_i fails
      obtain ⟨-, rfl⟩ := EStateM.Result.error.inj run
      obtain ⟨samePeers, newer, failure⟩ := importSnapshot_fails formed heldHere isJoined fails
      exact ⟨samePeers, fun _ _ _ => ⟨⟨current, held, newer⟩, failure⟩⟩
    · rename_i imports
      obtain ⟨imported, stored, sameObject, _⟩ :=
        importSnapshot_delivers formed heldHere isJoined imports
      obtain ⟨final, marked⟩ := markReady_returns stored sameObject.endpoint
      simp [marked] at run
  · simp only [found] at run
    obtain ⟨-, rfl⟩ := EStateM.Result.error.inj run
    exact ⟨rfl, fun current held same => absurd same (gone current held)⟩

/-- The handler of `Ready`, when it raises, leaves the table as it was. -/
theorem ready_fails {request : Update} {error : PyError} (consistent : control.Consistent)
    (run : (ready env request).run control = .error error after) :
    after.peers = control.peers := by
  rw [run_ready] at run
  split at run
  · obtain ⟨-, rfl⟩ := EStateM.Result.error.inj run
    rfl
  split at run
  · rename_i found
    obtain ⟨-, rfl⟩ := EStateM.Result.error.inj run
    rw [run_findConnection] at found
    split at found
    · exact (EStateM.Result.error.inj found).2 ▸ rfl
    · split at found
      · exact (EStateM.Result.error.inj found).2 ▸ rfl
      · simp at found
  · rename_i found
    obtain ⟨rfl, held, _, _, joined⟩ := findConnection_finds consistent found
    have formed := consistent.formed held
    split at run
    · rename_i fails
      obtain ⟨-, rfl⟩ := EStateM.Result.error.inj run
      exact (importSnapshot_fails formed held joined fails).1
    · rename_i imports
      obtain ⟨imported, stored, sameObject, _⟩ :=
        importSnapshot_delivers formed held joined imports
      obtain ⟨final, marked⟩ := markReady_returns stored sameObject.endpoint
      simp [marked] at run

end Sections

/-! ### Where a ready peer comes from -/

section Effects

variable {env : Environment} {grant : Grant} {before after : ControlPlane} {key : String}
  {peer : Peer}

/-- Effects that mark no peer leave a ready peer only where there was one. -/
theorem Effects.ready_before (effects : Effects env grant before after)
    (consistent : before.Consistent) (noReadies : ∀ peer, ¬grant.readies peer)
    (held : after.peers.get? key = some peer) (isReady : peer.state = .ready) :
    ∃ earlier, before.peers.get? key = some earlier ∧ earlier.Succeeds peer ∧
      earlier.state = .ready := by
  obtain ⟨endpoint, known, knownHeld, sameHandle, wasReady⟩ : ∃ endpoint known,
      before.peers.get? endpoint = some known ∧ known.handle = peer.handle ∧
      known.state = .ready := by
    by_contra none
    refine Effects.state_within (fun state => state ≠ .ready) effects (by simp)
      (fun _ _ _ => by simp) (fun peer _ granted => absurd granted (noReadies peer)) ?_ key peer
      held rfl isReady
    exact fun endpoint known knownHeld sameHandle wasReady =>
      none ⟨endpoint, known, knownHeld, sameHandle, wasReady⟩
  have formed := consistent.formed knownHeld
  rcases (Effects.evolves effects consistent).origin held with
    ⟨earlier, earlierHeld, succeeds⟩ | ⟨_, _, unused⟩
  · have sameKey := formed.handle_injective knownHeld earlierHeld
      (sameHandle.trans succeeds.sameObject.handle)
    obtain rfl : known = earlier := by
      rw [sameKey, earlierHeld] at knownHeld
      exact (Option.some.inj knownHeld).symm
    exact ⟨known, earlierHeld, succeeds, wasReady⟩
  · obtain ⟨origin, made, sameObject⟩ := formed.fromCreated knownHeld
    exact absurd (sameObject.handle.trans sameHandle) (unused origin made)

/-- Effects that neither make nor connect a peer leave a connected peer only where there was
one. -/
theorem Effects.joined_before (effects : Effects env grant before after)
    (consistent : before.Consistent) (noCreates : ∀ key, ¬grant.creates key)
    (noOffers : ∀ peer offer, ¬grant.offers peer offer)
    (held : after.peers.get? key = some peer) (joined : peer.state ≠ .created) :
    ∃ earlier, before.peers.get? key = some earlier ∧ earlier.Succeeds peer ∧
      earlier.state ≠ .created := by
  rcases (Effects.evolves effects consistent).origin held with
    ⟨earlier, earlierHeld, succeeds⟩ | ⟨granted, _⟩
  · refine ⟨earlier, earlierHeld, succeeds, fun unconnected => ?_⟩
    have formed := consistent.formed earlierHeld
    refine joined (Effects.state_within (fun state => state = .created) effects rfl
      (fun peer offer granted => absurd granted (noOffers peer offer))
      (fun _ _ _ connected unconnected => absurd unconnected connected) ?_ key peer held rfl)
    intro endpoint known knownHeld sameHandle
    have sameKey := formed.handle_injective knownHeld earlierHeld
      (sameHandle.trans succeeds.sameObject.handle)
    rw [sameKey, earlierHeld] at knownHeld
    exact Option.some.inj knownHeld ▸ unconnected
  · exact absurd granted (noCreates key)

end Effects

/-! ### What is known of every state

The facts of earlier modules that hold in these runs, in one record; the invariants of this
module and of the ones that build on it take it as their premise. -/

/-- The facts about runs that lose replies and drop no peer. -/
structure Lossy (topology : Topology Node) (system : System Node) : Prop where
  authentic : Authentic topology system
  wired : ∀ node, Wired (Offered topology system node) (system.engine node).control
  patient : system.Patient
  noCloses : system.NoCloses
  acknowledged : system.Acknowledged topology

/-- A control plane whose table holds an entry is open. -/
theorem ControlPlane.Consistent.open_of_held {control : ControlPlane} {key : String} {peer : Peer}
    (consistent : control.Consistent) (held : control.peers.get? key = some peer) :
    control.closed = false := by
  cases isClosed : control.closed with
  | false => rfl
  | true => simp [consistent.shut isClosed] at held

section Entries

variable {topology : Topology Node} {system : System Node}

/-- Two entries of any tables with one id are one entry. -/
theorem Authentic.entry_unique (authentic : Authentic topology system) {node other : Node}
    {key second : String} {peer same : Peer}
    (held : (system.engine node).control.peers.get? key = some peer)
    (heldThere : (system.engine other).control.peers.get? second = some same)
    (sameId : peer.connectionId = same.connectionId) :
    node = other ∧ key = second ∧ peer = same := by
  obtain ⟨origin, made, isPeer⟩ := (authentic.consistent node).made held
  obtain ⟨source, sourceMade, isSame⟩ := (authentic.consistent other).made heldThere
  obtain ⟨rfl, rfl⟩ := authentic.distinctIds node origin made other source sourceMade
    (by rw [isPeer.connectionId, isSame.connectionId, sameId])
  have formed := (authentic.consistent node).formed held
  obtain rfl : key = second := by
    rw [← formed.keyed held, ← formed.keyed heldThere, ← isPeer.endpoint, ← isSame.endpoint]
  exact ⟨rfl, rfl, by simpa [held] using heldThere⟩

/-- The entry of a table whose id a peer of the node has is under the endpoint of the peer. -/
theorem Authentic.entry_key (authentic : Authentic topology system) {node : Node} {key : String}
    {peer current : Peer} (made : system.Made node peer)
    (held : (system.engine node).control.peers.get? key = some current)
    (sameId : peer.connectionId = current.connectionId) : key = peer.endpoint := by
  obtain ⟨origin, member, isPeer⟩ := made
  have formed := (authentic.consistent node).formed held
  obtain ⟨entry, entryMember, isEntry⟩ := formed.fromCreated held
  obtain ⟨-, rfl⟩ := authentic.distinctIds node origin member node entry entryMember
    (by rw [isPeer.connectionId, sameId, isEntry.connectionId])
  rw [← formed.keyed held, ← isEntry.endpoint, isPeer.endpoint]

/-- The peer `theirs` of the second node is connected to the live peer `own` of the first. -/
structure System.Linked (system : System Node) (node other : Node) (key second : String)
    (own theirs : Peer) : Prop where
  held : (system.engine node).control.peers.get? key = some own
  heldThere : (system.engine other).control.peers.get? second = some theirs
  named : own.connectionId = theirs.remoteConnectionId

/-- An entry that is connected to another node's entry sits under the endpoint that the other
node advertises, at the node that the other entry dials. -/
theorem Lossy.connected (lossy : Lossy topology system) {node other : Node}
    {key second : String} {own theirs : Peer}
    (linked : system.Linked node other key second own theirs) :
    second = topology.endpoint node ∧ topology.resolve key = some other := by
  obtain ⟨held, heldThere, named⟩ := linked
  have formed := (lossy.authentic.consistent node).formed held
  have formedThere := (lossy.authentic.consistent other).formed heldThere
  obtain ⟨origin, made, isOwn⟩ := (lossy.authentic.consistent node).made held
  have joined : theirs.state ≠ .created := by
    intro unconnected
    apply formed.idNonempty origin made
    rw [isOwn.connectionId, named, (formedThere.named heldThere).mp unconnected]
  obtain ⟨_, ⟨maker, source, sourceMade, reached, rfl⟩, sameId, sameEndpoint, _⟩ :=
    lossy.wired other second theirs heldThere joined
  obtain ⟨rfl, rfl⟩ := lossy.authentic.distinctIds node origin made maker source sourceMade
    (by rw [isOwn.connectionId, named]; exact sameId.symm)
  constructor
  · rw [← formedThere.keyed heldThere, ← sameEndpoint]
    rfl
  · rw [← formed.keyed held, ← isOwn.endpoint, reached]

/-- The operation that waits for a `Ready` is the connect of the peer that the request names. -/
theorem Authentic.updating_of_call (authentic : Authentic topology system) {call : Nat}
    {rpc : Rpc Node} {operation : Operation} {update : Update}
    (running : (system.engine rpc.caller).operation = some operation)
    (isCall : operation.call? = some call) (found : system.rpcs[call]? = some rpc)
    (isReady : rpc.request = .ready update) :
    ∃ peer, operation = .updating peer call ∧
      update.connection.id = peer.connectionId := by
  have about := authentic.operations rpc.caller operation running
  cases operation with
  | registered => simp [Operation.call?] at isCall
  | offering peer number =>
      obtain rfl : number = call := by simpa [Operation.call?] using isCall
      obtain ⟨_, _, isSent, _, _, isRequest⟩ := about
      simp_all
  | updating peer number =>
      obtain rfl : number = call := by simpa [Operation.call?] using isCall
      obtain ⟨_, ⟨snapshot, _, isSent, _, _, isRequest⟩, _⟩ := about
      refine ⟨peer, rfl, ?_⟩
      simp_all [connection]
  | notifying metadata snapshot peer rest number =>
      obtain rfl : number = call := by simpa [Operation.call?] using isCall
      obtain ⟨_, _, _, isSent, _, _, isRequest⟩ := about
      simp_all
  | closing peer number =>
      obtain rfl : number = call := by simpa [Operation.call?] using isCall
      obtain ⟨_, ⟨_, isSent, _, _, isRequest⟩, _⟩ := about
      simp_all

/-- The peer of a connect that waits for the reply to its `Ready` is connected to an entry under
the endpoint that the node advertises. -/
def System.Matched (topology : Topology Node) (system : System Node) : Prop :=
  ∀ node other key second own theirs peer call,
    system.Linked node other key second own theirs →
    (system.engine other).operation = some (.updating peer call) →
    peer.connectionId = theirs.connectionId → key = topology.endpoint other

/-- A connect whose `Ready` has returned is about a peer that is linked to a ready one. -/
theorem Lossy.replied_ready (lossy : Lossy topology system)
    (matched : system.Matched topology) {node other : Node} {key second : String}
    {own theirs : Peer} (linked : system.Linked node other key second own theirs)
    {peer : Peer} {call : Nat} {rpc : Rpc Node} {reply : Reply}
    (running : (system.engine other).operation = some (.updating peer call))
    (sameId : peer.connectionId = theirs.connectionId) (found : system.rpcs[call]? = some rpc)
    (answered : .ok reply ∈ rpc.answers) : own.state = .ready := by
  have authentic := lossy.authentic
  obtain ⟨isMade, ⟨given, sent, isSent, isCaller, isEndpoint, isRequest⟩, _⟩ :=
    authentic.operations other _ running
  obtain rfl : rpc = sent := by simpa [found] using isSent
  obtain ⟨isTarget, _⟩ := lossy.connected linked
  have isKey := authentic.entry_key isMade linked.heldThere sameId
  obtain ⟨entry, entryHeld, acknowledges⟩ := lossy.acknowledged rpc
    (List.mem_of_getElem? found) _ answered node
    (by rw [isEndpoint, ← isKey, isTarget, topology.resolve_endpoint])
    (isCaller ▸ (authentic.consistent other).open_of_held linked.heldThere)
    ((authentic.consistent node).open_of_held linked.held)
  rw [isRequest] at entryHeld acknowledges
  obtain rfl : own = entry := by
    have held := linked.held
    rw [matched node other key second own theirs peer call linked running sameId] at held
    exact Option.some.inj (held.symm.trans entryHeld)
  exact acknowledges.2.1

end Entries

variable [DecidableEq Node] {topology : Topology Node} {before after : System Node}
  {action : Action Node}

/-- A live peer that another one is connected to was there before. -/
theorem Lossy.linked_before (lossy : Lossy topology before)
    (transition : Transition topology before action after)
    (authentic : Authentic topology after) {node other : Node} {key second : String}
    {own theirs : Peer} (linked : after.Linked node other key second own theirs) :
    ∃ earlier, (before.engine node).control.peers.get? key = some earlier ∧
      earlier.Succeeds own := by
  obtain ⟨held, heldThere, named⟩ := linked
  obtain ⟨env, grant, fresh, evolves⟩ :=
    (transition.grows lossy.authentic.consistent).evolves node
  rcases evolves.origin held with earlier | ⟨granted, sameId, _⟩
  · exact earlier
  · -- No peer is connected to an id that is drawn now.
    have isFresh := fresh key granted
    have joined : theirs.state ≠ .created := by
      intro unconnected
      apply isFresh.nonempty
      rw [← sameId, named]
      exact (((authentic.consistent other).formed heldThere).named heldThere).mp unconnected
    obtain ⟨_, ⟨maker, origin, made, _, rfl⟩, isRemote, _⟩ :=
      transition.wired_before lossy.authentic lossy.wired other second theirs heldThere joined
    exact absurd (isRemote.trans (named.symm.trans sameId)) (isFresh.id maker origin made)

theorem lossy_of_reachable {allowed : System Node → Action Node → Prop}
    (mayLose : ∀ system action, allowed system action → system.MayLoseReplies topology action)
    {system : System Node} (reached : (controlSystem topology).Reachable allowed system) :
    Lossy topology system := by
  have fresh : ∀ system action, allowed system action → system.FreshNames topology action :=
    fun _ _ obeys => (mayLose _ _ obeys).fresh
  let property (state : System Node) : Prop := state.NoCloses ∧ state.Acknowledged topology
  have holds : property system := by
    refine reached.invariant_with (fun _ => authentic_of_reachable fresh)
      (fun state isStart => ?_) ?_
    · rw [show state = System.start from isStart]
      exact ⟨by simp [System.NoCloses, System.start], by simp [System.Acknowledged, System.start]⟩
    · intro before action after authentic _ held obeys taken
      have obeyed := mayLose before action obeys
      have transition := authentic.transition obeyed.fresh taken
      exact ⟨transition.noCloses taken obeyed.noDisconnect held.1,
        transition.acknowledged authentic obeyed.fresh taken obeyed.noDisconnect held.1 held.2⟩
  exact ⟨authentic_of_reachable fresh reached, wired_of_reachable fresh reached,
    patient_of_reachable fresh (fun _ _ obeys => (mayLose _ _ obeys).losesReplies) reached,
    holds.1, holds.2⟩

end Rdma101
