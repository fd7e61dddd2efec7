/-
Module: Rdma101.Control.Stale
Purpose: Messages of an old connection cannot hurt a live one: a Close destroys a peer only
  after the peer at the other end is gone, and Ready, Changed and Close touch only the peers
  connected to the id they carry.
Trusted boundary: none
Main exports: Request.about?, System.Untouched, stale_messages_harmless
-/
import Rdma101.Control.Authenticity

namespace Rdma101

open Wire ControlPlane

/-- The connection id that a request other than `Connect` is sent for. -/
def Request.about? : Request → Option String
  | .connect _ => none
  | .ready request => some request.connection.id
  | .changed request => some request.connection.id
  | .close request => some request.id

variable {Node : Type}

/-- A peer of a node is in the table after a step as it was before, with the same imports. -/
structure System.Untouched (before after : System Node) (node : Node) (peer : Peer) : Prop where
  held : (after.engine node).control.peers.get? peer.endpoint = some peer
  imports : ∀ metadata, (peer.handle, metadata) ∈ (after.engine node).control.native.imports ↔
    (peer.handle, metadata) ∈ (before.engine node).control.native.imports

/-- The grant of a request spares the peers that are connected to another id. -/
theorem Request.grant_spares {advertised id : String} {request : Request} {peer : Peer}
    (about : Request.about? request = some id) (other : peer.remoteConnectionId ≠ id) :
    (Request.grant advertised request).Spares peer := by
  cases request with
  | connect => simp [Request.about?] at about
  | ready request =>
      obtain rfl : request.connection.id = id := by simpa [Request.about?] using about
      exact ⟨fun _ => id, fun _ granted => other granted.2.1, fun granted => other granted.2, id⟩
  | changed request =>
      obtain rfl : request.connection.id = id := by simpa [Request.about?] using about
      exact ⟨fun _ => id, fun _ granted => other granted.2.1, id, id⟩
  | close request =>
      obtain rfl : request.id = id := by simpa [Request.about?] using about
      exact ⟨fun _ => id, fun _ => id, id, fun granted => other granted.2⟩

/-- A peer object that has left the table of its maker is in no table. -/
theorem Authentic.gone_everywhere {topology : Topology Node} {system : System Node}
    (authentic : Authentic topology system) {maker : Node} {origin : Peer}
    (made : origin ∈ (system.engine maker).control.created)
    (gone : (system.engine maker).control.Gone origin.connectionId) (node : Node) :
    (system.engine node).control.Gone origin.connectionId := by
  intro endpoint peer held sameId
  obtain ⟨second, secondMade, sameObject⟩ := (authentic.consistent node).made held
  obtain ⟨rfl, rfl⟩ := authentic.distinctIds maker origin made node second secondMade
    (by rw [sameObject.connectionId, sameId])
  exact gone endpoint peer held sameId

variable [DecidableEq Node] {topology : Topology Node} {before after : System Node}

/-- An action leaves the peers alone that everything it is entitled to spares. -/
theorem Transition.untouched {action : Action Node}
    (transition : Transition topology before action after)
    (authentic : Authentic topology before) {node : Node} {endpoint : String} {peer : Peer}
    (held : (before.engine node).control.peers.get? endpoint = some peer)
    (keepsOpen : action ≠ .close node)
    (spared : ∀ grant, Entitled topology before action node grant → grant.Spares peer) :
    before.Untouched after node peer := by
  have formed := (authentic.consistent node).formed held
  rw [← formed.keyed held] at held
  obtain ⟨actor, others, change⟩ := transition.effects
  by_cases here : node = actor
  · subst here
    rcases change with ⟨grant, entitled, _, effects⟩ | ⟨isClose, _⟩
    · obtain ⟨stillHeld, sameImports⟩ := Effects.spares effects (authentic.consistent node) held
        (spared grant entitled)
      exact ⟨stillHeld, sameImports⟩
    · exact absurd isClose keepsOpen
  · exact ⟨by rw [others node here]; exact held, fun _ => by rw [others node here]⟩

/-- Old-connection messages cannot hurt a live connection.  A Close destroys a peer only when the
peer object it was connected to has left every table; a Ready, Changed or Close touches no peer
connected to an id other than the one it carries; and a reply to Ready touches no peer but the
one that Ready was sent for. -/
theorem stale_messages_harmless
    (reached : (controlSystem topology).Reachable
      (fun system action => system.FreshNames topology action) before)
    {action : Action Node} (fresh : before.FreshNames topology action)
    (taken : (controlSystem topology).step before action = some after) :
    (∀ call env rpc request target endpoint peer, action = .handle call env →
      before.rpcs[call]? = some rpc → rpc.request = .close request →
      topology.resolve rpc.endpoint = some target →
      (before.engine target).control.peers.get? endpoint = some peer →
      (∀ key later, (after.engine target).control.peers.get? key = some later →
        later.handle ≠ peer.handle) →
      ∃ maker, ∃ origin ∈ (before.engine maker).control.created,
        origin.connectionId = peer.remoteConnectionId ∧
        ∀ node, (before.engine node).control.Gone origin.connectionId) ∧
    (∀ call env rpc id node endpoint peer, action = .handle call env →
      before.rpcs[call]? = some rpc → Request.about? rpc.request = some id →
      (before.engine node).control.peers.get? endpoint = some peer →
      peer.remoteConnectionId ≠ id → before.Untouched after node peer) ∧
    (∀ actor answer env waiting call node endpoint peer, action = .resume actor answer env →
      (before.engine actor).operation = some (.updating waiting call) →
      (before.engine node).control.peers.get? endpoint = some peer →
      (node = actor → peer.handle ≠ waiting.handle) → before.Untouched after node peer) := by
  have authentic := authentic_of_reachable (fun _ _ obeys => obeys) reached
  have transition := authentic.transition fresh taken
  have others : ∀ call env rpc id node endpoint peer, action = .handle call env →
      before.rpcs[call]? = some rpc → Request.about? rpc.request = some id →
      (before.engine node).control.peers.get? endpoint = some peer →
      peer.remoteConnectionId ≠ id → before.Untouched after node peer := by
    rintro call env rpc id node endpoint peer rfl found about held other
    apply transition.untouched authentic held (by simp)
    intro grant entitled
    cases entitled with
    | nothing => exact ⟨fun _ => False.elim, fun _ => False.elim, False.elim, False.elim⟩
    | handle sent reached' =>
        obtain rfl := Option.some.inj (found.symm.trans sent)
        exact Request.grant_spares about other
  refine ⟨?close, others, ?readyReply⟩
  case close =>
    rintro call env rpc request target endpoint peer rfl found isClose reached' held destroyed
    -- A peer connected to another id would still be there.
    have sameId : peer.remoteConnectionId = request.id := by
      by_contra other
      have untouched := others call env rpc request.id target endpoint peer rfl found
        (by rw [isClose]; rfl) held other
      exact destroyed _ peer untouched.held rfl
    obtain ⟨origin, made, _, about⟩ := authentic.requests rpc (List.mem_of_getElem? found)
    rw [isClose] at about
    obtain ⟨isRequest, gone⟩ := about
    exact ⟨rpc.caller, origin, made, by rw [sameId, isRequest]; rfl,
      authentic.gone_everywhere made gone⟩
  case readyReply =>
    rintro actor answer env waiting call node endpoint peer rfl isWaiting held other
    apply transition.untouched authentic held (by simp)
    intro grant entitled
    cases entitled with
    | nothing => exact ⟨fun _ => id, fun _ => id, id, id⟩
    | join waiting' =>
        rw [isWaiting] at waiting'
        simp at waiting'
    | finish waiting' =>
        obtain ⟨rfl, rfl⟩ : waiting = _ ∧ call = _ := by simpa [isWaiting] using waiting'
        exact ⟨fun _ => id, fun _ granted => other rfl granted.1,
          fun granted => other rfl granted.1, id⟩

theorem stale_messages_harmless_pair : ∃ (before after : System Bool) (peer origin : Peer),
    (controlSystem Topology.pair).step before (.handle 2 (.naming 3 "b3")) = some after ∧
    (before.engine true).control.peers.get? "alpha" = some peer ∧
    (after.engine true).control.peers.get? "alpha" = none ∧
    origin.connectionId = peer.remoteConnectionId ∧
    ∀ node, (before.engine node).control.Gone origin.connectionId := by
  have computed : ∃ before, (controlSystem Topology.pair).Reachable (fun system action =>
      system.FreshNames Topology.pair action) before ∧
      before.FreshNames Topology.pair (.handle 2 (.naming 3 "b3")) ∧
      (∃ rpc ∈ before.rpcs[2]?, rpc.request = .close { endpoint := "alpha", id := "a1" } ∧
        Topology.pair.resolve rpc.endpoint = some true) ∧
      ∃ peer ∈ (before.engine true).control.peers.get? "alpha",
      ∃ after ∈ before.step Topology.pair (.handle 2 (.naming 3 "b3")),
        (after.engine true).control.peers.get? "alpha" = none ∧
        (after.engine true).control.peers.values = [] :=
    LabelledSystem.exists_reachable (.initial rfl) connectAndDisconnect (by decide)
  obtain ⟨before, reached, fresh, ⟨rpc, found, isClose, goesThere⟩, peer, held, after, taken,
    destroyed, empty⟩ := computed
  have gone : ∀ key later, (after.engine true).control.peers.get? key = some later →
      later.handle ≠ peer.handle := by
    intro key later isLater
    have member := OrderedDict.mem_values.mpr ⟨key, isLater⟩
    simp [empty] at member
  obtain ⟨_, origin, _, sameId, isGone⟩ := (stale_messages_harmless reached fresh taken).1 2 _ rpc
    _ true "alpha" peer rfl found isClose goesThere held gone
  exact ⟨before, after, peer, origin, taken, held, destroyed, sameId, isGone⟩

end Rdma101
