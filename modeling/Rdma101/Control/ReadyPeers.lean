/-
Module: Rdma101.Control.ReadyPeers
Purpose: Ready peers of undisturbed runs: both ends of a connection agree on it, and a ready peer
  has imported every memory whose registration was published.
Trusted boundary: none
Main exports: ready_peers_agree, no_lost_registration
-/
import Rdma101.Control.Refinement
import Rdma101.Control.Snapshots

namespace Rdma101

open Wire ControlPlane Session

variable {Node : Type} [DecidableEq Node] {topology : Topology Node}

/-- Two peers that their nodes hold for each other, the first connected to the QP of the second. -/
structure Peer.Facing (topology : Topology Node) (system : System Node) (node other : Node)
    (peer theirs : Peer) : Prop where
  different : node ≠ other
  held : (system.engine node).control.peers.get? (topology.endpoint other) = some peer
  heldThere : (system.engine other).control.peers.get? (topology.endpoint node) = some theirs
  connected : (system.engine node).control.native.connected.get? peer.handle =
    some theirs.metadata

/-- A connected peer and the peer that its remote id names belong to two nodes that hold them for
each other, and the QP is connected to the metadata of the named peer. -/
theorem facing_of_reachable {allowed : System Node → Action Node → Prop}
    (undisturbed : ∀ system action, allowed system action → system.Undisturbed topology action)
    {system : System Node} (reached : (controlSystem topology).Reachable allowed system)
    {node other : Node} {endpoint key : String} {peer theirs : Peer}
    (held : (system.engine node).control.peers.get? endpoint = some peer)
    (joined : peer.state ≠ .created)
    (heldThere : (system.engine other).control.peers.get? key = some theirs)
    (named : theirs.connectionId = peer.remoteConnectionId) :
    Peer.Facing topology system node other peer theirs := by
  have fresh : ∀ system action, allowed system action → system.FreshNames topology action :=
    fun _ _ obeys => (undisturbed _ _ obeys).fresh
  have authentic := authentic_of_reachable fresh reached
  have made := madeForNodes_of_reachable fresh
    (fun _ _ obeys => (undisturbed _ _ obeys).advertised) reached
  have wired := wired_of_reachable fresh reached node
  have formed := (authentic.consistent node).formed held
  have formedThere := (authentic.consistent other).formed heldThere
  obtain ⟨_, ⟨maker, origin, member, goesHere, rfl⟩, sameId, sameEndpoint, connected, _⟩ :=
    wired endpoint peer held joined
  obtain ⟨first, firstMember, sameObject⟩ := formedThere.fromCreated heldThere
  obtain ⟨rfl, rfl⟩ := authentic.distinctIds maker origin member other first firstMember
    (by rw [sameObject.connectionId, named]; exact sameId)
  obtain ⟨dialed, different, isDialed⟩ := made maker origin member
  rw [isDialed, topology.resolve_endpoint, Option.some.injEq] at goesHere
  subst goesHere
  have isKey : key = topology.endpoint dialed := by
    rw [← formedThere.keyed heldThere, ← sameObject.endpoint, isDialed]
  have isEndpoint : endpoint = topology.endpoint maker := by
    rw [← formed.keyed held, ← sameEndpoint]
    rfl
  exact ⟨different, isEndpoint ▸ held, isKey ▸ heldThere, sameObject.metadata ▸ connected⟩

/-- READY agreement. -/
theorem ready_peers_agree {system : System Node}
    (reached : (controlSystem topology).Reachable (System.Undisturbed topology) system)
    {node other : Node} {endpoint key : String} {peer theirs : Peer}
    (held : (system.engine node).control.peers.get? endpoint = some peer)
    (isReady : peer.state = .ready)
    (heldThere : (system.engine other).control.peers.get? key = some theirs)
    (named : theirs.connectionId = peer.remoteConnectionId) :
    theirs.remoteConnectionId = peer.connectionId ∧
      (system.engine node).control.native.connected.get? peer.handle = some theirs.metadata ∧
      (system.engine other).control.native.connected.get? theirs.handle = some peer.metadata := by
  have undisturbed : ∀ system action, System.Undisturbed topology system action →
      System.Undisturbed topology system action := fun _ _ obeys => obeys
  have facing := facing_of_reachable undisturbed reached held (by simp [isReady]) heldThere named
  have orderly := orderly_of_reachable undisturbed reached facing.different
  have back : theirs.link.remote = some peer.connectionId :=
    orderly.agrees.ready _ _ (linkTo_of_get? facing.held) (by simp [Peer.link, isReady])
      (linkTo_of_get? facing.heldThere) (by simp [Peer.link, isReady, named])
  obtain ⟨joined, sameId⟩ : theirs.state ≠ .created ∧
      theirs.remoteConnectionId = peer.connectionId := by
    simpa [Peer.link] using back
  have facingBack := facing_of_reachable undisturbed reached facing.heldThere joined facing.held
    sameId.symm
  exact ⟨sameId, facing.connected, facingBack.connected⟩

theorem ready_peers_agree_pair : ∃ (system : System Bool) (peer theirs : Peer),
    (system.engine false).control.peers.get? "beta" = some peer ∧ peer.state = .ready ∧
    theirs.remoteConnectionId = peer.connectionId ∧
    (system.engine false).control.native.connected.get? peer.handle = some theirs.metadata ∧
    (system.engine true).control.native.connected.get? theirs.handle = some peer.metadata := by
  have computed : ∃ system, (controlSystem Topology.pair).Reachable
      (System.Undisturbed Topology.pair) system ∧
      ∃ peer ∈ (system.engine false).control.peers.get? "beta", peer.state = .ready ∧
      ∃ theirs ∈ (system.engine true).control.peers.get? "alpha",
        theirs.connectionId = peer.remoteConnectionId :=
    LabelledSystem.exists_reachable (.initial rfl) connectAndRegister (by decide)
  obtain ⟨system, reached, peer, held, isReady, theirs, heldThere, named⟩ := computed
  exact ⟨system, peer, theirs, held, isReady,
    ready_peers_agree reached held isReady heldThere named⟩

/-- No lost registration. -/
theorem no_lost_registration {system : System Node}
    (reached : (controlSystem topology).Reachable (System.Undisturbed topology) system)
    {node other : Node} {endpoint key : String} {peer theirs : Peer} {metadata : Bytes}
    (published : .publish metadata (.ok ()) ∈ (system.engine node).outcomes)
    (heldThere : (system.engine other).control.peers.get? key = some theirs)
    (isReady : theirs.state = .ready)
    (held : (system.engine node).control.peers.get? endpoint = some peer)
    (named : peer.connectionId = theirs.remoteConnectionId) :
    (theirs.handle, metadata) ∈ (system.engine other).control.native.imports := by
  have undisturbed : ∀ system action, System.Undisturbed topology system action →
      System.Undisturbed topology system action := fun _ _ obeys => obeys
  have facing := facing_of_reachable undisturbed reached heldThere (by simp [isReady]) held named
  have orderly := orderly_of_reachable undisturbed reached facing.different
  have orderlyBack := orderly_of_reachable undisturbed reached facing.different.symm
  have link := linkTo_of_get? facing.held
  have linkBack := linkTo_of_get? facing.heldThere
  have forth : theirs.link.remote = some peer.link.id := by simp [Peer.link, isReady, named]
  have back : peer.link.remote = some theirs.link.id :=
    orderly.agrees.ready _ _ link (by simp [Peer.link, isReady]) linkBack forth
  have imported : metadata ∈ (system.engine node).control.memoryMetadata.take
      theirs.link.version :=
    orderlyBack.covers.ready orderlyBack.records orderlyBack.catches
      ⟨linkBack, link, back, forth⟩ (by simp [Peer.link, isReady]) published
  have isEndpoint : theirs.endpoint = topology.endpoint node :=
    ((authentic_of_reachable (fun _ _ obeys => (undisturbed _ _ obeys).fresh) reached).consistent
      other).formed facing.held |>.keyed facing.held
  obtain ⟨⟨count, _, covers, imports, _⟩, _⟩ := imports_are_prefix
    (reached.mono fun _ _ obeys => ⟨obeys.fresh, obeys.keepsOpen⟩) facing.held isEndpoint
  refine (imports metadata).mpr (mem_take_of_le ?_ imported)
  have : theirs.link.version ≤ count := by
    simp only [Peer.link]
    omega
  exact this

theorem no_lost_registration_pair : ∃ (system : System Bool) (theirs : Peer),
    (system.engine true).control.peers.get? "alpha" = some theirs ∧
    (theirs.handle, [7]) ∈ (system.engine true).control.native.imports := by
  have computed : ∃ system, (controlSystem Topology.pair).Reachable
      (System.Undisturbed Topology.pair) system ∧
      .publish [7] (.ok ()) ∈ (system.engine false).outcomes ∧
      ∃ theirs ∈ (system.engine true).control.peers.get? "alpha", theirs.state = .ready ∧
      ∃ peer ∈ (system.engine false).control.peers.get? "beta",
        peer.connectionId = theirs.remoteConnectionId :=
    LabelledSystem.exists_reachable (.initial rfl) connectAndRegister (by decide)
  obtain ⟨system, reached, published, theirs, heldThere, isReady, peer, held, named⟩ := computed
  exact ⟨system, theirs, heldThere,
    no_lost_registration reached published heldThere isReady held named⟩

end Rdma101
