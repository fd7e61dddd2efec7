/-
Module: Rdma101.Control.Wiring
Purpose: No cross-wiring: however unreliable the network, a connected peer is connected to the
  one peer object that its remote id names, which was made by the node it dials and for the
  node it belongs to.
Trusted boundary: none
Main exports: Offered, wired_of_reachable, Peer.Advances, no_cross_wiring
-/
import Rdma101.Control.Authenticity

namespace Rdma101

open Wire ControlPlane

variable {Node : Type}

/-- Some node made the offered peer object, for an address that reaches `node`. -/
def Offered (topology : Topology Node) (system : System Node) (node : Node) (_ : Peer)
    (given : Offer) : Prop :=
  ∃ maker, ∃ origin ∈ (system.engine maker).control.created,
    topology.resolve origin.endpoint = some node ∧
      given = offer (topology.endpoint maker) origin

theorem Wired.mono {admits wider : Peer → Offer → Prop} {control : ControlPlane}
    (wired : Wired admits control) (weaker : ∀ peer offer, admits peer offer → wider peer offer) :
    Wired wider control := by
  intro endpoint peer held joined
  obtain ⟨offer, admitted, rest⟩ := wired endpoint peer held joined
  exact ⟨offer, weaker peer offer admitted, rest⟩

theorem Offered.extend {topology : Topology Node} {before after : System Node} {node : Node}
    {peer : Peer} {given : Offer} (grows : before.GrowsTo after)
    (offered : Offered topology before node peer given) :
    Offered topology after node peer given := by
  obtain ⟨maker, origin, made, reached, isOffer⟩ := offered
  exact ⟨maker, origin, grows.created made, reached, isOffer⟩

/-- An offer that a node is entitled to connect a peer to was made for the node. -/
theorem Entitled.offered {topology : Topology Node} {system : System Node}
    {action : Action Node} {node : Node} {grant : Grant}
    (entitled : Entitled topology system action node grant)
    (authentic : Authentic topology system) {peer : Peer} {given : Offer}
    (granted : grant.offers peer given) : Offered topology system node peer given := by
  cases entitled with
  | nothing => exact granted.elim
  | dial => exact granted.elim
  | finish => exact granted.elim
  | append => exact granted.elim
  | disconnect => exact granted.elim
  | register => exact granted.elim
  | @join _ _ call env waitingPeer rpc remote waiting sent answered =>
      obtain ⟨_, _, rfl⟩ := granted
      obtain ⟨target, reached, isReply⟩ :=
        authentic.replies rpc (List.mem_of_getElem? sent) _ answered
      obtain ⟨_, found, isRpc, _, _, isRequest⟩ := authentic.operations node _ waiting
      obtain rfl : found = rpc := by simpa [isRpc] using sent
      rw [isRequest] at isReply
      obtain ⟨origin, made, sameEndpoint, isOffer⟩ := isReply
      refine ⟨target, origin, made, ?_, isOffer⟩
      rw [sameEndpoint]
      exact topology.resolve_endpoint node
  | @handle _ call env rpc sent reached =>
      obtain ⟨origin, made, sameEndpoint, about⟩ :=
        authentic.requests rpc (List.mem_of_getElem? sent)
      cases isRequest : rpc.request with
      | connect request =>
          rw [isRequest] at granted about
          obtain rfl : given = request := granted
          exact ⟨rpc.caller, origin, made, sameEndpoint ▸ reached, about⟩
      | ready request =>
          rw [isRequest] at granted
          exact granted.elim
      | changed request =>
          rw [isRequest] at granted
          exact granted.elim
      | close request =>
          rw [isRequest] at granted
          exact granted.elim

/-- No action is entitled both to connect a peer and to mark one ready. -/
theorem Entitled.exclusive {topology : Topology Node} {system : System Node}
    {action : Action Node} {node : Node} {grant : Grant}
    (entitled : Entitled topology system action node grant) :
    (∀ peer given, ¬grant.offers peer given) ∨ ∀ peer, ¬grant.readies peer := by
  cases entitled with
  | nothing => exact .inl fun _ _ => id
  | dial => exact .inl fun _ _ => id
  | join => exact .inr fun _ => id
  | finish => exact .inl fun _ _ => id
  | append => exact .inl fun _ _ => id
  | disconnect => exact .inl fun _ _ => id
  | register => exact .inl fun _ _ => id
  | @handle _ call env rpc sent reached =>
      cases rpc.request with
      | connect request => exact .inr fun _ => id
      | ready request => exact .inl fun _ _ => id
      | changed request => exact .inl fun _ _ => id
      | close request => exact .inl fun _ _ => id

/-- Every peer object was made for the advertised endpoint of another node. -/
def MadeForNodes (topology : Topology Node) (system : System Node) : Prop :=
  ∀ node, ∀ peer ∈ (system.engine node).control.created,
    ∃ target, target ≠ node ∧ peer.endpoint = topology.endpoint target

/-- What the QP of a connected peer is connected to: one peer object, which no other object shares
its id with, made by the node that the peer dials and for the node that the peer belongs to. -/
structure ConnectedTo (topology : Topology Node) (system : System Node) (node : Node)
    (peer : Peer) (maker : Node) (origin : Peer) : Prop where
  made : origin ∈ (system.engine maker).control.created
  identified : origin.connectionId = peer.remoteConnectionId
  unique : ∀ other, ∀ second ∈ (system.engine other).control.created,
    second.connectionId = peer.remoteConnectionId → other = maker ∧ second = origin
  maker : topology.endpoint maker = peer.endpoint
  target : origin.endpoint = topology.endpoint node
  connectedOnce : (system.engine node).control.native.calls.count
    (.connectPeer peer.handle origin.metadata true) = 1
  connectedOnly : ∀ metadata,
    .connectPeer peer.handle metadata true ∈ (system.engine node).control.native.calls →
      metadata = origin.metadata

theorem ConnectedTo.of_wired {topology : Topology Node} {system : System Node} {node : Node}
    {endpoint : String} {peer : Peer} (authentic : Authentic topology system)
    (made : MadeForNodes topology system)
    (wired : Wired (Offered topology system node) (system.engine node).control)
    (held : (system.engine node).control.peers.get? endpoint = some peer)
    (joined : peer.state ≠ .created) :
    ∃ maker origin, ConnectedTo topology system node peer maker origin := by
  obtain ⟨_, ⟨maker, origin, member, reached, rfl⟩, sameId, sameEndpoint, _, called⟩ :=
    wired endpoint peer held joined
  have disciplined := ((authentic.consistent node).formed held).disciplined
  refine ⟨maker, origin, member, sameId, ?_, sameEndpoint, ?_, ?_, ?_⟩
  · intro other second secondMember same
    have := authentic.distinctIds maker origin member other second secondMember
      (sameId.trans same.symm)
    exact ⟨this.1.symm, this.2.symm⟩
  · obtain ⟨target, _, isEndpoint⟩ := made maker origin member
    rw [isEndpoint, topology.resolve_endpoint, Option.some.injEq] at reached
    rw [isEndpoint, reached]
  · exact Nat.le_antisymm (disciplined.connected_at_most_once _ _) (List.count_pos_iff.mpr called)
  · intro metadata other
    exact disciplined.connected_unique other called

variable [DecidableEq Node] {topology : Topology Node}

/-- A transition connects a peer to an offer that was made before it. -/
theorem Transition.wired_before {before after : System Node} {action : Action Node}
    (transition : Transition topology before action after)
    (authentic : Authentic topology before)
    (wired : ∀ node, Wired (Offered topology before node) (before.engine node).control)
    (other : Node) : Wired (Offered topology before other) (after.engine other).control := by
  obtain ⟨node, others, change⟩ := transition.effects
  by_cases here : other = node
  · subst here
    rcases change with ⟨grant, entitled, _, effects⟩ | ⟨_, closed⟩
    · exact Effects.wired effects (authentic.consistent other) (wired other)
        (fun _ _ _ _ offered => offered) fun _ _ granted => entitled.offered authentic granted
    · rw [closed]
      intro endpoint peer held
      cases isClosed : (before.engine other).control.closed with
      | true => simp [ControlPlane.close, isClosed, (authentic.consistent other).shut isClosed]
          at held
      | false => simp [ControlPlane.close, isClosed] at held
  · rw [others other here]
    exact wired other

theorem Transition.wired {before after : System Node} {action : Action Node}
    (transition : Transition topology before action after)
    (authentic : Authentic topology before)
    (wired : ∀ node, Wired (Offered topology before node) (before.engine node).control)
    (other : Node) : Wired (Offered topology after other) (after.engine other).control :=
  Wired.mono (transition.wired_before authentic wired other) fun _ _ offered =>
    offered.extend (transition.grows authentic.consistent)

/-- In every run with fresh names every connected peer is wired to an offer made for its node. -/
theorem wired_of_reachable {allowed : System Node → Action Node → Prop}
    (fresh : ∀ system action, allowed system action → system.FreshNames topology action)
    {system : System Node} (reached : (controlSystem topology).Reachable allowed system)
    (node : Node) : Wired (Offered topology system node) (system.engine node).control := by
  let wired (state : System Node) : Prop :=
    ∀ node, Wired (Offered topology state node) (state.engine node).control
  have holds : wired system := by
    refine reached.invariant_with (fun _ => authentic_of_reachable fresh)
      (fun state isStart => ?_) ?_
    · rw [show state = System.start from isStart]
      intro node endpoint peer held
      simp [System.start] at held
    · intro before action after authentic _ held obeys taken
      exact (authentic.transition (fresh before action obeys) taken).wired authentic held
  exact holds node

theorem Transition.madeForNodes {before after : System Node} {action : Action Node}
    (transition : Transition topology before action after)
    (authentic : Authentic topology before) (dials : System.DialsAdvertised topology action)
    (made : MadeForNodes topology before) : MadeForNodes topology after := by
  intro one peer member
  obtain ⟨node, others, change⟩ := transition.effects
  by_cases here : one = node
  · subst here
    rcases change with ⟨grant, entitled, _, effects⟩ | ⟨_, closed⟩
    · rcases Effects.created_cases effects with same | ⟨fresh, endpoint, _, granted, grown⟩
      · exact made one peer (same ▸ member)
      · rw [grown] at member
        rcases List.mem_append.mp member with old | new
        · exact made one peer old
        · rw [List.mem_singleton] at new
          subst new
          cases entitled with
          | nothing => exact granted.elim
          | join => exact granted.elim
          | finish => exact granted.elim
          | append => exact granted.elim
          | disconnect => exact granted.elim
          | register => exact granted.elim
          | dial =>
              obtain ⟨rfl, _, remote⟩ := granted
              obtain ⟨target, isEndpoint⟩ := dials
              exact ⟨target, fun same => remote (same ▸ isEndpoint), isEndpoint⟩
          | @handle _ call env rpc sent reached =>
              obtain ⟨origin, _, _, about⟩ :=
                authentic.requests rpc (List.mem_of_getElem? sent)
              cases isRequest : rpc.request with
              | connect request =>
                  rw [isRequest] at granted about
                  obtain ⟨rfl, _, remote⟩ := granted
                  have isEndpoint : request.connection.endpoint = topology.endpoint rpc.caller := by
                    rw [about]
                    rfl
                  exact ⟨rpc.caller, fun same => remote (same ▸ isEndpoint), isEndpoint⟩
              | ready request => rw [isRequest] at granted; exact granted.elim
              | changed request => rw [isRequest] at granted; exact granted.elim
              | close request => rw [isRequest] at granted; exact granted.elim
    · apply made one peer
      rw [closed] at member
      cases isClosed : (before.engine one).control.closed <;>
        simpa [ControlPlane.close, isClosed] using member
  · exact made one peer (others one here ▸ member)

theorem madeForNodes_of_reachable {allowed : System Node → Action Node → Prop}
    (fresh : ∀ system action, allowed system action → system.FreshNames topology action)
    (dials : ∀ system action, allowed system action → System.DialsAdvertised topology action)
    {system : System Node} (reached : (controlSystem topology).Reachable allowed system) :
    MadeForNodes topology system := by
  refine reached.invariant_with (fun _ => authentic_of_reachable fresh)
    (fun state isStart => ?_) ?_
  · rw [show state = System.start from isStart]
    intro node peer member
    simp [System.start] at member
  · intro before action after authentic _ held obeys taken
    exact (authentic.transition (fresh before action obeys) taken).madeForNodes authentic
      (dials before action obeys) held

/-- The two ends of a step of one peer object: the remote id is written once and the state takes
at most one step on the way `CREATED`, `CONNECTED`, `READY`. -/
structure Peer.Advances (earlier later : Peer) : Prop where
  remote : earlier.remoteConnectionId ≠ "" →
    later.remoteConnectionId = earlier.remoteConnectionId
  state : later.state = earlier.state ∨
    (earlier.state = .created ∧ later.state = .connected) ∨
    (earlier.state = .connected ∧ later.state = .ready)

/-- Two entries of one node's table, before and after a step, with one handle are two states of
one object. -/
theorem Transition.succeeds {before after : System Node} {action : Action Node}
    (transition : Transition topology before action after)
    (authentic : Authentic topology before) {node : Node} {first second : String}
    {peer later : Peer} (held : (before.engine node).control.peers.get? first = some peer)
    (laterHeld : (after.engine node).control.peers.get? second = some later)
    (sameHandle : later.handle = peer.handle) : first = second ∧ peer.Succeeds later := by
  obtain ⟨env, grant, _, evolves⟩ := (transition.grows authentic.consistent).evolves node
  have formed := (authentic.consistent node).formed held
  rcases evolves.origin laterHeld with ⟨earlier, earlierHeld, succeeds⟩ | ⟨_, _, unused⟩
  · obtain rfl : first = second := formed.handle_injective held earlierHeld
      (sameHandle.symm.trans succeeds.sameObject.handle)
    obtain rfl : earlier = peer := by simpa [held] using earlierHeld.symm
    exact ⟨rfl, succeeds⟩
  · obtain ⟨origin, member, sameObject⟩ := formed.fromCreated held
    exact absurd (sameObject.handle.trans sameHandle.symm) (unused origin member)

/-- No step takes an object from `CREATED` to `READY` at once. -/
theorem Transition.not_skips {before after : System Node} {action : Action Node}
    (transition : Transition topology before action after)
    (authentic : Authentic topology before) {node : Node} {first second : String}
    {peer later : Peer} (held : (before.engine node).control.peers.get? first = some peer)
    (laterHeld : (after.engine node).control.peers.get? second = some later)
    (sameHandle : later.handle = peer.handle) (unconnected : peer.state = .created) :
    later.state ≠ .ready := by
  have formed := (authentic.consistent node).formed held
  have only : ∀ key found, (before.engine node).control.peers.get? key = some found →
      found.handle = peer.handle → found.state = .created := by
    intro key found isFound same
    obtain rfl := formed.handle_injective isFound held same
    obtain rfl : found = peer := by simpa [held] using isFound.symm
    exact unconnected
  obtain ⟨actor, others, change⟩ := transition.effects
  by_cases here : node = actor
  · subst here
    rcases change with ⟨grant, entitled, _, effects⟩ | ⟨_, closed⟩
    · rcases entitled.exclusive with noOffer | noReady
      · have stays := Effects.state_within (· = .created) effects rfl
          (fun _ _ granted => (noOffer _ _ granted).elim)
          (fun _ _ _ joined isCreated => absurd isCreated joined) only second later laterHeld
          sameHandle
        simp [stays]
      · exact Effects.state_within (· ≠ .ready) effects (by simp)
          (fun _ _ _ => by simp) (fun _ _ granted => (noReady _ granted).elim)
          (fun key found isFound same => by simp [only key found isFound same]) second later
          laterHeld sameHandle
    · rw [closed] at laterHeld
      have isOpen : (before.engine node).control.closed = false := by
        cases isClosed : (before.engine node).control.closed with
        | false => rfl
        | true => simp [(authentic.consistent node).shut isClosed] at held
      simp [ControlPlane.close, isOpen] at laterHeld
  · rw [others node here] at laterHeld
    simp [only second later laterHeld sameHandle]

theorem Transition.advances {before after : System Node} {action : Action Node}
    (transition : Transition topology before action after)
    (authentic : Authentic topology before) {node : Node} {first second : String}
    {peer later : Peer} (held : (before.engine node).control.peers.get? first = some peer)
    (laterHeld : (after.engine node).control.peers.get? second = some later)
    (sameHandle : later.handle = peer.handle) : peer.Advances later := by
  have succeeds := (transition.succeeds authentic held laterHeld sameHandle).2
  have rank := succeeds.rank
  refine ⟨succeeds.remote, ?_⟩
  cases isState : peer.state with
  | created =>
      have noSkip := transition.not_skips authentic held laterHeld sameHandle isState
      cases isLater : later.state <;> simp_all
  | connected => cases isLater : later.state <;> simp_all [PeerState.rank]
  | ready => cases isLater : later.state <;> simp_all [PeerState.rank]

/-- No cross-wiring under an unreliable network. -/
theorem no_cross_wiring {system : System Node}
    (reached : (controlSystem topology).Reachable (fun system action =>
      system.FreshNames topology action ∧ System.DialsAdvertised topology action) system)
    {node : Node} {endpoint : String} {peer : Peer}
    (held : (system.engine node).control.peers.get? endpoint = some peer) :
    (peer.state ≠ .created →
      ∃ maker origin, ConnectedTo topology system node peer maker origin) ∧
    ∀ action after, system.FreshNames topology action →
      (controlSystem topology).step system action = some after → ∀ second later,
      (after.engine node).control.peers.get? second = some later →
      later.handle = peer.handle → peer.Advances later := by
  have authentic := authentic_of_reachable (fun _ _ obeys => obeys.1) reached
  refine ⟨fun joined => ?_, ?_⟩
  · exact ConnectedTo.of_wired authentic
      (madeForNodes_of_reachable (fun _ _ obeys => obeys.1) (fun _ _ obeys => obeys.2) reached)
      (wired_of_reachable (fun _ _ obeys => obeys.1) reached node) held joined
  · intro action after fresh taken second later laterHeld sameHandle
    exact (authentic.transition fresh taken).advances authentic held laterHeld sameHandle

theorem no_cross_wiring_pair : ∃ (system : System Bool) (peer origin : Peer) (maker : Bool),
    (system.engine true).control.peers.get? "alpha" = some peer ∧
    ConnectedTo Topology.pair system true peer maker origin := by
  have computed : ∃ system, (controlSystem Topology.pair).Reachable (fun system action =>
      system.FreshNames Topology.pair action ∧
        System.DialsAdvertised Topology.pair action) system ∧
      ∃ peer ∈ (system.engine true).control.peers.get? "alpha", peer.state ≠ .created :=
    LabelledSystem.exists_reachable (.initial rfl) connectAndRegister (by decide)
  obtain ⟨system, reached, peer, held, joined⟩ := computed
  obtain ⟨maker, origin, connected⟩ := (no_cross_wiring reached held).1 joined
  exact ⟨system, peer, origin, maker, held, connected⟩

end Rdma101
