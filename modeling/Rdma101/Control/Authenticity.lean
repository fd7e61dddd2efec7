/-
Module: Rdma101.Control.Authenticity
Purpose: The invariant of every run, however unreliable the network: every control plane is
  consistent, connection ids are distinct, and whatever can still arrive (a request, a reply,
  the rest of an operation) names a peer object that its sender made for the receiver.
Trusted boundary: none
Main exports: ControlPlane.Announced, ControlPlane.Gone, RequestOf, ReplyOf, OperationOf,
  Authentic, authentic_of_reachable
-/
import Rdma101.Control.Transition

namespace Rdma101

open Wire ControlPlane

/-- The snapshot is the first part of the list of registrations, and numbered by its length. -/
def ControlPlane.Announced (control : ControlPlane) (snapshot : Snapshot) : Prop :=
  control.closed = false → snapshot.version = snapshot.memories.length ∧
    snapshot.memories <+: control.memoryMetadata

/-- No peer of the table has the id. -/
def ControlPlane.Gone (control : ControlPlane) (id : String) : Prop :=
  ∀ endpoint peer, control.peers.get? endpoint = some peer → peer.connectionId ≠ id

variable {Node : Type}

/-- The request is about a peer object that its caller made for the address it goes to. -/
def RequestOf (topology : Topology Node) (system : System Node) (rpc : Rpc Node) : Prop :=
  ∃ origin ∈ (system.engine rpc.caller).control.created, origin.endpoint = rpc.endpoint ∧
    match rpc.request with
    | .connect request => request = offer (topology.endpoint rpc.caller) origin
    | .ready request =>
        request.connection = connection (topology.endpoint rpc.caller) origin ∧
          (system.engine rpc.caller).control.Announced request.snapshot
    | .changed request =>
        request.connection = connection (topology.endpoint rpc.caller) origin ∧
          (system.engine rpc.caller).control.Announced request.snapshot
    | .close request =>
        request = connection (topology.endpoint rpc.caller) origin ∧
          (system.engine rpc.caller).control.Gone origin.connectionId

/-- The reply is one that the handler of the request gives at `target`. -/
def ReplyOf (topology : Topology Node) (system : System Node) (target : Node) :
    Request → Reply → Prop
  | .connect request, .offer reply => ∃ origin ∈ (system.engine target).control.created,
      origin.endpoint = request.connection.endpoint ∧
        reply = offer (topology.endpoint target) origin
  | .ready _, .snapshot reply => (system.engine target).control.Announced reply
  | .changed _, .empty => True
  | .close _, .empty => True
  | _, _ => False

/-- The peer is a peer object that the node made. -/
def System.Made (system : System Node) (node : Node) (peer : Peer) : Prop :=
  ∃ origin ∈ (system.engine node).control.created, origin.SameObject peer

/-- RPC number `call` is this one. -/
def System.Sent (system : System Node) (call : Nat) (caller : Node) (endpoint : String)
    (request : Request) : Prop :=
  ∃ rpc, system.rpcs[call]? = some rpc ∧ rpc.caller = caller ∧ rpc.endpoint = endpoint ∧
    rpc.request = request

/-- The operation waits for an RPC about a peer object of its node. -/
def OperationOf (topology : Topology Node) (system : System Node) (node : Node) :
    Operation → Prop
  | .registered _ => True
  | .offering peer call => system.Made node peer ∧
      system.Sent call node peer.endpoint (.connect (offer (topology.endpoint node) peer))
  | .updating peer call => system.Made node peer ∧
      (∃ snapshot, system.Sent call node peer.endpoint
        (.ready { connection := connection (topology.endpoint node) peer, snapshot })) ∧
      ∀ current, (system.engine node).control.peers.get? peer.endpoint = some current →
        current.handle = peer.handle → current.state ≠ .created
  | .notifying _ snapshot peer rest call =>
      (∀ other ∈ peer :: rest, system.Made node other) ∧
      (system.engine node).control.Announced snapshot ∧
      system.Sent call node peer.endpoint
        (.changed { connection := connection (topology.endpoint node) peer, snapshot })
  | .closing peer call => system.Made node peer ∧
      system.Sent call node peer.endpoint (.close (connection (topology.endpoint node) peer)) ∧
      (system.engine node).control.Gone peer.connectionId

/-- The invariant. -/
structure Authentic (topology : Topology Node) (system : System Node) : Prop where
  consistent : ∀ node, (system.engine node).control.Consistent
  distinctIds : ∀ node, ∀ peer ∈ (system.engine node).control.created, ∀ other,
    ∀ second ∈ (system.engine other).control.created,
    peer.connectionId = second.connectionId → node = other ∧ peer = second
  requests : ∀ rpc ∈ system.rpcs, RequestOf topology system rpc
  replies : ∀ rpc ∈ system.rpcs, ∀ reply, .ok reply ∈ rpc.answers →
    ∃ target, topology.resolve rpc.endpoint = some target ∧
      ReplyOf topology system target rpc.request reply
  operations : ∀ node operation, (system.engine node).operation = some operation →
    OperationOf topology system node operation

/-! ### What stays true while a system evolves

Nothing that a message says is taken back: lists of registrations grow, ids that left a table do
not return, calls keep their numbers.  So each part of the invariant survives any step that only
adds. -/

/-- Every control plane evolves, with fresh names, and no RPC is forgotten. -/
structure System.GrowsTo (before after : System Node) : Prop where
  evolves : ∀ node, ∃ env grant, (∀ key, grant.creates key → before.FreshFor node env) ∧
    Evolves env grant (before.engine node).control (after.engine node).control
  rpcs : ∀ {call : Nat} {rpc : Rpc Node}, before.rpcs[call]? = some rpc →
    ∃ later : Rpc Node, after.rpcs[call]? = some later ∧ later.caller = rpc.caller ∧
      later.endpoint = rpc.endpoint ∧ later.request = rpc.request

section Growing

variable {topology : Topology Node} {before after : System Node}

theorem Evolves.announced {env : Environment} {grant : Grant} {earlier later : ControlPlane}
    {snapshot : Snapshot} (evolves : Evolves env grant earlier later)
    (announced : earlier.Announced snapshot) : later.Announced snapshot := by
  intro isOpen
  obtain ⟨numbered, isPrefix⟩ := announced (evolves.opened isOpen)
  exact ⟨numbered, isPrefix.trans (evolves.memories isOpen)⟩

/-- An id of a made peer that has left the table does not come back. -/
theorem System.GrowsTo.gone (grows : before.GrowsTo after) {node : Node} {origin : Peer}
    (made : origin ∈ (before.engine node).control.created)
    (gone : (before.engine node).control.Gone origin.connectionId) :
    (after.engine node).control.Gone origin.connectionId := by
  obtain ⟨env, grant, fresh, evolves⟩ := grows.evolves node
  intro endpoint peer held
  rcases evolves.origin held with ⟨earlier, earlierHeld, succeeds⟩ | ⟨granted, sameId, _⟩
  · rw [succeeds.sameObject.connectionId]
    exact gone endpoint earlier earlierHeld
  · rw [sameId]
    exact ((fresh _ granted).id node origin made).symm

theorem System.GrowsTo.created (grows : before.GrowsTo after) {node : Node} {peer : Peer}
    (made : peer ∈ (before.engine node).control.created) :
    peer ∈ (after.engine node).control.created := by
  obtain ⟨env, grant, _, evolves⟩ := grows.evolves node
  exact evolves.created.subset made

theorem System.GrowsTo.announced (grows : before.GrowsTo after) {node : Node}
    {snapshot : Snapshot} (announced : (before.engine node).control.Announced snapshot) :
    (after.engine node).control.Announced snapshot := by
  obtain ⟨env, grant, _, evolves⟩ := grows.evolves node
  exact evolves.announced announced

theorem System.GrowsTo.made (grows : before.GrowsTo after) {node : Node} {peer : Peer}
    (made : before.Made node peer) : after.Made node peer := by
  obtain ⟨origin, member, sameObject⟩ := made
  exact ⟨origin, grows.created member, sameObject⟩

theorem System.GrowsTo.sent (grows : before.GrowsTo after) {call : Nat} {caller : Node}
    {endpoint : String} {request : Request} (sent : before.Sent call caller endpoint request) :
    after.Sent call caller endpoint request := by
  obtain ⟨rpc, found, rfl, rfl, rfl⟩ := sent
  obtain ⟨later, isLater, sameCaller, sameEndpoint, sameRequest⟩ := grows.rpcs found
  exact ⟨later, isLater, sameCaller, sameEndpoint, sameRequest⟩

theorem RequestOf.extend {rpc later : Rpc Node} (authentic : RequestOf topology before rpc)
    (grows : before.GrowsTo after) (sameCaller : later.caller = rpc.caller)
    (sameEndpoint : later.endpoint = rpc.endpoint) (sameRequest : later.request = rpc.request) :
    RequestOf topology after later := by
  obtain ⟨origin, made, isEndpoint, about⟩ := authentic
  rw [RequestOf, sameCaller, sameEndpoint, sameRequest]
  refine ⟨origin, grows.created made, isEndpoint, ?_⟩
  cases request : rpc.request with
  | connect => simpa [request] using about
  | ready =>
      simp only [request] at about
      exact ⟨about.1, grows.announced about.2⟩
  | changed =>
      simp only [request] at about
      exact ⟨about.1, grows.announced about.2⟩
  | close =>
      simp only [request] at about
      exact ⟨about.1, grows.gone made about.2⟩

theorem ReplyOf.extend {target : Node} {request : Request} {reply : Reply}
    (authentic : ReplyOf topology before target request reply)
    (grows : before.GrowsTo after) : ReplyOf topology after target request reply := by
  cases request <;> cases reply <;> simp only [ReplyOf] at authentic ⊢
  case connect =>
    obtain ⟨origin, made, rest⟩ := authentic
    exact ⟨origin, grows.created made, rest⟩
  case ready => exact grows.announced authentic

theorem OperationOf.extend {node : Node} {operation : Operation}
    (authentic : OperationOf topology before node operation)
    (grows : before.GrowsTo after) : OperationOf topology after node operation := by
  cases operation with
  | registered => trivial
  | offering peer call => exact ⟨grows.made authentic.1, grows.sent authentic.2⟩
  | updating peer call =>
      obtain ⟨made, ⟨snapshot, sent⟩, joined⟩ := authentic
      refine ⟨grows.made made, ⟨snapshot, grows.sent sent⟩, ?_⟩
      intro current held sameHandle unconnected
      obtain ⟨env, grant, fresh, evolves⟩ := grows.evolves node
      obtain ⟨origin, member, sameObject⟩ := made
      rcases evolves.origin held with ⟨earlier, earlierHeld, succeeds⟩ | ⟨_, _, unused⟩
      · have wasJoined := joined earlier earlierHeld
          (succeeds.sameObject.handle.symm.trans sameHandle)
        have rank := succeeds.rank
        rw [unconnected] at rank
        revert wasJoined rank
        cases earlier.state <;> simp [PeerState.rank]
      · exact unused origin member (sameObject.handle.trans sameHandle.symm)
  | notifying metadata snapshot peer rest call =>
      exact ⟨fun other member => grows.made (authentic.1 other member),
        grows.announced authentic.2.1, grows.sent authentic.2.2⟩
  | closing peer call =>
      obtain ⟨made, sent, gone⟩ := authentic
      refine ⟨grows.made made, grows.sent sent, ?_⟩
      obtain ⟨origin, member, sameObject⟩ := made
      rw [← sameObject.connectionId] at gone ⊢
      exact grows.gone member gone

theorem ControlPlane.snapshot_announced (control : ControlPlane) :
    control.Announced control.snapshot :=
  fun _ => ⟨rfl, List.prefix_rfl⟩

theorem ControlPlane.Consistent.made {node : Node} {endpoint : String} {peer : Peer}
    (consistent : (after.engine node).control.Consistent)
    (held : (after.engine node).control.peers.get? endpoint = some peer) :
    after.Made node peer :=
  (consistent.formed held).fromCreated held

/-- A request that is sent, and the operation that waits for it, are authentic. -/
theorem Sends.authentic {node : Node} {operation : Operation} {endpoint : String}
    {request : Request}
    (authentic : Authentic topology before)
    (grows : before.GrowsTo after) (consistent : (after.engine node).control.Consistent)
    (distinctIds : ∀ peer ∈ (after.engine node).control.created,
      ∀ second ∈ (after.engine node).control.created,
      peer.connectionId = second.connectionId → peer = second)
    (sends : Sends (topology.endpoint node) (after.engine node).control before.rpcs.length
      (before.engine node).operation operation endpoint request)
    (recorded : after.Sent before.rpcs.length node endpoint request) :
    RequestOf topology after { caller := node, endpoint := endpoint, request := request } ∧
      OperationOf topology after node operation := by
  generalize isBefore : (before.engine node).operation = previous at sends
  cases sends with
  | @offer peer held =>
      obtain ⟨origin, member, sameObject⟩ := consistent.made held
      refine ⟨⟨origin, member, sameObject.endpoint, ?_⟩, ⟨origin, member, sameObject⟩, recorded⟩
      simp [ControlPlane.offer, connection, sameObject.connectionId, sameObject.metadata]
  | @update peer current earlier held sameHandle joined =>
      obtain ⟨made, _⟩ := authentic.operations node _ isBefore
      obtain ⟨origin, member, sameObject⟩ := grows.made made
      refine ⟨⟨origin, member, sameObject.endpoint, ?_, snapshot_announced _⟩,
        ⟨origin, member, sameObject⟩, ⟨_, recorded⟩, ?_⟩
      · simp [connection, sameObject.connectionId]
      · intro other otherHeld _
        rw [held, Option.some.injEq] at otherHeld
        exact otherHeld ▸ joined
  | @announce metadata peer rest held distinct =>
      have made : ∀ other ∈ peer :: rest, after.Made node other :=
        fun other member => consistent.made (held other member)
      obtain ⟨origin, member, sameObject⟩ := made peer (by simp)
      refine ⟨⟨origin, member, sameObject.endpoint, ?_, snapshot_announced _⟩, made,
        snapshot_announced _, recorded⟩
      simp [connection, sameObject.connectionId]
  | @announceNext metadata snapshot past peer rest earlier =>
      obtain ⟨made, announced, _⟩ := authentic.operations node _ isBefore
      obtain ⟨origin, member, sameObject⟩ := grows.made (made peer (by simp))
      refine ⟨⟨origin, member, sameObject.endpoint, ?_, grows.announced announced⟩,
        fun other isNext => grows.made (made other (List.mem_cons_of_mem _ isNext)),
        grows.announced announced, recorded⟩
      simp [connection, sameObject.connectionId]
  | @close peer earlier held dropped wasConsistent =>
      have formed := wasConsistent.formed held
      obtain ⟨origin, member, sameObject⟩ := formed.fromCreated held
      have stillMember : origin ∈ (after.engine node).control.created := by
        rw [dropped]
        exact member
      have gone : (after.engine node).control.Gone peer.connectionId := by
        intro key other otherHeld sameId
        obtain ⟨origin', member', sameObject'⟩ := consistent.made otherHeld
        obtain rfl : origin' = origin := distinctIds origin' member' origin stillMember
          (by rw [sameObject'.connectionId, sameId, sameObject.connectionId])
        have sameKey : key = peer.endpoint := by
          rw [← (consistent.formed otherHeld).keyed otherHeld, ← sameObject'.endpoint,
            sameObject.endpoint]
        simp [dropped, sameKey] at otherHeld
      refine ⟨⟨origin, stillMember, sameObject.endpoint, ?_, sameObject.connectionId ▸ gone⟩,
        ⟨origin, stillMember, sameObject⟩, recorded, gone⟩
      simp [connection, sameObject.connectionId]

theorem Request.Replies.authentic {target : Node} {request : Request} {reply : Reply}
    (consistent : (after.engine target).control.Consistent)
    (replied : Request.Replies (topology.endpoint target) request reply
      (after.engine target).control) : ReplyOf topology after target request reply := by
  cases request with
  | connect request =>
      obtain ⟨current, held, rfl⟩ := replied
      obtain ⟨origin, member, sameObject⟩ := consistent.made held
      refine ⟨origin, member, sameObject.endpoint.trans ((consistent.formed held).keyed held), ?_⟩
      simp [offer, connection, sameObject.connectionId, sameObject.metadata]
  | ready request =>
      obtain rfl := replied
      exact snapshot_announced _
  | changed request =>
      obtain rfl := replied
      trivial
  | close request =>
      obtain rfl := replied
      trivial

/-- A newly started system. -/
theorem authentic_start : Authentic topology (System.start : System Node) where
  consistent := by
    intro node
    refine ⟨fun _ => ?_, fun isClosed => by simp [System.start] at isClosed⟩
    constructor <;> simp [System.start, Trace.Live, Trace.Disciplined.nil]
  distinctIds := by simp [System.start]
  requests := by simp [System.start]
  replies := by simp [System.start]
  operations := by simp [System.start]

end Growing

/-! ### Every transition keeps the invariant

One case for each kind of transition.  What is in flight afterwards was there before, or was
sent or answered now; the new part is what the critical section guarantees. -/

section Stepping

variable [DecidableEq Node] {topology : Topology Node} {before after : System Node}
  {action : Action Node}

theorem Transition.grows (transition : Transition topology before action after)
    (consistent : ∀ node, (before.engine node).control.Consistent) : before.GrowsTo after where
  evolves := by
    intro other
    obtain ⟨node, others, ⟨grant, _, fresh, effects⟩ | ⟨_, closed⟩⟩ := transition.effects
    · by_cases here : other = node
      · exact here ▸ ⟨action.environment, grant, fresh, Effects.evolves effects (consistent node)⟩
      · exact ⟨action.environment, {}, fun _ impossible => impossible.elim,
          by rw [others other here]; exact .refl _ {} _⟩
    · refine ⟨.idle, {}, fun _ impossible => impossible.elim, ?_⟩
      by_cases here : other = node
      · rw [here, closed]
        exact ControlPlane.close_evolves .idle {} _
      · rw [others other here]
        exact .refl .idle {} _
  rpcs := transition.rpcs

theorem ControlPlane.Consistent.close {control : ControlPlane} (consistent : control.Consistent) :
    control.close.Consistent := by
  cases isClosed : control.closed with
  | true => simpa [ControlPlane.close, isClosed] using consistent
  | false => constructor <;> simp [ControlPlane.close, isClosed]

theorem Transition.consistent (transition : Transition topology before action after)
    (consistent : ∀ node, (before.engine node).control.Consistent) (other : Node) :
    (after.engine other).control.Consistent := by
  obtain ⟨node, others, change⟩ := transition.effects
  by_cases here : other = node
  · rcases change with ⟨grant, _, _, effects⟩ | ⟨_, closed⟩
    · exact here ▸ Effects.consistent effects (consistent node)
    · rw [here, closed]
      exact (consistent node).close
  · rw [others other here]
    exact consistent other

/-- Ids stay distinct: a peer made now has an id that nobody drew before. -/
theorem Transition.distinctIds (transition : Transition topology before action after)
    (authentic : Authentic topology before) :
    ∀ one, ∀ peer ∈ (after.engine one).control.created, ∀ other,
      ∀ second ∈ (after.engine other).control.created,
      peer.connectionId = second.connectionId → one = other ∧ peer = second := by
  obtain ⟨node, others, change⟩ := transition.effects
  -- Either no peer was made, or one was, at `node` and with the id drawn now.
  have cases' : (∀ one, (after.engine one).control.created =
        (before.engine one).control.created) ∨
      ∃ new : Peer, (∀ other, ∀ peer ∈ (before.engine other).control.created,
          peer.connectionId ≠ new.connectionId) ∧
        ∀ one peer, peer ∈ (after.engine one).control.created ↔
          peer ∈ (before.engine one).control.created ∨ (one = node ∧ peer = new) := by
    rcases change with ⟨grant, _, fresh, effects⟩ | ⟨_, closed⟩
    · rcases Effects.created_cases effects with same | ⟨made, endpoint, _, granted, grown⟩
      · refine .inl fun one => ?_
        by_cases here : one = node
        · rw [here, same]
        · rw [others one here]
      · refine .inr ⟨freshPeer made endpoint action.environment.uuid4,
          (fresh endpoint granted).id, ?_⟩
        intro one peer
        by_cases here : one = node
        · simp [here, grown]
        · simp [others one here, here]
    · refine .inl fun one => ?_
      by_cases here : one = node
      · rw [here, closed]
        cases isClosed : (before.engine node).control.closed <;>
          simp [ControlPlane.close, isClosed]
      · rw [others one here]
  rcases cases' with same | ⟨new, unused, member⟩
  · simpa only [same] using authentic.distinctIds
  · intro one peer peerMade other second secondMade same
    rcases (member one peer).mp peerMade with peerOld | ⟨rfl, rfl⟩ <;>
      rcases (member other second).mp secondMade with secondOld | ⟨rfl, rfl⟩
    · exact authentic.distinctIds one peer peerOld other second secondOld same
    · exact absurd same (unused one peer peerOld)
    · exact absurd same.symm (unused other second secondOld)
    · exact ⟨rfl, rfl⟩

/-- An RPC after a transition was there before, sent now, or answered now. -/
theorem Transition.rpc_cases (transition : Transition topology before action after)
    {rpc : Rpc Node} (member : rpc ∈ after.rpcs) :
    rpc ∈ before.rpcs ∨
      (∃ node operation request, rpc = { caller := node, endpoint := rpc.endpoint, request } ∧
        Sends (topology.endpoint node) (after.engine node).control before.rpcs.length
          (before.engine node).operation operation rpc.endpoint request ∧
        after.Sent before.rpcs.length node rpc.endpoint request) ∨
      ∃ old ∈ before.rpcs, ∃ target result, topology.resolve old.endpoint = some target ∧
        rpc = { old with answers := old.answers ++ [result] } ∧
        ∀ reply, result = .ok reply → Request.Replies (topology.endpoint target) old.request
          reply (after.engine target).control := by
  cases transition with
  | ended => exact .inl member
  | registered => exact .inl member
  | closed => exact .inl member
  | @sent _ node grant control operation endpoint request entitled effects sends fresh =>
      rcases List.mem_append.mp member with old | new
      · exact .inl old
      · rw [List.mem_singleton] at new
        subst new
        exact .inr (.inl ⟨node, operation, request, rfl, by simpa [Engine.proceed] using sends,
          { caller := node, endpoint, request }, by simp, rfl, rfl, rfl⟩)
  | @handled call env old target control result found reached effects replied =>
      obtain ⟨index, isRpc⟩ := List.mem_iff_getElem?.mp member
      rw [System.answer_getElem?, System.setEngine_rpcs] at isRpc
      by_cases same : index = call
      · simp only [same, if_true, found, Option.map_some, Option.some.injEq] at isRpc
        refine .inr (.inr ⟨old, List.mem_of_getElem? found, target, result, reached,
          isRpc.symm, ?_⟩)
        simpa using replied
      · rw [if_neg same] at isRpc
        exact .inl (List.mem_of_getElem? isRpc)

/-- An operation after a transition was there before, registered a memory, or waits for a
request sent now. -/
theorem Transition.operation_cases (transition : Transition topology before action after)
    {node : Node} {operation : Operation}
    (waiting : (after.engine node).operation = some operation) :
    (before.engine node).operation = some operation ∨
      (∃ metadata, operation = .registered metadata) ∨
      ∃ endpoint request,
        Sends (topology.endpoint node) (after.engine node).control before.rpcs.length
          (before.engine node).operation operation endpoint request ∧
        after.Sent before.rpcs.length node endpoint request := by
  cases transition with
  | @ended _ other =>
      by_cases here : node = other
      · simp [here, Engine.finish] at waiting
      · exact .inl (by simpa [System.setEngine_engine, here] using waiting)
  | @registered other env control metadata =>
      by_cases here : node = other
      · subst here
        exact .inr (.inl ⟨metadata, by simpa [Engine.proceed] using waiting.symm⟩)
      · exact .inl (by simpa [System.setEngine_engine, here] using waiting)
  | @sent _ other grant control next endpoint request entitled effects sends fresh =>
      by_cases here : node = other
      · subst here
        obtain rfl : operation = next := by simpa [Engine.proceed] using waiting.symm
        exact .inr (.inr ⟨endpoint, request, by simpa [Engine.proceed] using sends,
          { caller := node, endpoint, request }, by simp, rfl, rfl, rfl⟩)
      · exact .inl (by simpa [System.setEngine_engine, here] using waiting)
  | @handled call env rpc target control result =>
      by_cases here : node = target
      · exact .inl (by simpa [here] using waiting)
      · exact .inl (by simpa [System.setEngine_engine, here] using waiting)
  | @closed other =>
      by_cases here : node = other
      · exact .inl (by simpa [here] using waiting)
      · exact .inl (by simpa [System.setEngine_engine, here] using waiting)

/-- Every transition keeps the invariant. -/
theorem Transition.authentic (transition : Transition topology before action after)
    (authentic : Authentic topology before) : Authentic topology after := by
  have grows := transition.grows authentic.consistent
  have consistent := transition.consistent authentic.consistent
  have distinctIds := transition.distinctIds authentic
  have sent : ∀ {node operation endpoint request},
      Sends (topology.endpoint node) (after.engine node).control before.rpcs.length
        (before.engine node).operation operation endpoint request →
      after.Sent before.rpcs.length node endpoint request →
      RequestOf topology after { caller := node, endpoint, request } ∧
        OperationOf topology after node operation :=
    fun {node} _ _ _ sends recorded => sends.authentic authentic grows (consistent node)
      (fun peer member second secondMember same =>
        (distinctIds node peer member node second secondMember same).2) recorded
  refine ⟨consistent, distinctIds, ?requests, ?replies, ?operations⟩
  case requests =>
    intro rpc member
    rcases transition.rpc_cases member with old | ⟨node, operation, request, isNew, sends,
      recorded⟩ | ⟨old, oldMember, target, result, _, rfl, _⟩
    · exact (authentic.requests rpc old).extend grows rfl rfl rfl
    · rw [isNew]
      exact (sent sends recorded).1
    · exact (authentic.requests old oldMember).extend grows rfl rfl rfl
  case replies =>
    intro rpc member reply answered
    rcases transition.rpc_cases member with old | ⟨node, operation, request, isNew, sends,
      recorded⟩ | ⟨old, oldMember, target, result, reached, rfl, replied⟩
    · obtain ⟨target, reached, isReply⟩ := authentic.replies rpc old reply answered
      exact ⟨target, reached, isReply.extend grows⟩
    · rw [isNew] at answered
      simp at answered
    · rcases List.mem_append.mp answered with earlier | now
      · obtain ⟨target', reached', isReply⟩ := authentic.replies old oldMember reply earlier
        exact ⟨target', reached', isReply.extend grows⟩
      · rw [List.mem_singleton] at now
        exact ⟨target, reached, (replied reply now.symm).authentic (consistent target)⟩
  case operations =>
    intro node operation waiting
    rcases transition.operation_cases waiting with
      earlier | ⟨metadata, rfl⟩ | ⟨endpoint, request, sends, recorded⟩
    · exact (authentic.operations node operation earlier).extend grows
    · trivial
    · exact (sent sends recorded).2

/-- One step from an authentic system is a transition. -/
theorem Authentic.transition (authentic : Authentic topology before)
    (fresh : before.FreshNames topology action)
    (taken : (controlSystem topology).step before action = some after) :
    Transition topology before action after :=
  System.step_transition authentic.consistent
    (fun node _ _ current waiting held sameHandle =>
      (authentic.operations node _ waiting).2.2 current held sameHandle) fresh taken

/-- In every run with fresh names every reached state is authentic, whatever the network does. -/
theorem authentic_of_reachable {allowed : System Node → Action Node → Prop}
    (fresh : ∀ system action, allowed system action → system.FreshNames topology action)
    {system : System Node} (reached : (controlSystem topology).Reachable allowed system) :
    Authentic topology system := by
  refine reached.invariant (fun state isStart => ?_) ?_
  · exact (show state = System.start from isStart) ▸ authentic_start
  · intro before action after authentic obeys taken
    exact (authentic.transition (fresh before action obeys) taken).authentic authentic

end Stepping

end Rdma101
