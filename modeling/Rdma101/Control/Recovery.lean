/-
Module: Rdma101.Control.Recovery
Purpose: One disconnect that runs alone, from any state that an unreliable network left behind: it
  removes both ends of its connection and nothing else.  Once both nodes have given up what they
  hold for each other, a connect joins them again, whatever happened before.
Trusted boundary: none
Main exports: System.Parted, disconnect_alone_completes, System.Mends, reset_heals
-/
import Rdma101.Control.Healing

namespace Rdma101

open Wire ControlPlane ControlServicer

variable {Node : Type} [DecidableEq Node] {topology : Topology Node} {system : System Node}
  {node other : Node}

/-! ### A disconnect that runs alone

The first section drops the own entry, and the round of its Close drops the one at the other end
if that one was connected to it.  A Close that nobody matches is answered as well. -/

/-- The disconnect of `peer` has removed it, and the entry of the other node that was connected to
it.  It has returned, and nothing else has changed. -/
structure System.Parted (topology : Topology Node) (before : System Node) (node other : Node)
    (peer : Peer) (final : System Node) : Prop where
  here : ∀ key, (final.engine node).control.peers.get? key =
    if key = topology.endpoint other then none else (before.engine node).control.peers.get? key
  there : ∀ key, (final.engine other).control.peers.get? key =
    if key = topology.endpoint node then
      ((before.engine other).control.peers.get? key).filter fun theirs =>
        theirs.remoteConnectionId ≠ peer.connectionId
    else (before.engine other).control.peers.get? key
  between : before.Between final node other
  returned : (final.engine node).outcomes =
    (before.engine node).outcomes ++ [.disconnect peer.handle (.ok ())]
  idle : (final.engine node).operation = none

/-- A handle belongs to one peer. -/
theorem held_unique {control : ControlPlane} (consistent : control.Consistent) {first second : Peer}
    (held : control.peers.get? first.endpoint = some first)
    (heldToo : control.peers.get? second.endpoint = some second)
    (same : first.handle = second.handle) : first = second := by
  have formed := consistent.formed held
  obtain ⟨origin, made, isFirst⟩ := formed.fromCreated held
  obtain ⟨origin', made', isSecond⟩ := formed.fromCreated heldToo
  have sameHandle : origin.handle = origin'.handle :=
    isFirst.handle.trans (same.trans isSecond.handle.symm)
  obtain rfl := formed.createdDistinct origin made origin' made' sameHandle
  rw [← isFirst.endpoint, isSecond.endpoint, heldToo, Option.some.injEq] at held
  exact held.symm

/-- The first section of a disconnect drops the peer. -/
theorem disconnectDestroy_held {control : ControlPlane} {env : Environment} {peer : Peer}
    (succeeds : env.Succeeds) (isOpen : control.closed = false) (consistent : control.Consistent)
    (held : control.peers.get? peer.endpoint = some peer) :
    (disconnectDestroy env peer.handle).run control = .ok peer (control.dropPeer peer) := by
  obtain ⟨_, _, _, destroyed, _⟩ := succeeds.answers
  rw [run_disconnectDestroy env peer.handle consistent, isOpen]
  cases found : control.peers.values.find? fun each => each.handle = peer.handle with
  | none =>
      have missing := List.find?_eq_none.mp found peer
        (OrderedDict.mem_values.mpr ⟨peer.endpoint, held⟩)
      simp at missing
  | some each =>
      obtain ⟨isHandle, key, heldEach⟩ := OrderedDict.get?_of_find? found
      have keyed := (consistent.formed heldEach).keyed heldEach
      obtain rfl : each = peer :=
        held_unique consistent (keyed ▸ heldEach) held (by simpa using isHandle)
      simp [destroyed]

omit [DecidableEq Node] in
/-- The handler of the Close drops the entry that was connected to `peer`, and no other. -/
theorem close_served {peer : Peer} {env : Environment} {control : ControlPlane}
    {result : Except PyError Reply} (apart : other ≠ node) (consistent : control.Consistent)
    (isOpen : control.closed = false) (fresh : env.FreshFor control) (succeeds : env.Succeeds)
    (named : peer.connectionId ≠ "") {after : ControlPlane}
    (served : serveResult (topology.endpoint other) env
      (.close (connection (topology.endpoint node) peer)) control = (after, result)) :
    result = .ok .empty ∧ after.memoryMetadata = control.memoryMetadata ∧
      ∀ key, after.peers.get? key = if key = topology.endpoint node then
          (control.peers.get? key).filter fun theirs =>
            theirs.remoteConnectionId ≠ peer.connectionId
        else control.peers.get? key := by
  obtain ⟨after', given, served', outcome⟩ := serve_smooth succeeds isOpen consistent fresh
    (show (Request.close (connection (topology.endpoint node) peer)).connection.id ≠ "" from named)
    (topology.remote apart.symm)
  obtain ⟨rfl, rfl⟩ := Prod.mk.inj (served'.symm.trans served)
  cases outcome with
  | @closed _ theirs _ held known rewrites =>
      refine ⟨rfl, rewrites.memories, fun key => ?_⟩
      rw [rewrites.peers]
      by_cases here : key = topology.endpoint node
      · have heldKey : control.peers.get? key = some theirs := here ▸ held
        have same : theirs.remoteConnectionId = peer.connectionId := known
        rw [if_pos here, heldKey, Option.filter_some]
        simp [connection, here, same]
      · simp [connection, here]
  | closeIgnored unknown =>
      refine ⟨rfl, rfl, fun key => ?_⟩
      by_cases here : key = topology.endpoint node
      · subst here
        cases held : control.peers.get? (topology.endpoint node) with
        | none => simp
        | some theirs =>
            have differs : theirs.remoteConnectionId ≠ peer.connectionId := unknown theirs held
            simp [Option.filter_some, differs]
      · simp [here]

omit [DecidableEq Node] in
/-- The last states of both ends. -/
theorem parted_of_engines {final : System Node} {peer : Peer} {control : ControlPlane}
    (addressed : peer.endpoint = topology.endpoint other)
    (here : final.engine node = (system.engine node).finish
      ((system.engine node).control.dropPeer peer) (.disconnect peer.handle (.ok ())))
    (there : final.engine other = { system.engine other with control := control })
    (others : ∀ one, one ≠ node → one ≠ other → final.engine one = system.engine one)
    (memories : control.memoryMetadata = (system.engine other).control.memoryMetadata)
    (peers : ∀ key, control.peers.get? key = if key = topology.endpoint node then
        ((system.engine other).control.peers.get? key).filter fun theirs =>
          theirs.remoteConnectionId ≠ peer.connectionId
      else (system.engine other).control.peers.get? key) :
    system.Parted topology node other peer final := by
  have dropped := dropPeer_rewrites (system.engine node).control peer
  rw [addressed] at dropped
  refine ⟨fun key => ?_, fun key => ?_, ⟨others, ?_, ?_, fun one => ?_⟩, ?_, ?_⟩
  · rw [here, Engine.finish, dropped.peers]
  · rw [there, peers]
  · rw [there]
  · rw [there]
  · by_cases isNode : one = node
    · rw [isNode, here]
      exact dropped.memories
    · by_cases isOther : one = other
      · rw [isOther, there]
        exact memories
      · rw [others one isNode isOther]
  · rw [here, Engine.finish]
  · rw [here, Engine.finish]

/-- The round of a disconnect: the other node drops its end, then the operation returns. -/
theorem closing_completes {peer : Peer} {parting : System Node} (apart : other ≠ node)
    (reached : (controlSystem topology).Reachable (System.FreshNames topology) parting)
    (isParting : parting = (system.setEngine node ((system.engine node).proceed
      ((system.engine node).control.dropPeer peer) (.closing peer system.rpcs.length))).send node
        peer.endpoint (.close (connection (topology.endpoint node) peer)))
    (addressed : peer.endpoint = topology.endpoint other) (named : peer.connectionId ≠ "")
    (openThere : (system.engine other).control.closed = false) :
    System.Completes topology (System.Unfailing topology) node
      (system.Parted topology node other peer) parting := by
  have authentic := authentic_of_reachable (fun _ _ obeys => obeys) reached
  have here : parting.engine node = (system.engine node).proceed
      ((system.engine node).control.dropPeer peer) (.closing peer system.rpcs.length) := by
    rw [isParting, System.send_engine, System.setEngine_engine_self]
  have elsewhere : ∀ one, one ≠ node → parting.engine one = system.engine one := by
    intro one notNode
    rw [isParting, System.send_engine, System.setEngine_engine, if_neg notNode]
  refine .of_round apart reached (by rw [here]; rfl) rfl (by simp [isParting]; rfl) rfl
    (addressed ▸ topology.resolve_endpoint other) ?_
  intro env resuming control result fresh succeeds _ served
  obtain ⟨rfl, memories, peers⟩ := close_served apart (authentic.consistent other)
    (elsewhere other apart ▸ openThere) fresh.control succeeds named served
  rw [elsewhere other apart] at memories peers
  refine ⟨_, by simp only [System.resumed?, System.stepResume,
    System.handled_engine_node apart]; rfl, fun _ => ?_⟩
  refine .ended (by simp [Engine.finish])
    (parted_of_engines addressed ?_ ?_ ?_ memories peers)
  · rw [System.setEngine_engine_self, here]
    rfl
  · rw [System.setEngine_engine, if_neg apart, System.handled_engine_target,
      elsewhere other apart]
  · intro one notNode notOther
    rw [System.setEngine_engine, if_neg notNode, System.handled, System.answer_engine,
      System.setEngine_engine, if_neg notOther, elsewhere one notNode]

/-- Handlers and replies leave an open engine open. -/
theorem open_of_transition {before after : System Node} {action : Action Node}
    (transition : Transition topology before action after)
    (notClose : ∀ one, action ≠ .close one) {one : Node}
    (isOpen : (before.engine one).control.closed = false) :
    (after.engine one).control.closed = false := by
  obtain ⟨actor, others, change⟩ := transition.effects
  by_cases here : one = actor
  · subst here
    rcases change with ⟨_, _, _, effects⟩ | ⟨isClose, _⟩
    · rw [Effects.closed effects]
      exact isOpen
    · exact absurd isClose (notClose _)
  · rw [others one here]
    exact isOpen

/-- An operation that runs alone leaves open engines open. -/
theorem System.Completes.keepsOpen {goal : System Node → Prop} {one : Node}
    (completes : System.Completes topology (System.Unfailing topology) node goal system)
    (reached : (controlSystem topology).Reachable (System.FreshNames topology) system)
    (isOpen : (system.engine one).control.closed = false) :
    System.Completes topology (System.Unfailing topology) node
      (fun final => (final.engine one).control.closed = false ∧ goal final) system := by
  induction completes with
  | ended idle holds => exact .ended idle ⟨isOpen, holds⟩
  | round waits handles resumes _ inductionHypothesis =>
      refine .round waits handles resumes fun env handled resuming resumed obeys handling obeysToo
        resumption => ?_
      have authentic := authentic_of_reachable (fun _ _ obeys => obeys) reached
      have reached' := reached.step obeys.1 handling
      have authentic' := authentic_of_reachable (fun _ _ obeys => obeys) reached'
      have isOpen' := open_of_transition (authentic.transition obeys.1 handling) (by simp) isOpen
      exact inductionHypothesis env handled resuming resumed obeys handling obeysToo resumption
        (reached'.step obeysToo.1 resumption)
        (open_of_transition (authentic'.transition obeysToo.1 resumption) (by simp) isOpen')

/-- A disconnect that runs alone and succeeds natively returns, and has removed exactly the peer and
the entry of the other node that was connected to it, whatever happened before. -/
theorem disconnect_alone_completes {env : Environment} {peer : Peer} (apart : other ≠ node)
    (reached : (controlSystem topology).Reachable (System.FreshNames topology) system)
    (idle : (system.engine node).operation = none)
    (held : (system.engine node).control.peers.get? (topology.endpoint other) = some peer)
    (openThere : (system.engine other).control.closed = false)
    (unfailing : system.Unfailing topology (.disconnect node peer.handle env)) :
    ∃ parting, system.step topology (.disconnect node peer.handle env) = some parting ∧
      System.Completes topology (System.Unfailing topology) node
        (fun final => (controlSystem topology).Reachable (System.FreshNames topology) final ∧
          (final.engine node).control.closed = false ∧
          (final.engine other).control.closed = false ∧
          system.Parted topology node other peer final) parting := by
  obtain ⟨fresh, succeeds⟩ := unfailing
  have authentic := authentic_of_reachable (fun _ _ obeys => obeys) reached
  have consistent := authentic.consistent node
  have openHere := consistent.open_of_held held
  have addressed := (consistent.formed held).keyed held
  have named : peer.connectionId ≠ "" := by
    obtain ⟨origin, made, isPeer⟩ := consistent.made held
    rw [← isPeer.connectionId]
    exact (consistent.formed held).idNonempty origin made
  have run : (disconnectDestroy env peer.handle).run (system.engine node).control =
      .ok peer ((system.engine node).control.dropPeer peer) :=
    disconnectDestroy_held succeeds openHere consistent (addressed.symm ▸ held)
  have taken : system.step topology (.disconnect node peer.handle env) =
      some ((system.setEngine node ((system.engine node).proceed
        ((system.engine node).control.dropPeer peer) (.closing peer system.rpcs.length))).send node
          peer.endpoint (.close (connection (topology.endpoint node) peer))) := by
    simp only [System.step, idle, if_true, System.stepDisconnect, run]
  have reached' := reached.step fresh taken
  have transition := authentic.transition fresh taken
  have completes := closing_completes apart reached' rfl addressed named openThere
  have openParting : ∀ one, (system.engine one).control.closed = false → _ :=
    fun one isOpen => open_of_transition transition (by simp) isOpen
  refine ⟨_, taken, ?_⟩
  exact ((completes.keepsOpen reached' (openParting other openThere)).keepsOpen reached'
    (openParting node openHere)).reachable (fun _ _ obeys => obeys.1) reached'

/-- The reply to the Ready of `alpha` gets lost; it disconnects. -/
theorem disconnect_alone_completes_pair : ∃ (system parting : System Bool) (peer : Peer),
    (system.engine false).outcomes = [.connect "beta" (.error .rpcError)] ∧
    system.step Topology.pair (.disconnect false peer.handle .idle) = some parting ∧
    System.Completes Topology.pair (System.Unfailing Topology.pair) false
      (fun final =>
        (controlSystem Topology.pair).Reachable (System.FreshNames Topology.pair) final ∧
        (final.engine false).control.closed = false ∧
        (final.engine true).control.closed = false ∧
        system.Parted Topology.pair false true peer final) parting := by
  have computed : ∃ system, (controlSystem Topology.pair).Reachable
      (System.FreshNames Topology.pair) system ∧
      (system.engine false).operation = none ∧
      (system.engine false).outcomes = [.connect "beta" (.error .rpcError)] ∧
      (∃ peer ∈ (system.engine false).control.peers.get? "beta",
        system.Unfailing Topology.pair (.disconnect false peer.handle .idle)) ∧
      (system.engine true).control.closed = false :=
    LabelledSystem.exists_reachable (.initial rfl) (connectAndRegister.take 4 ++ [.timeout false])
      (by decide)
  obtain ⟨system, reached, idle, outcomes, ⟨peer, held, unfailing⟩, openThere⟩ := computed
  obtain ⟨parting, taken, completes⟩ := disconnect_alone_completes
    (show true ≠ false by decide) reached idle held openThere unfailing
  exact ⟨system, parting, peer, outcomes, taken, completes⟩

/-! ### Recovery

A node that holds nothing for the other one is compatible with whatever the other one holds
unconnected; so after both have disconnected, a connect from either end joins them. -/

/-- A connect of the node to the other one that runs alone joins both ends. -/
def System.Mends (topology : Topology Node) (system : System Node) (node other : Node) : Prop :=
  ∀ env, system.Unfailing topology (.connect node (topology.endpoint other) env) →
    ∃ dialed, system.step topology (.connect node (topology.endpoint other) env) = some dialed ∧
      System.Completes topology (System.Unfailing topology) node
        (system.Heals topology node other) dialed

/-- Two nodes that hold nothing for each other. -/
theorem mends_of_absent (apart : other ≠ node)
    (reached : (controlSystem topology).Reachable (System.FreshNames topology) system)
    (idle : (system.engine node).operation = none)
    (openHere : (system.engine node).control.closed = false)
    (openThere : (system.engine other).control.closed = false)
    (absent : (system.engine node).control.peers.get? (topology.endpoint other) = none)
    (absentThere : (system.engine other).control.peers.get? (topology.endpoint node) = none) :
    system.Mends topology node other := by
  intro env unfailing
  have compatible : system.Compatible topology node other := by
    constructor
    · intro own held
      simp [absent] at held
    · intro theirs held
      simp [absentThere] at held
  obtain ⟨dialed, taken, completes⟩ := connect_alone_completes apart reached idle openHere openThere
    (fun own held => by simp [absent] at held) unfailing
  exact ⟨dialed, taken, completes.mono fun _ ends => ends.1 compatible⟩

/-- Both nodes can be joined from either end. -/
def System.MendsBothWays (topology : Topology Node) (system : System Node) (node other : Node) :
    Prop :=
  system.Mends topology node other ∧ system.Mends topology other node

/-- Once the other node has disconnected what it still holds for this one, a connect of either joins
them. -/
def System.MendsAfterReset (topology : Topology Node) (system : System Node) (node other : Node) :
    Prop :=
  match (system.engine other).control.peers.get? (topology.endpoint node) with
  | none => system.MendsBothWays topology node other
  | some theirs => ∀ env, system.Unfailing topology (.disconnect other theirs.handle env) →
      ∃ parting, system.step topology (.disconnect other theirs.handle env) = some parting ∧
        System.Completes topology (System.Unfailing topology) other
          (System.MendsBothWays topology · node other) parting

/-- Whatever happened before: once two open nodes that are idle have disconnected what they hold for
each other, a connect of either joins them. -/
theorem reset_heals {env : Environment} {peer : Peer} (apart : other ≠ node)
    (reached : (controlSystem topology).Reachable (System.FreshNames topology) system)
    (idle : (system.engine node).operation = none)
    (idleThere : (system.engine other).operation = none)
    (held : (system.engine node).control.peers.get? (topology.endpoint other) = some peer)
    (openThere : (system.engine other).control.closed = false)
    (unfailing : system.Unfailing topology (.disconnect node peer.handle env)) :
    ∃ parting, system.step topology (.disconnect node peer.handle env) = some parting ∧
      System.Completes topology (System.Unfailing topology) node
        (System.MendsAfterReset topology · node other) parting := by
  obtain ⟨parting, taken, completes⟩ :=
    disconnect_alone_completes apart reached idle held openThere unfailing
  refine ⟨parting, taken, completes.mono ?_⟩
  rintro first ⟨reachedFirst, openFirst, openFirstThere, parted⟩
  have idleFirst : (first.engine other).operation = none := parted.between.operation.trans idleThere
  have absent := parted.here (topology.endpoint other)
  rw [if_pos rfl] at absent
  unfold System.MendsAfterReset
  cases heldThere : (first.engine other).control.peers.get? (topology.endpoint node) with
  | none =>
      exact ⟨mends_of_absent apart reachedFirst parted.idle openFirst openFirstThere absent
          heldThere,
        mends_of_absent apart.symm reachedFirst idleFirst openFirstThere openFirst heldThere absent⟩
  | some theirs =>
      intro again unfailingAgain
      obtain ⟨parting', taken', completes'⟩ := disconnect_alone_completes apart.symm reachedFirst
        idleFirst heldThere openFirst unfailingAgain
      refine ⟨parting', taken', completes'.mono ?_⟩
      rintro second ⟨reachedSecond, openSecondThere, openSecond, partedToo⟩
      have idleSecond : (second.engine node).operation = none :=
        partedToo.between.operation.trans parted.idle
      have absentThere := partedToo.here (topology.endpoint node)
      have stillAbsent := partedToo.there (topology.endpoint other)
      rw [if_pos rfl] at absentThere stillAbsent
      rw [absent, Option.filter_none] at stillAbsent
      exact ⟨mends_of_absent apart reachedSecond idleSecond openSecond openSecondThere stillAbsent
          absentThere,
        mends_of_absent apart.symm reachedSecond partedToo.idle openSecondThere openSecond
          absentThere stillAbsent⟩

/-- The Close of `alpha` gets lost and `beta` refuses its next offer; both disconnect. -/
theorem reset_heals_pair : ∃ (system parting : System Bool) (peer : Peer),
    ¬system.Compatible Topology.pair false true ∧
    system.step Topology.pair (.disconnect false peer.handle .idle) = some parting ∧
    System.Completes Topology.pair (System.Unfailing Topology.pair) false
      (System.MendsAfterReset Topology.pair · false true) parting := by
  have computed : ∃ system, (controlSystem Topology.pair).Reachable
      (System.FreshNames Topology.pair) system ∧
      (system.engine false).operation = none ∧ (system.engine true).operation = none ∧
      (∃ peer ∈ (system.engine false).control.peers.get? "beta",
        system.Unfailing Topology.pair (.disconnect false peer.handle .idle) ∧
        ∃ theirs ∈ (system.engine true).control.peers.get? "alpha",
          theirs.state ≠ .created ∧ theirs.remoteConnectionId ≠ peer.connectionId) ∧
      (system.engine true).control.closed = false :=
    LabelledSystem.exists_reachable (.initial rfl)
      (connectAndDisconnect ++ [.timeout false, .connect false "beta" (.naming 2 "a2"),
        .handle 3 (.naming 3 "b3"), .resume false 0 .idle]) (by decide)
  obtain ⟨system, reached, idle, idleThere, ⟨peer, held, unfailing, theirs, heldThere, joined,
    differs⟩, openThere⟩ := computed
  obtain ⟨parting, taken, completes⟩ := reset_heals (show true ≠ false by decide) reached idle
    idleThere held openThere unfailing
  refine ⟨system, parting, peer, fun compatible => ?_, taken, completes⟩
  rcases compatible.2 theirs heldThere with unconnected | ⟨own, heldHere, connected⟩
  · exact joined unconnected
  · rw [show own = peer from Option.some.inj (heldHere.symm.trans held)] at connected
    exact differs connected

end Rdma101
