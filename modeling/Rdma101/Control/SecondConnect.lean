/-
Module: Rdma101.Control.SecondConnect
Purpose: A connect to the advertised name after one that was rejected because the dialed name is not
  the advertised one: exactly when it joins both ends, whatever happened in between.
Trusted boundary: none
Main exports: System.ReturnsReady, System.Joinable, System.JoinsIffJoinable, connect_joins_iff,
  rejected_name_poisons_iff
-/
import Rdma101.Control.Healing

namespace Rdma101

open Wire ControlPlane ControlServicer

variable {Node : Type} {topology : Topology Node} {system : System Node} {node other : Node}

/-- The node holds a ready peer for the other one. -/
def System.HoldsReady (topology : Topology Node) (system : System Node) (node other : Node) :
    Prop :=
  ∃ own, (system.engine node).control.peers.get? (topology.endpoint other) = some own ∧
    own.state = .ready

/-- Both nodes hold ready peers that are connected to each other. -/
structure System.ReadyTogether (topology : Topology Node) (system : System Node)
    (node other : Node) (own theirs : Peer) : Prop where
  held : (system.engine node).control.peers.get? (topology.endpoint other) = some own
  ready : own.state = .ready
  heldThere : (system.engine other).control.peers.get? (topology.endpoint node) = some theirs
  readyThere : theirs.state = .ready
  connected : own.remoteConnectionId = theirs.connectionId
  connectedThere : theirs.remoteConnectionId = own.connectionId

/-- The connect that ended last returned a handle, and both ends are ready with each other. -/
def System.ReturnsReady (topology : Topology Node) (earlier final : System Node)
    (node other : Node) : Prop :=
  ∃ own theirs, final.ReadyTogether topology node other own theirs ∧
    (final.engine node).outcomes = (earlier.engine node).outcomes ++
      [.connect (topology.endpoint other) (.ok own.handle)]

/-- A connect can join the two nodes: both are open, neither is connected to a peer that the other
has given up or keeps under another name, and the dialing one is not ready alone. -/
structure System.Joinable (topology : Topology Node) (system : System Node) (node other : Node) :
    Prop where
  openHere : (system.engine node).control.closed = false
  openThere : (system.engine other).control.closed = false
  compatible : system.Compatible topology node other
  notAlone : system.HoldsReady topology node other → system.HoldsReady topology other node

/-! ### The second connect

The node is idle, and nothing is assumed of what happened before.  The cases are those of
`Engine.connect`: its own engine is closed, its peer is ready already, the other engine is closed,
and otherwise the handshake, which `connect_alone_completes` follows to its end. -/

/-- A connect that ended with an error has returned no handle. -/
theorem System.ReturnsReady.not_raised {earlier final : System Node}
    (returns : System.ReturnsReady topology earlier final node other)
    (raised : ∃ error, (final.engine node).outcomes = (earlier.engine node).outcomes ++
      [.connect (topology.endpoint other) (.error error)]) : False := by
  obtain ⟨own, theirs, -, returned⟩ := returns
  obtain ⟨error, raised⟩ := raised
  rw [raised] at returned
  simp at returned

theorem System.ReadyTogether.compatible {own theirs : Peer}
    (together : system.ReadyTogether topology node other own theirs) :
    system.Compatible topology node other := by
  constructor
  · intro own' held
    obtain rfl := Option.some.inj (together.held.symm.trans held)
    exact .inr ⟨theirs, together.heldThere, together.connected⟩
  · intro theirs' held
    obtain rfl := Option.some.inj (together.heldThere.symm.trans held)
    exact .inr ⟨own, together.held, together.connectedThere⟩

/-- Two ready peers of nodes that have given nothing up are connected to each other. -/
theorem System.Compatible.together {own theirs : Peer}
    (compatible : system.Compatible topology node other)
    (held : (system.engine node).control.peers.get? (topology.endpoint other) = some own)
    (ready : own.state = .ready)
    (heldThere : (system.engine other).control.peers.get? (topology.endpoint node) = some theirs)
    (readyThere : theirs.state = .ready) :
    system.ReadyTogether topology node other own theirs := by
  refine ⟨held, ready, heldThere, readyThere, ?_, ?_⟩
  · obtain unconnected | ⟨theirs', heldThere', connected⟩ := compatible.1 own held
    · rw [ready] at unconnected
      cases unconnected
    · obtain rfl := Option.some.inj (heldThere.symm.trans heldThere')
      exact connected
  · obtain unconnected | ⟨own', held', connected⟩ := compatible.2 theirs heldThere
    · rw [readyThere] at unconnected
      cases unconnected
    · obtain rfl := Option.some.inj (held.symm.trans held')
      exact connected

variable [DecidableEq Node] {env : Environment}

/-- `Engine.connect` that ends before its first RPC. -/
theorem step_connect_ends {endpoint : String} {control : ControlPlane}
    (idle : (system.engine node).operation = none) :
    (∀ error, (connectOffer (topology.endpoint node) env endpoint).run
        (system.engine node).control = .error error control →
      system.step topology (.connect node endpoint env) =
        some (system.setEngine node
          ((system.engine node).finish control (.connect endpoint (.error error))))) ∧
    ∀ handle, (connectOffer (topology.endpoint node) env endpoint).run
        (system.engine node).control = .ok (.inl handle) control →
      system.step topology (.connect node endpoint env) =
        some (system.setEngine node
          ((system.engine node).finish control (.connect endpoint (.ok handle)))) := by
  constructor
  · intro error run
    simp only [System.step, idle, if_true, System.stepConnect, run]
  · intro handle run
    simp only [System.step, idle, if_true, System.stepConnect, run]

/-- The connect that starts now runs alone to its end, and it joins both ends exactly when the
state is joinable. -/
def System.JoinsIffJoinable (topology : Topology Node) (system : System Node) (node other : Node)
    (env : Environment) : Prop :=
  ∃ calling, system.step topology (.connect node (topology.endpoint other) env) = some calling ∧
    System.Completes topology (System.Unfailing topology) node
      (fun final => System.ReturnsReady topology system final node other ↔
        system.Joinable topology node other) calling

/-- A closed engine raises before it sends anything. -/
theorem joinsIff_of_closed (apart : other ≠ node)
    (idle : (system.engine node).operation = none)
    (closed : (system.engine node).control.closed = true) :
    system.JoinsIffJoinable topology node other env := by
  have run : (connectOffer (topology.endpoint node) env (topology.endpoint other)).run
      (system.engine node).control =
        .error (.runtimeError "engine is closed") (system.engine node).control := by
    rw [run_connectOffer, if_neg (topology.remote apart), if_pos closed]
  refine ⟨_, (step_connect_ends idle).1 _ run, ?_⟩
  refine .ended (by simp [Engine.finish]) (iff_of_false (fun returns => ?_) fun joinable => ?_)
  · exact returns.not_raised ⟨_, by rw [System.setEngine_engine_self]; rfl⟩
  · exact Bool.false_ne_true (joinable.openHere.symm.trans closed)

/-- A peer that is ready is returned without an RPC. -/
theorem joinsIff_of_ready {own : Peer} (apart : other ≠ node)
    (reached : (controlSystem topology).Reachable (System.FreshNames topology) system)
    (idle : (system.engine node).operation = none)
    (openHere : (system.engine node).control.closed = false)
    (held : (system.engine node).control.peers.get? (topology.endpoint other) = some own)
    (ready : own.state = .ready) : system.JoinsIffJoinable topology node other env := by
  have run : (connectOffer (topology.endpoint node) env (topology.endpoint other)).run
      (system.engine node).control = .ok (.inl own.handle) (system.engine node).control := by
    rw [run_connectOffer, if_neg (topology.remote apart), openHere, run_getOrCreatePeer, held]
    simp [ready]
  obtain ⟨final, isFinal⟩ : ∃ final, final = system.setEngine node
      ((system.engine node).finish (system.engine node).control
        (.connect (topology.endpoint other) (.ok own.handle))) := ⟨_, rfl⟩
  have taken : system.step topology (.connect node (topology.endpoint other) env) = some final :=
    isFinal ▸ (step_connect_ends idle).2 _ run
  have here : final.engine node = (system.engine node).finish (system.engine node).control
      (.connect (topology.endpoint other) (.ok own.handle)) := by
    rw [isFinal, System.setEngine_engine_self]
  have there : final.engine other = system.engine other := by
    rw [isFinal, System.setEngine_engine, if_neg apart]
  refine ⟨final, taken, .ended (by rw [here]; rfl) ⟨?_, fun joinable => ?_⟩⟩
  · rintro ⟨own', theirs, together, -⟩
    have together' : system.ReadyTogether topology node other own' theirs := by
      obtain ⟨heldHere, isReady, heldThere, readyThere, connected, connectedThere⟩ := together
      rw [here] at heldHere
      rw [there] at heldThere
      exact ⟨heldHere, isReady, heldThere, readyThere, connected, connectedThere⟩
    -- An engine that still holds a peer has not been closed.
    have consistent := (authentic_of_reachable (fun _ _ obeys => obeys) reached).consistent other
    exact ⟨openHere, consistent.open_of_held together'.heldThere, together'.compatible,
      fun _ => ⟨theirs, together'.heldThere, together'.readyThere⟩⟩
  · obtain ⟨theirs, heldThere, readyThere⟩ := joinable.notAlone ⟨own, held, ready⟩
    have together := joinable.compatible.together held ready heldThere readyThere
    refine ⟨own, theirs, ⟨?_, ready, ?_, readyThere, together.connected,
      together.connectedThere⟩, by rw [here]; rfl⟩
    · rw [here]
      exact held
    · rw [there]
      exact heldThere

/-- The handler of an offer raises in a closed engine. -/
theorem serveResult_of_closed {advertised : String} {request : Offer} {control after : ControlPlane}
    {result : Except PyError Reply} (closed : control.closed = true)
    (served : serveResult advertised env (.connect request) control = (after, result)) :
    ∃ error, result = .error error := by
  obtain ⟨error, raised⟩ : ∃ error,
      (serve advertised env (.connect request)).run control = .error error control := by
    rw [serve, run_connect, closed]
    split
    · exact ⟨_, rfl⟩
    · exact ⟨_, rfl⟩
  rw [serveResult, raised] at served
  exact ⟨error, (Prod.mk.inj served).2.symm⟩

/-- A closed engine at the other end refuses the offer. -/
theorem joinsIff_of_closed_there (apart : other ≠ node)
    (reached : (controlSystem topology).Reachable (System.FreshNames topology) system)
    (idle : (system.engine node).operation = none)
    (openHere : (system.engine node).control.closed = false)
    (unready : ¬system.HoldsReady topology node other)
    (closedThere : (system.engine other).control.closed = true)
    (unfailing : system.Unfailing topology (.connect node (topology.endpoint other) env)) :
    system.JoinsIffJoinable topology node other env := by
  obtain ⟨fresh, succeeds⟩ := unfailing
  have notJoinable : ¬system.Joinable topology node other :=
    fun joinable => Bool.false_ne_true (joinable.openThere.symm.trans closedThere)
  obtain ⟨result, control, run, offers⟩ :=
    connectOffer_smooth succeeds openHere (topology.remote apart)
  obtain ⟨peer, rfl, keyed⟩ : ∃ peer, result = .inr peer ∧
      peer.endpoint = topology.endpoint other := by
    cases offers with
    | ready held isReady => exact absurd ⟨_, held, isReady⟩ unready
    | again held _ =>
        have authentic := authentic_of_reachable (fun _ _ obeys => obeys) reached
        exact ⟨_, rfl, ((authentic.consistent node).formed held).keyed held⟩
    | new absent rewrites => exact ⟨_, rfl, rfl⟩
  obtain ⟨dialed, isDialed⟩ : ∃ dialed, dialed =
      (system.setEngine node ((system.engine node).proceed control
        (.offering peer system.rpcs.length))).send node (topology.endpoint other)
          (.connect (offer (topology.endpoint node) peer)) := ⟨_, rfl⟩
  have taken : system.step topology (.connect node (topology.endpoint other) env) = some dialed :=
    isDialed ▸ step_connect_offers idle run
  have here : dialed.engine node = (system.engine node).proceed control
      (.offering peer system.rpcs.length) := by
    rw [isDialed, System.send_engine, System.setEngine_engine_self]
  have there : dialed.engine other = system.engine other := by
    rw [isDialed, System.send_engine, System.setEngine_engine, if_neg apart]
  refine ⟨dialed, taken, ?_⟩
  refine .of_round apart (.step reached fresh taken) (by rw [here]; rfl) rfl
    (by simp [isDialed]; rfl) rfl (topology.resolve_endpoint other) ?_
  intro handling resuming after result _ _ _ served
  rw [there] at served
  obtain ⟨error, rfl⟩ := serveResult_of_closed closedThere served
  refine ⟨_, rfl, fun _ => .ended (by simp [System.raiseRpcError, Engine.finish])
    (iff_of_false (fun returns => ?_) notJoinable)⟩
  refine returns.not_raised ⟨.rpcError, ?_⟩
  simp [System.raiseRpcError, Engine.finish, Operation.rpcFailed, apart, keyed, here,
    Engine.proceed]

/-- Every connect between two nodes runs alone to its end, and it joins them exactly when their
state is joinable. -/
theorem connect_joins_iff (apart : other ≠ node)
    (reached : (controlSystem topology).Reachable (System.FreshNames topology) system)
    (idle : (system.engine node).operation = none)
    (unfailing : system.Unfailing topology (.connect node (topology.endpoint other) env)) :
    system.JoinsIffJoinable topology node other env := by
  cases closed : (system.engine node).control.closed with
  | true => exact joinsIff_of_closed apart idle closed
  | false =>
      by_cases isReady : system.HoldsReady topology node other
      · obtain ⟨own, held, ready⟩ := isReady
        exact joinsIff_of_ready apart reached idle closed held ready
      cases closedThere : (system.engine other).control.closed with
      | true =>
          exact joinsIff_of_closed_there apart reached idle closed isReady closedThere unfailing
      | false =>
          obtain ⟨calling, taken, completes⟩ := connect_alone_completes apart reached idle closed
            closedThere (fun own held ready => isReady ⟨own, held, ready⟩) unfailing
          refine ⟨calling, taken, completes.mono fun final ends => ⟨fun returns => ?_, ?_⟩⟩
          · by_cases compatible : system.Compatible topology node other
            · exact ⟨closed, closedThere, compatible, fun held => absurd held isReady⟩
            · exact (returns.not_raised (ends.2 compatible)).elim
          · intro joinable
            obtain ⟨-, own, theirs, joined, returned⟩ := ends.1 joinable.compatible
            exact ⟨own, theirs, ⟨joined.held, joined.ready, joined.heldThere, joined.readyThere,
              joined.connected, joined.connectedThere⟩, returned⟩

/-! ### After a rejected name

The handler of the misnamed offer has made an entry for the caller and connected it to the peer that
the caller keeps under the dialed name.  As long as that entry is there, the two nodes are not
joinable, and the next connect is refused. -/

/-- A peer that the other node keeps under the dialed name is not one that a connect to the
advertised name can join. -/
theorem misnamed_not_joinable {address : String} {own theirs : Peer}
    (reached : (controlSystem topology).Reachable (System.FreshNames topology) system)
    (misnamed : address ≠ topology.endpoint other)
    (held : (system.engine node).control.peers.get? address = some own)
    (heldThere : (system.engine other).control.peers.get? (topology.endpoint node) = some theirs)
    (joined : theirs.state ≠ .created) (named : theirs.remoteConnectionId = own.connectionId) :
    ¬system.Joinable topology node other := by
  intro joinable
  obtain unconnected | ⟨current, heldHere, same⟩ := joinable.compatible.2 theirs heldThere
  · exact joined unconnected
  · have authentic := authentic_of_reachable (fun _ _ obeys => obeys) reached
    have sameKey := (authentic.entry_unique held heldHere (named.symm.trans same)).2.1
    exact misnamed sameKey

omit [DecidableEq Node] in
/-- What is left behind keeps the two nodes from being joined. -/
theorem LeftBehind.not_joinable {theirs origin : Peer}
    (left : LeftBehind topology system node other theirs origin) :
    ¬system.Joinable topology node other := by
  intro joinable
  obtain unconnected | ⟨current, heldHere, -⟩ := joinable.compatible.2 theirs left.held
  · exact left.joined unconnected
  · exact absurd (left.absent.symm.trans heldHere) (by simp)

/-- A connect that follows one that was rejected for the dialed name.  Whatever other nodes and
messages did in between, it runs to its end, and it returns a handle with both ends ready exactly
when the state it starts from is joinable.  It is not while the other node holds an entry that is
connected to the peer of the rejected dial, and never when the rejected connect ran alone: the next
one then raises an RpcError. -/
theorem rejected_name_poisons_iff {dialed rejected : System Node} {address : String}
    {again : Environment}
    (reached : (controlSystem topology).Reachable (System.FreshNames topology) system)
    (apart : other ≠ node) (strangers : system.Strangers topology node other)
    (reaches : topology.resolve address = some other)
    (misnamed : address ≠ topology.endpoint other)
    (fresh : system.FreshNames topology (.connect node address env))
    (dials : system.step topology (.connect node address env) = some dialed)
    (goesOn : (controlSystem topology).Leads (System.FreshNames topology) dialed rejected)
    (raised : (rejected.engine node).outcomes = (system.engine node).outcomes ++
      [.connect address (.error (.valueError "unexpected connection identity"))])
    (idle : (rejected.engine node).operation = none)
    (unfailing : rejected.Unfailing topology (.connect node (topology.endpoint other) again)) :
    rejected.JoinsIffJoinable topology node other again ∧
    (∀ own theirs, (rejected.engine node).control.peers.get? address = some own →
      (rejected.engine other).control.peers.get? (topology.endpoint node) = some theirs →
      theirs.state ≠ .created → theirs.remoteConnectionId = own.connectionId →
      ¬rejected.Joinable topology node other) ∧
    (System.RunsAlone topology (System.FreshNames topology) node dialed rejected →
      ¬rejected.Joinable topology node other ∧
      ∀ calling final, rejected.step topology (.connect node (topology.endpoint other) again) =
          some calling →
        System.RunsAlone topology (System.Unfailing topology) node calling final →
        (final.engine node).outcomes = (rejected.engine node).outcomes ++
          [.connect (topology.endpoint other) (.error .rpcError)]) := by
  have reachedRejected : (controlSystem topology).Reachable (System.FreshNames topology) rejected :=
    goesOn.reachable (.step reached fresh dials)
  refine ⟨connect_joins_iff apart reachedRejected idle unfailing, ?_, fun alone => ?_⟩
  · intro own theirs held heldThere joined named
    exact misnamed_not_joinable reachedRejected misnamed held heldThere joined named
  · obtain ⟨theirs, origin, left⟩ := rejected_leaves (fun _ _ obeys => obeys) reached apart reaches
      misnamed (strangers.here address reaches)
      (strangers.here _ (topology.resolve_endpoint other)) fresh dials alone raised
    refine ⟨left.not_joinable, fun calling final taken aloneAgain => ?_⟩
    exact leftBehind_refuses (fun _ _ obeys => obeys.1) (fun _ _ obeys => obeys.2)
      (authentic_of_reachable (fun _ _ obeys => obeys) reachedRejected) apart left unfailing taken
      aloneAgain

/-- Two nodes that advertise `alpha` and `beta`; the address `beta:1` reaches `beta`, too. -/
def Topology.withPort : Topology Bool where
  endpoint := Topology.pair.endpoint
  resolve := fun address => if address = "beta:1" then some true else Topology.pair.resolve address
  resolve_endpoint := by decide
  endpoint_ne_empty := by decide

/-- `alpha` dials `beta:1` and is rejected.  In the first run `beta` has disconnected the entry by
then, so `alpha` can connect to it; in the second nothing came in between. -/
theorem rejected_name_poisons_iff_pair : ∃ dropped kept : System Bool,
    (dropped.engine false).outcomes =
      [.connect "beta:1" (.error (.valueError "unexpected connection identity"))] ∧
    dropped.Joinable Topology.withPort false true ∧
    dropped.JoinsIffJoinable Topology.withPort false true (.naming 2 "a2") ∧
    (kept.engine false).outcomes =
      [.connect "beta:1" (.error (.valueError "unexpected connection identity"))] ∧
    ¬kept.Joinable Topology.withPort false true ∧
    kept.JoinsIffJoinable Topology.withPort false true (.naming 2 "a2") := by
  have computed : ∃ dialed ∈ System.start.step Topology.withPort
        (.connect false "beta:1" (.naming 1 "a1")),
      (∃ dropped ∈ (controlSystem Topology.withPort).execute (System.FreshNames Topology.withPort)
          dialed [.handle 0 (.naming 1 "b1"), .disconnect true 1 .idle, .handle 1 (.naming 2 "a2"),
            .resume true 0 .idle, .resume false 0 .idle],
        (dropped.engine false).outcomes =
          [.connect "beta:1" (.error (.valueError "unexpected connection identity"))] ∧
        (dropped.engine false).operation = none ∧
        ((dropped.engine false).control.closed = false ∧
          (dropped.engine true).control.closed = false) ∧
        (dropped.engine false).control.peers.get? "beta" = none ∧
        (dropped.engine true).control.peers.get? "alpha" = none ∧
        dropped.Unfailing Topology.withPort (.connect false "beta" (.naming 2 "a2"))) ∧
      ∃ kept ∈ dialed.runAlone Topology.withPort (System.FreshNames Topology.withPort) false
          [(.naming 1 "b1", .idle)],
        (kept.engine false).outcomes =
          [.connect "beta:1" (.error (.valueError "unexpected connection identity"))] ∧
        (kept.engine false).operation = none ∧
        kept.Unfailing Topology.withPort (.connect false "beta" (.naming 2 "a2")) := by
    decide
  obtain ⟨dialed, dials, ⟨dropped, droppedRun, raised, idle, ⟨openHere, openThere⟩, absent,
    absentThere, unfailing⟩, kept, alone, raisedKept, idleKept, unfailingKept⟩ := computed
  have fresh : System.start.FreshNames Topology.withPort
      (.connect false "beta:1" (.naming 1 "a1")) := by decide
  have strangers : (System.start : System Bool).Strangers Topology.withPort false true := by
    constructor <;> simp [System.start]
  have joinable : dropped.Joinable Topology.withPort false true := by
    refine ⟨openHere, openThere, ⟨fun own held => ?_, fun theirs held => ?_⟩, ?_⟩
    · exact absurd (absent.symm.trans held) (by simp)
    · exact absurd (absentThere.symm.trans held) (by simp)
    · rintro ⟨own, held, -⟩
      exact absurd (absent.symm.trans held) (by simp)
  have afterDrop := rejected_name_poisons_iff (.initial rfl) (show true ≠ false by decide) strangers
    (by decide) (by decide) fresh dials (LabelledSystem.leads_of_execute droppedRun) raised idle
    unfailing
  have alone' := System.RunsAlone.of_runAlone alone
  have afterKept := rejected_name_poisons_iff (.initial rfl) (show true ≠ false by decide) strangers
    (by decide) (by decide) fresh dials alone'.leads raisedKept idleKept unfailingKept
  exact ⟨dropped, kept, raised, joinable, afterDrop.1, raisedKept, (afterKept.2.2 alone').1,
    afterKept.1⟩

/-- The run of the two dials, from the start. -/
theorem misnamed_dial_spoils_pair : ∃ dialed rejected calling final : System Bool,
    (System.start : System Bool).Strangers Topology.withPort false true ∧
    System.start.step Topology.withPort (.connect false "beta:1" (.naming 1 "a1")) =
      some dialed ∧
    System.RunsAlone Topology.withPort (System.FreshNames Topology.withPort) false dialed
      rejected ∧
    (rejected.engine false).outcomes =
      [.connect "beta:1" (.error (.valueError "unexpected connection identity"))] ∧
    rejected.step Topology.withPort (.connect false "beta" (.naming 2 "a2")) = some calling ∧
    System.RunsAlone Topology.withPort (System.Unfailing Topology.withPort) false calling final ∧
    ¬System.ReturnsReady Topology.withPort rejected final false true := by
  have computed : ∃ dialed ∈ System.start.step Topology.withPort
        (.connect false "beta:1" (.naming 1 "a1")),
      ∃ rejected ∈ dialed.runAlone Topology.withPort (System.FreshNames Topology.withPort) false
        [(.naming 1 "b1", .idle)],
      (rejected.engine false).outcomes =
        [.connect "beta:1" (.error (.valueError "unexpected connection identity"))] ∧
      ∃ calling ∈ rejected.step Topology.withPort (.connect false "beta" (.naming 2 "a2")),
      ∃ final ∈ calling.runAlone Topology.withPort (System.Unfailing Topology.withPort) false
        [(.naming 2 "b2", .idle)],
      (final.engine false).outcomes = (rejected.engine false).outcomes ++
        [.connect "beta" (.error .rpcError)] := by
    decide
  obtain ⟨dialed, dials, rejected, alone, raised, calling, dialsAgain, final, aloneAgain,
    failed⟩ := computed
  refine ⟨dialed, rejected, calling, final, ?_, dials, .of_runAlone alone, raised, dialsAgain,
    .of_runAlone aloneAgain, fun returns => returns.not_raised ⟨_, failed⟩⟩
  constructor <;> simp [System.start]

end Rdma101
