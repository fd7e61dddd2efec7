/-
Module: Rdma101.Control.Publish
Purpose: The fan-out of `publish`: the loop over the ready peers, whose calls may fail at any place,
  and exactly when it reaches every peer whose call would succeed.
Trusted boundary: human-reviewed translation of ControlPlane.publish
Main exports: publish, callChanged, Network, Imported, leads_publish, publish_reaches_iff
-/
import Rdma101.Control.Acknowledged
import Rdma101.Lib.FanOut

namespace Rdma101

open Wire ControlPlane

/-! ### The loop

The whole of `publish` as one program, for a network that decides the fate of every call.  It
stops at the first call that raises. -/

/-- `publish` with the effect that a call of `Changed` has on what is not of this node. -/
def publish {Remote : Type} (advertised : String) (metadata : Bytes)
    (changed : Peer → Update → EStateM PyError Remote Unit) :
    EStateM PyError (ControlPlane × Remote) Unit := do
  let (snapshot, peers) ← FanOut.onFirst (publishAppend metadata)
  FanOut.onSecond (peers.forM fun peer =>
    changed peer { connection := connection advertised peer, snapshot := snapshot })

/-- What becomes of a call. -/
inductive Delivery where
  | delivered
  /-- The request does not arrive in time. -/
  | lost
  /-- The handler runs, and its reply does not arrive in time. -/
  | replyLost
deriving DecidableEq

/-- A call of `Changed` at a remote control plane. -/
def callChanged (env : Environment) (delivery : Delivery) (update : Update) :
    EStateM PyError ControlPlane Unit := fun remote =>
  if delivery = .lost then .error .rpcError remote
  else
    match (ControlServicer.changed env update).run remote with
    | .error _ after => .error .rpcError after
    | .ok _ after => if delivery = .replyLost then .error .rpcError after else .ok () after

/-- What the calls to each endpoint meet. -/
structure Network where
  environment : String → Environment
  delivery : String → Delivery

/-- The remote control planes, each as a call finds it. -/
abbrev Remotes := String → ControlPlane

/-- A call of `Changed` for a peer. -/
def Network.changed (network : Network) (peer : Peer) (update : Update) :
    EStateM PyError ControlPlane Unit :=
  callChanged (network.environment peer.endpoint) (network.delivery peer.endpoint) update

def Network.publish (network : Network) (advertised : String) (metadata : Bytes) :
    EStateM PyError (ControlPlane × Remotes) Unit :=
  Rdma101.publish advertised metadata fun peer update =>
    FanOut.atPlace peer.endpoint (network.changed peer update)

/-! ### What a publish is to achieve

A peer is reached when the entry at its other end has imported the snapshot, whether the call
came back or not. -/

/-- The peers that `publish` notifies, in this order. -/
def ControlPlane.readyPeers (control : ControlPlane) : List Peer :=
  control.peers.values.filter fun peer => peer.state = .ready

/-- The update that `publish` sends for a peer. -/
def ControlPlane.announcement (control : ControlPlane) (advertised : String) (metadata : Bytes)
    (peer : Peer) : Update where
  connection := connection advertised peer
  snapshot := { control with memoryMetadata := control.memoryMetadata ++ [metadata] }.snapshot

/-- The call for the peer would succeed. -/
def Network.Succeeds (network : Network) (control : ControlPlane) (advertised : String)
    (metadata : Bytes) (remotes : Remotes) (peer : Peer) : Prop :=
  FanOut.Succeeds Peer.endpoint
    (fun peer => network.changed peer (control.announcement advertised metadata peer)) remotes peer

instance (network : Network) (control : ControlPlane) (advertised : String) (metadata : Bytes)
    (remotes : Remotes) (peer : Peer) :
    Decidable (network.Succeeds control advertised metadata remotes peer) :=
  inferInstanceAs (Decidable (FanOut.Succeeds _ _ _ _))

/-- The remote end of the connection has imported the snapshot. -/
def Imported (update : Update) (remote : ControlPlane) : Prop :=
  ∃ theirs ∈ remote.peers.get? update.connection.endpoint,
    theirs.remoteConnectionId = update.connection.id ∧
      (update.snapshot.version : Int) ≤ theirs.remoteVersion

instance (update : Update) (remote : ControlPlane) : Decidable (Imported update remote) :=
  inferInstanceAs (Decidable (∃ theirs ∈ _, _))

section Run

variable {control : ControlPlane} {advertised : String} {metadata : Bytes} {network : Network}
  {remotes : Remotes}

/-- The first section of `publish` on an open control plane. -/
theorem run_publishAppend (isOpen : control.closed = false) :
    (publishAppend metadata).run control =
      .ok (({ control with memoryMetadata := control.memoryMetadata ++ [metadata] }
          : ControlPlane).snapshot, control.readyPeers)
        { control with memoryMetadata := control.memoryMetadata ++ [metadata] } := by
  simp [publishAppend, run_checkOpen, isOpen, readyPeers]

/-- On an open control plane `publish` appends the metadata and calls the peers. -/
theorem run_publish {Remote : Type} {remote : Remote}
    {changed : Peer → Update → EStateM PyError Remote Unit} (isOpen : control.closed = false) :
    (publish advertised metadata changed).run (control, remote) =
      (FanOut.onSecond (control.readyPeers.forM fun peer =>
        changed peer (control.announcement advertised metadata peer))).run
        ({ control with memoryMetadata := control.memoryMetadata ++ [metadata] }, remote) := by
  simp [publish, run_publishAppend isOpen, announcement]

/-- The remote planes are those that the loop leaves. -/
theorem Network.run_publish (isOpen : control.closed = false) :
    (FanOut.finalState ((network.publish advertised metadata).run (control, remotes))).2 =
      FanOut.finalState ((FanOut.forEach Peer.endpoint
        (fun peer => network.changed peer (control.announcement advertised metadata peer))
        control.readyPeers).run remotes) := by
  rw [Network.publish, Rdma101.run_publish isOpen, FanOut.finalState_onSecond]
  rfl

theorem run_callChanged {env : Environment} {delivery : Delivery} {update : Update}
    (remote : ControlPlane) :
    (callChanged env delivery update).run remote =
      if delivery = .lost then .error .rpcError remote
      else
        match (ControlServicer.changed env update).run remote with
        | .error _ after => .error .rpcError after
        | .ok _ after =>
            if delivery = .replyLost then .error .rpcError after else .ok () after := rfl

/-- A call of `Changed` that succeeds leaves the snapshot imported. -/
theorem callChanged_imports {env : Environment} {delivery : Delivery} {update : Update}
    {remote : ControlPlane} (consistent : remote.Consistent)
    (succeeds : FanOut.isOk ((callChanged env delivery update).run remote) = true) :
    Imported update (FanOut.finalState ((callChanged env delivery update).run remote)) := by
  rw [run_callChanged] at succeeds ⊢
  split at succeeds
  · cases succeeds
  · rename_i arrives
    rw [if_neg arrives]
    cases run : (ControlServicer.changed env update).run remote with
    | error error after =>
        rw [run] at succeeds
        cases succeeds
    | ok reply after =>
        obtain ⟨theirs, held, named, version⟩ := changed_acknowledges consistent run
        dsimp only
        split <;> exact ⟨theirs, held, named, version⟩

end Run

/-! ### The publish of the system

`System.stepPublish` and `System.notify` are the same loop, cut into critical sections between
which other nodes may act.  `leads_publish` ties the two together: when nothing else acts in
between, these steps end exactly as the loop does, whatever the network does to each call. -/

section Stepwise

variable {Node : Type} [DecidableEq Node] {topology : Topology Node} {system : System Node}
  {node target : Node} {network : Network} {control : ControlPlane} {metadata : Bytes}
  {snapshot : Snapshot} {remotes : Remotes} {env : Environment} {delivery : Delivery}
  {update : Update} {peer : Peer} {rest : List Peer} {call : Nat}

/-- The remote control planes are those of the other nodes, each under its endpoint. -/
def System.Faces (topology : Topology Node) (system : System Node) (node : Node)
    (remotes : Remotes) : Prop :=
  ∀ other, other ≠ node → remotes (topology.endpoint other) = (system.engine other).control

/-- The operation of the node has ended as the loop of `publish` has. -/
def System.PublishEnds (topology : Topology Node) (before : System Node) (node : Node)
    (metadata : Bytes) (after : System Node) :
    EStateM.Result PyError (ControlPlane × Remotes) Unit → Prop
  | .ok _ (control, remotes) =>
      after.engine node = (before.engine node).finish control (.publish metadata (.ok ())) ∧
        after.Faces topology node remotes
  | .error error (control, remotes) =>
      after.engine node =
          (before.engine node).finish control (.publish metadata (.error error)) ∧
        after.Faces topology node remotes

/-- A call of `Changed` that fails raises `RpcError`. -/
theorem callChanged_error {remote after : ControlPlane} {error : PyError}
    (run : (callChanged env delivery update).run remote = .error error after) :
    error = .rpcError := by
  rw [run_callChanged] at run
  repeat' split at run
  all_goals cases run
  all_goals rfl

/-- The handler of `Changed` replies with an empty message. -/
theorem changed_reply {remote after : ControlPlane} {reply : Reply}
    (run : (ControlServicer.changed env update).run remote = .ok reply after) :
    reply = .empty := by
  rw [ControlServicer.run_changed] at run
  repeat' split at run
  all_goals cases run
  rfl

/-- The step that runs the handler of a request: the target has what the handler left, the others
are as they were, and the answer is on record. -/
theorem step_handled {request : Request} {left : ControlPlane} {answer : Except PyError Reply}
    (sent : system.rpcs[call]? = some { caller := node, endpoint := topology.endpoint target,
                                        request := request })
    (served : serveResult (topology.endpoint target) env request (system.engine target).control =
      (left, answer)) :
    ∃ between, (controlSystem topology).step system (.handle call env) = some between ∧
      (∀ other, other ≠ target → between.engine other = system.engine other) ∧
      (between.engine target).control = left ∧
      between.rpcs[call]? = some { caller := node, endpoint := topology.endpoint target,
                                   request := request, answers := [answer] } := by
  have handled : (controlSystem topology).step system (.handle call env) =
      some (system.stepHandle topology target call request env) := by
    simp only [controlSystem, System.step, sent, topology.resolve_endpoint]
  rw [stepHandle_eq served] at handled
  refine ⟨_, handled, fun other apart => ?_, ?_, ?_⟩
  · simp [System.setEngine_engine, apart]
  · simp
  · simp [System.answer_getElem?, sent]

/-- The steps that make one call of the loop: the handler runs unless the request is lost, and the
operation receives its answer unless that is lost. -/
theorem leads_call
    (waits : (system.engine node).operation =
      some (.notifying metadata snapshot peer rest call))
    (sent : system.rpcs[call]? = some { caller := node, endpoint := topology.endpoint target,
                                        request := .changed update })
    (apart : target ≠ node) (env : Environment) (delivery : Delivery) :
    ∃ between after : System Node,
      (controlSystem topology).Leads (fun _ _ => True) system after ∧
      (∀ other, other ≠ target → between.engine other = system.engine other) ∧
      match (callChanged env delivery update).run (system.engine target).control with
      | .ok _ control => (between.engine target).control = control ∧
          after = between.notify topology node (system.engine node).control metadata snapshot rest
      | .error _ control => (between.engine target).control = control ∧
          after = between.raiseRpcError node
            (.notifying metadata snapshot peer rest call) := by
  have times_out {between : System Node} (same : between.engine node = system.engine node) :
      (controlSystem topology).step between (.timeout node) =
        some (between.raiseRpcError node (.notifying metadata snapshot peer rest call)) := by
    simp [controlSystem, System.step, same, waits, Operation.call?]
  rw [run_callChanged]
  by_cases lost : delivery = .lost
  · rw [if_pos lost]
    exact ⟨system, _, .step .refl trivial (times_out rfl), fun _ _ => rfl, rfl, rfl⟩
  · rw [if_neg lost]
    cases run : (ControlServicer.changed env update).run (system.engine target).control with
    | error error left =>
        have served : serveResult (topology.endpoint target) env (.changed update)
            (system.engine target).control = (left, .error error) := by
          simp [serveResult, ControlServicer.serve, run]
        obtain ⟨between, handled, others, isLeft, answered⟩ := step_handled sent served
        have same := others node apart.symm
        have raised : (controlSystem topology).step between (.resume node 0 .idle) =
            some (between.raiseRpcError node (.notifying metadata snapshot peer rest call)) := by
          simp [controlSystem, System.step, same, waits, Operation.call?, answered]
        exact ⟨between, _, .step (.step .refl trivial handled) trivial raised, others, isLeft, rfl⟩
    | ok reply left =>
        cases changed_reply run
        have served : serveResult (topology.endpoint target) env (.changed update)
            (system.engine target).control = (left, .ok .empty) := by
          simp [serveResult, ControlServicer.serve, run]
        obtain ⟨between, handled, others, isLeft, answered⟩ := step_handled sent served
        have same := others node apart.symm
        by_cases replyLost : delivery = .replyLost
        · simp only [if_pos replyLost]
          exact ⟨between, _, .step (.step .refl trivial handled) trivial (times_out same), others,
            isLeft, rfl⟩
        · have goes_on : (controlSystem topology).step between (.resume node 0 .idle) =
              some (between.notify topology node (system.engine node).control metadata snapshot
                rest) := by
            simp [controlSystem, System.step, System.stepResume, same, waits, Operation.call?,
              answered]
          simp only [if_neg replyLost]
          exact ⟨between, _, .step (.step .refl trivial handled) trivial goes_on, others, isLeft,
            rfl⟩

omit [DecidableEq Node] in
/-- What ended the operation does not depend on where the operation stood before. -/
theorem System.PublishEnds.of_proceed {before after : System Node} {operation : Operation}
    {earlier : ControlPlane} {result : EStateM.Result PyError (ControlPlane × Remotes) Unit}
    (here : before.engine node = (system.engine node).proceed earlier operation)
    (ends : before.PublishEnds topology node metadata after result) :
    system.PublishEnds topology node metadata after result := by
  cases result with
  | ok _ final => simpa [System.PublishEnds, here, Engine.proceed, Engine.finish] using ends
  | error error final => simpa [System.PublishEnds, here, Engine.proceed, Engine.finish] using ends

/-- After a call the remote control planes are those of the other nodes again. -/
theorem System.Faces.after_call {between : System Node} {left : ControlPlane}
    (faces : system.Faces topology node remotes)
    (others : ∀ other, other ≠ node → other ≠ target →
      (between.engine other).control = (system.engine other).control)
    (isLeft : (between.engine target).control = left) :
    between.Faces topology node (Function.update remotes (topology.endpoint target) left) := by
  intro other apart
  by_cases isTarget : other = target
  · rw [isTarget, Function.update_self, isLeft]
  · have elsewhere : topology.endpoint other ≠ topology.endpoint target := fun same =>
      isTarget (topology.endpoint_injective same)
    rw [Function.update_of_ne elsewhere, faces other apart, others other apart isTarget]

/-- The loop of `publish` is a run of the system in which nothing else acts. -/
theorem leads_notify (network : Network) {peers : List Peer}
    (addressed : ∀ peer ∈ peers, ∃ target, target ≠ node ∧ topology.endpoint target = peer.endpoint)
    (faces : system.Faces topology node remotes) :
    ∃ after, (controlSystem topology).Leads (fun _ _ => True)
        (system.notify topology node control metadata snapshot peers) after ∧
      system.PublishEnds topology node metadata after
        ((FanOut.onSecond (FanOut.forEach Peer.endpoint (fun peer => network.changed peer
          { connection := connection (topology.endpoint node) peer, snapshot := snapshot })
          peers)).run (control, remotes)) := by
  induction peers generalizing system remotes with
  | nil =>
      refine ⟨_, .refl, ?_, fun other apart => ?_⟩
      · simp [System.notify]
      · simp [System.notify, System.setEngine_engine, apart, faces other apart]
  | cons peer rest inductionHypothesis =>
      obtain ⟨target, apart, dials⟩ := addressed peer (.head rest)
      let waiting := system.notify topology node control metadata snapshot (peer :: rest)
      let update : Update :=
        { connection := connection (topology.endpoint node) peer, snapshot := snapshot }
      have proceeds : waiting.engine node = (system.engine node).proceed control
          (.notifying metadata snapshot peer rest system.rpcs.length) := by
        simp [waiting, System.notify]
      have elsewhere : ∀ other, other ≠ node → waiting.engine other = system.engine other := by
        intro other notNode
        simp [waiting, System.notify, System.setEngine_engine, notNode]
      have sent : waiting.rpcs[system.rpcs.length]? = some
          { caller := node, endpoint := topology.endpoint target, request := .changed update } := by
        simp [waiting, System.notify, dials, update]
      obtain ⟨between, after, leads, others, ended⟩ := leads_call
        (congrArg Engine.operation proceeds) sent apart
        (network.environment peer.endpoint) (network.delivery peer.endpoint)
      rw [elsewhere target apart, ← faces target apart, dials] at ended
      have here := (others node apart.symm).trans proceeds
      have others' : ∀ other, other ≠ node → other ≠ target →
          (between.engine other).control = (system.engine other).control :=
        fun other notNode notTarget => by rw [others other notTarget, elsewhere other notNode]
      rw [FanOut.run_onSecond, FanOut.run_forEach_cons]
      cases result : (network.changed peer update).run (remotes peer.endpoint) with
      | ok _ left =>
          rw [Network.changed] at result
          rw [result] at ended
          obtain ⟨isLeft, rfl⟩ := ended
          rw [proceeds] at leads
          obtain ⟨final, later, ends⟩ := inductionHypothesis
            (fun other member => addressed other (.tail peer member))
            (faces.after_call others' isLeft)
          refine ⟨final, leads.trans later, .of_proceed here ?_⟩
          rw [dials] at ends
          simp only [update] at result
          simpa [Network.changed, result, FanOut.run_onSecond] using ends
      | error error left =>
          rw [Network.changed] at result
          rw [result] at ended
          obtain ⟨isLeft, rfl⟩ := ended
          cases callChanged_error result
          refine ⟨_, leads, ?_, ?_⟩
          · simp [System.raiseRpcError, here, Engine.proceed, Engine.finish, Operation.rpcFailed]
          · have faced := faces.after_call others' isLeft
            rw [dials] at faced
            intro other notNode
            rw [faced other notNode]
            simp [System.raiseRpcError, System.setEngine_engine, notNode]

/-- `publish` is a run of the system in which nothing else acts, whatever the network does to its
calls. -/
theorem leads_publish (network : Network)
    (waits : (system.engine node).operation = some (.registered metadata))
    (addressed : ∀ peer ∈ (system.engine node).control.readyPeers,
      ∃ target, target ≠ node ∧ topology.endpoint target = peer.endpoint)
    (faces : system.Faces topology node remotes) :
    ∃ after, (controlSystem topology).Leads (fun _ _ => True) system after ∧
      system.PublishEnds topology node metadata after
        ((network.publish (topology.endpoint node) metadata).run
          ((system.engine node).control, remotes)) := by
  have taken : (controlSystem topology).step system (.publish node) =
      some (system.stepPublish topology node metadata) := by
    simp [controlSystem, System.step, waits]
  cases isClosed : (system.engine node).control.closed with
  | true =>
      have refused : (publishAppend metadata).run (system.engine node).control =
          .error (.runtimeError "engine is closed") (system.engine node).control := by
        simp [publishAppend, run_checkOpen, isClosed]
      simp only [System.stepPublish, refused] at taken
      refine ⟨_, .step .refl trivial taken, ?_⟩
      simp only [Network.publish, publish, EStateM.run_bind, FanOut.run_onFirst, refused]
      refine ⟨System.setEngine_engine_self _ _ _, fun other apart => ?_⟩
      rw [System.setEngine_engine, if_neg apart, faces other apart]
  | false =>
      simp only [System.stepPublish, run_publishAppend isClosed] at taken
      obtain ⟨after, leads, ends⟩ := leads_notify network addressed faces
      refine ⟨after, .trans (.step .refl trivial taken) leads, ?_⟩
      rw [Network.publish, run_publish isClosed]
      exact ends

end Stepwise

/-- The peers of the table have distinct endpoints. -/
theorem ControlPlane.WellFormed.distinct_readyPeers {control : ControlPlane}
    (formed : control.WellFormed) : (control.readyPeers.map Peer.endpoint).Nodup :=
  (OrderedDict.nodup_map_values fun _ _ held => formed.keyed held).sublist
    (List.filter_sublist.map _)

/-- A closed control plane has no ready peers. -/
theorem ControlPlane.Consistent.no_readyPeers {control : ControlPlane}
    (consistent : control.Consistent) (isClosed : control.closed = true) :
    control.readyPeers = [] := by
  apply List.filter_eq_nil_iff.mpr
  intro peer member
  obtain ⟨endpoint, held⟩ := OrderedDict.mem_values.mp member
  rw [consistent.shut isClosed endpoint] at held
  cases held

section Reaching

variable {Node : Type} [DecidableEq Node] (topology : Topology Node)

/-- The control planes that occur in the runs of a system. -/
def Occurs (control : ControlPlane) : Prop :=
  ∃ system node, (controlSystem topology).Reachable
    (fun system action => system.FreshNames topology action) system ∧
    control = (system.engine node).control

variable {topology}

theorem Occurs.consistent {control : ControlPlane} (occurs : Occurs topology control) :
    control.Consistent := by
  obtain ⟨system, node, reached, rfl⟩ := occurs
  exact (authentic_of_reachable (fun _ _ fresh => fresh) reached).consistent node

/-- When `publish` ends, every ready peer whose call would succeed has imported the snapshot,
exactly when each of them that stands behind a failing call had imported it already. -/
theorem publish_reaches_iff {control : ControlPlane} (occurs : Occurs topology control)
    (advertised : String) (metadata : Bytes) (network : Network) (remotes : Remotes)
    (remoteOccurs : ∀ endpoint, Occurs topology (remotes endpoint)) :
    (∀ peer ∈ control.readyPeers, network.Succeeds control advertised metadata remotes peer →
        Imported (control.announcement advertised metadata peer)
          ((FanOut.finalState ((network.publish advertised metadata).run (control, remotes))).2
            peer.endpoint)) ↔
      control.readyPeers.Pairwise fun failing peer =>
        ¬network.Succeeds control advertised metadata remotes failing →
        network.Succeeds control advertised metadata remotes peer →
        Imported (control.announcement advertised metadata peer) (remotes peer.endpoint) := by
  cases isClosed : control.closed with
  | true => simp [occurs.consistent.no_readyPeers isClosed]
  | false =>
      rw [Network.run_publish isClosed]
      refine FanOut.forEach_reaches_iff
        (occurs.consistent.opened isClosed).distinct_readyPeers fun peer _ succeeds => ?_
      exact callChanged_imports (remoteOccurs peer.endpoint).consistent succeeds

end Reaching

/-- Three nodes. -/
def Topology.trio : Topology (Fin 3) where
  endpoint := fun node => if node = 0 then "alpha" else if node = 1 then "beta" else "gamma"
  resolve := fun address =>
    if address = "alpha" then some 0 else if address = "beta" then some 1
    else if address = "gamma" then some 2 else none
  resolve_endpoint := by decide
  endpoint_ne_empty := by decide

/-- `alpha` connects to `beta` and to `gamma`, and then one of these disconnects; its Close is on
the way. -/
def connectTwice (leaving : Fin 3) : List (Action (Fin 3)) :=
  [.connect 0 "beta" (.naming 1 "a1"), .handle 0 (.naming 1 "b1"), .resume 0 0 .idle,
    .handle 1 (.naming 2 "b2"), .resume 0 0 .idle, .connect 0 "gamma" (.naming 2 "a2"),
    .handle 2 (.naming 1 "c1"), .resume 0 0 .idle, .handle 3 (.naming 2 "c2"),
    .resume 0 0 .idle, .disconnect leaving 1 .idle]

/-- No native call fails and no message is lost. -/
def Network.plain : Network where
  environment _ := .idle
  delivery _ := .delivered

/-- The calls find the control planes as they are. -/
def System.remotes (system : System (Fin 3)) : Remotes := fun endpoint =>
  (system.engine ((Topology.trio.resolve endpoint).getD 0)).control

/-- The last peer may fail. -/
theorem publish_reaches_iff_last : ∃ system : System (Fin 3),
    (system.engine 0).control.readyPeers.length = 2 ∧
    ∀ peer ∈ (system.engine 0).control.readyPeers,
      Network.plain.Succeeds (system.engine 0).control "alpha" [7] system.remotes peer →
      Imported ((system.engine 0).control.announcement "alpha" [7] peer)
        ((FanOut.finalState ((Network.plain.publish "alpha" [7]).run
          ((system.engine 0).control, system.remotes))).2 peer.endpoint) := by
  have computed : ∃ system, (controlSystem Topology.trio).Reachable
      (fun system action => system.FreshNames Topology.trio action) system ∧
      (system.engine 0).control.readyPeers.length = 2 ∧
      (system.engine 0).control.readyPeers.Pairwise fun failing peer =>
        ¬Network.plain.Succeeds (system.engine 0).control "alpha" [7] system.remotes failing →
        Network.plain.Succeeds (system.engine 0).control "alpha" [7] system.remotes peer →
        Imported ((system.engine 0).control.announcement "alpha" [7] peer)
          (system.remotes peer.endpoint) :=
    LabelledSystem.exists_reachable (.initial rfl) (connectTwice 2) (by decide +kernel)
  obtain ⟨system, reached, two, harmless⟩ := computed
  have own : Occurs Topology.trio (system.engine 0).control := ⟨system, 0, reached, rfl⟩
  exact ⟨system, two, (publish_reaches_iff own "alpha" [7] Network.plain system.remotes
    fun endpoint => ⟨system, _, reached, rfl⟩).mpr harmless⟩

/-- A peer that has disconnected keeps the snapshot from the next one. -/
theorem disconnected_peer_starves_next : ∃ system, (controlSystem Topology.trio).Reachable
    (fun system action => system.FreshNames Topology.trio action) system ∧
    ¬∀ peer ∈ (system.engine 0).control.readyPeers,
      Network.plain.Succeeds (system.engine 0).control "alpha" [7] system.remotes peer →
      Imported ((system.engine 0).control.announcement "alpha" [7] peer)
        ((FanOut.finalState ((Network.plain.publish "alpha" [7]).run
          ((system.engine 0).control, system.remotes))).2 peer.endpoint) :=
  LabelledSystem.exists_reachable (.initial rfl) (connectTwice 1) (by decide +kernel)

end Rdma101
