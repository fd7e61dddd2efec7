/-
Module: Rdma101.Control.Exposure
Purpose: Control planes that anybody can call: beside the steps of the nodes, requests with
  arbitrary fields are sent and calls are answered arbitrarily.  What a rejected request leaves
  behind, and on which peers a request for a connection can act.
Trusted boundary: none
Main exports: Exposure, exposedSystem, Guarded, guarded_of_reachable, rejected_requests,
  requests_act_by_id
-/
import Rdma101.Control.Authenticity
import Rdma101.Control.Smooth
import Rdma101.Control.Stale

namespace Rdma101

open Wire ControlPlane ControlServicer

/-- What can happen to exposed nodes: a step of their own, a request that anybody sends, or an
answer that anybody gives to a call. -/
inductive Exposure (Node : Type) where
  | act (action : Action Node)
  | request (caller : Node) (endpoint : String) (request : Request)
  | answer (call : Nat) (result : Except PyError Reply)

variable {Node : Type}

/-- The names that a step makes are fresh; messages may carry any. -/
def System.FreshNamesOf (topology : Topology Node) (system : System Node) :
    Exposure Node → Prop
  | .act action => system.FreshNames topology action
  | .request _ _ _ => True
  | .answer _ _ => True

instance [DecidableEq Node] [Fintype Node] (topology : Topology Node) (system : System Node)
    (exposure : Exposure Node) : Decidable (system.FreshNamesOf topology exposure) :=
  match exposure with
  | .act action => inferInstanceAs (Decidable (system.FreshNames topology action))
  | .request _ _ _ | .answer _ _ => isTrue trivial

variable [DecidableEq Node]

/-- The control planes of all nodes, exposed. -/
def exposedSystem (topology : Topology Node) :
    LabelledSystem (System Node) (Exposure Node) where
  Initial := fun system => system = System.start
  step := fun system exposure =>
    match exposure with
    | .act action => system.step topology action
    | .request caller endpoint request => some (system.send caller endpoint request)
    | .answer call result => some (system.answer call result)

/-- The invariant of exposed control planes: each is consistent, and a `connect` that waits for
the reply to `Ready` has connected its peer. -/
structure Guarded (system : System Node) : Prop where
  consistent : ∀ node, (system.engine node).control.Consistent
  updating : ∀ node peer call, (system.engine node).operation = some (.updating peer call) →
    (∃ origin ∈ (system.engine node).control.created, origin.handle = peer.handle) ∧
    ∀ current, (system.engine node).control.peers.get? peer.endpoint = some current →
      current.handle = peer.handle → current.state ≠ .created

variable {topology : Topology Node} {before after : System Node}

/-- Every transition keeps the invariant. -/
theorem Transition.guarded {action : Action Node}
    (transition : Transition topology before action after) (guarded : Guarded before) :
    Guarded after := by
  have grows := transition.grows guarded.consistent
  refine ⟨transition.consistent guarded.consistent, ?updating⟩
  intro node peer call waiting
  rcases transition.operation_cases waiting with earlier | ⟨_, other⟩ | ⟨_, _, sends, _⟩
  · obtain ⟨⟨origin, made, sameHandle⟩, joined⟩ := guarded.updating node peer call earlier
    refine ⟨⟨origin, grows.created made, sameHandle⟩, ?_⟩
    intro current held isPeer unconnected
    obtain ⟨env, grant, fresh, evolves⟩ := grows.evolves node
    rcases evolves.origin held with ⟨old, oldHeld, succeeds⟩ | ⟨_, _, unused⟩
    · have wasJoined := joined old oldHeld (succeeds.sameObject.handle.symm.trans isPeer)
      have rank := succeeds.rank
      rw [unconnected] at rank
      revert wasJoined rank
      cases old.state <;> simp [PeerState.rank]
    · exact unused origin made (sameHandle.trans isPeer.symm)
  · cases other
  · generalize (before.engine node).operation = previous at sends
    cases sends with
    | @update _ current _ held sameHandle joined =>
        have formed := (transition.consistent guarded.consistent node).formed held
        obtain ⟨origin, made, sameObject⟩ := formed.fromCreated held
        refine ⟨⟨origin, made, sameObject.handle.trans sameHandle⟩, fun other otherHeld _ => ?_⟩
        obtain rfl : current = other := by simpa [held] using otherHeld
        exact joined

/-- Whatever is sent to exposed nodes and answered to them, they stay guarded. -/
theorem guarded_of_reachable {system : System Node}
    (reached : (exposedSystem topology).Reachable (System.FreshNamesOf topology) system) :
    Guarded system := by
  refine reached.invariant (fun state isStart => ?initially) ?preserved
  case initially =>
    rw [show state = System.start from isStart]
    have authentic : Authentic topology (System.start : System Node) := authentic_start
    exact ⟨authentic.consistent, by simp [System.start]⟩
  case preserved =>
    intro before exposure after guarded fresh taken
    cases exposure with
    | act action =>
        exact (System.step_transition guarded.consistent
          (fun node peer call current waiting held sameHandle =>
            (guarded.updating node peer call waiting).2 current held sameHandle)
          fresh taken).guarded guarded
    | request caller endpoint request =>
        simp only [exposedSystem, Option.some.injEq] at taken
        exact taken ▸ ⟨guarded.consistent, guarded.updating⟩
    | answer call result =>
        simp only [exposedSystem, Option.some.injEq] at taken
        exact taken ▸ ⟨guarded.consistent, guarded.updating⟩

/-! ### Rejected requests

Each handler looks up its connection before it changes anything, with one exception: `Connect`
makes the entry of an endpoint that it does not know before it looks at the id of the offer. -/

/-- Two control planes with the same peer table and the same native peers, connections and
imports. -/
structure ControlPlane.SameResources (before after : ControlPlane) : Prop where
  peers : after.peers = before.peers
  nativePeers : after.native.peers = before.native.peers
  connected : after.native.connected = before.native.connected
  imports : after.native.imports = before.native.imports

/-- The request is an offer that names no id and comes from a remote endpoint without entry. -/
def ControlPlane.UnnamedStranger (advertised : String) (control : ControlPlane) :
    Request → Prop
  | .connect request => request.connection.id = "" ∧ request.connection.endpoint ≠ "" ∧
      request.connection.endpoint ≠ advertised ∧
      control.peers.get? request.connection.endpoint = none
  | _ => False

section Rejecting

variable {control : ControlPlane} {env : Environment} {advertised : String}
  (succeeds : env.Succeeds) (isOpen : control.closed = false) (consistent : control.Consistent)

include succeeds consistent

/-- `_connect_native` rejects an offer before it changes anything. -/
theorem connectNative_rejects {peer : Peer} {offer : Offer} {error : PyError}
    {after : ControlPlane} (held : control.peers.get? peer.endpoint = some peer)
    (raised : (connectNative env peer offer).run control = .error error after) :
    after = control := by
  obtain ⟨_, connected, _⟩ := succeeds.answers
  rw [run_connectNative env offer (consistent.formed held) held, connected] at raised
  split at raised
  · exact (EStateM.Result.error.inj raised).2.symm
  · split at raised
    · simp at raised
    · split at raised <;> simp_all

include isOpen

/-- The handlers that look a connection up reject a request before they change anything. -/
theorem ready_rejects {request : Update} {error : PyError} {after : ControlPlane}
    (raised : (ready env request).run control = .error error after) : after = control := by
  rw [run_ready, isOpen, run_findConnection] at raised
  cases held : control.peers.get? request.connection.endpoint with
  | none =>
      simp only [held, Bool.false_eq_true, if_false] at raised
      exact (EStateM.Result.error.inj raised).2.symm
  | some peer =>
      by_cases bad : request.connection.id = "" ∨
          peer.remoteConnectionId ≠ request.connection.id
      · simp only [held, bad, Bool.false_eq_true, if_false, if_true] at raised
        exact (EStateM.Result.error.inj raised).2.symm
      · have formed := consistent.formed held
        have joined : peer.state ≠ .created := fun unconnected => by
          simp_all [(formed.named held).mp unconnected]
        obtain ⟨middle, final, imports, marks, _⟩ := importReady_smooth succeeds formed
          request.snapshot ((formed.keyed held).symm ▸ held) joined
        simp [held, bad, imports, marks] at raised

theorem changed_rejects {request : Update} {error : PyError} {after : ControlPlane}
    (raised : (changed env request).run control = .error error after) : after = control := by
  rw [run_changed, isOpen, run_findConnection] at raised
  cases held : control.peers.get? request.connection.endpoint with
  | none =>
      simp only [held, Bool.false_eq_true, if_false] at raised
      exact (EStateM.Result.error.inj raised).2.symm
  | some peer =>
      by_cases bad : request.connection.id = "" ∨
          peer.remoteConnectionId ≠ request.connection.id
      · simp only [held, bad, Bool.false_eq_true, if_false, if_true] at raised
        exact (EStateM.Result.error.inj raised).2.symm
      · have formed := consistent.formed held
        have joined : peer.state ≠ .created := fun unconnected => by
          simp_all [(formed.named held).mp unconnected]
        obtain ⟨final, imports, _⟩ := importSnapshot_smooth succeeds formed request.snapshot
          ((formed.keyed held).symm ▸ held) joined
        simp [held, bad, imports] at raised

/-- `Close` raises nothing. -/
theorem close_accepts {request : Connection} {error : PyError} {after : ControlPlane} :
    (ControlServicer.close env request).run control ≠ .error error after := by
  obtain ⟨_, _, _, destroyed, _⟩ := succeeds.answers
  rw [run_close env request consistent, isOpen]
  cases held : control.peers.get? request.endpoint with
  | none => simp
  | some peer => by_cases same : peer.remoteConnectionId = request.id <;> simp [same, destroyed]

/-- `Connect` makes the entry of a stranger before it looks at the id of the offer. -/
theorem connect_rejects {request : Offer} (fresh : env.FreshFor control) :
    (∀ error after, (connect advertised env request).run control = .error error after →
      control.SameResources after) ↔
      ¬control.UnnamedStranger advertised (.connect request) := by
  rw [run_connect, isOpen]
  by_cases bad : request.connection.endpoint = "" ∨ request.connection.endpoint = advertised
  · rw [if_pos bad]
    refine ⟨fun _ stranger => ?_, fun _ error after raised => ?_⟩
    · exact bad.elim stranger.2.1 stranger.2.2.1
    · obtain ⟨-, rfl⟩ : _ ∧ control = after := by simpa using raised
      exact ⟨rfl, rfl, rfl, rfl⟩
  rw [if_neg bad, run_getOrCreatePeer]
  rw [not_or] at bad
  cases held : control.peers.get? request.connection.endpoint with
  | some peer =>
      have heldThere := ((consistent.formed held).keyed held).symm ▸ held
      refine ⟨fun _ stranger => by simp [stranger.2.2.2] at held, fun _ error after raised => ?_⟩
      cases run : (connectNative env peer request).run control with
      | ok => simp [run] at raised
      | error error' final =>
          obtain rfl := connectNative_rejects succeeds consistent heldThere run
          obtain ⟨-, rfl⟩ : _ ∧ final = after := by simpa [run] using raised
          exact ⟨rfl, rfl, rfl, rfl⟩
  | none =>
      obtain ⟨made, answer, created⟩ :=
        createPeer_smooth succeeds control request.connection.endpoint
      have formed := (consistent.opened isOpen).addPeer held (fresh.handle made answer)
        fresh.nonempty
      obtain ⟨_, connected, _⟩ := succeeds.answers
      have stored : (control.addPeer (freshPeer made request.connection.endpoint
          env.uuid4)).peers.get? (freshPeer made request.connection.endpoint
          env.uuid4).endpoint = some (freshPeer made request.connection.endpoint env.uuid4) := by
        simp
      have run := run_connectNative env request formed stored
      by_cases unnamed : request.connection.id = ""
      · refine ⟨fun unchanged => ?_, fun named => absurd ⟨unnamed, bad.1, bad.2, held⟩ named⟩
        rw [if_pos (.inr unnamed)] at run
        have same := (unchanged _ _ (by simp [created, run]; exact ⟨rfl, rfl⟩)).peers
        have stillHeld := congrArg (·.get? request.connection.endpoint) same
        simp [freshPeer, held] at stillHeld
      · refine ⟨fun _ stranger => unnamed stranger.1, fun _ error after raised => ?_⟩
        simp [freshPeer, unnamed, connected] at run
        simp [created, freshPeer, run] at raised

end Rejecting

/-- When native calls succeed, a request that its handler rejects leaves the tables and the native
resources as they were, unless it is an offer without id from a remote endpoint that has no
entry: the handler makes the entry and its native peer before it looks at the id. -/
theorem rejected_requests {system : System Node}
    (reached : (exposedSystem topology).Reachable (System.FreshNamesOf topology) system)
    {node : Node} (isOpen : (system.engine node).control.closed = false) {env : Environment}
    (fresh : system.FreshFor node env) (succeeds : env.Succeeds) (request : Request) :
    (∀ error after,
      (serve (topology.endpoint node) env request).run (system.engine node).control =
        .error error after → (system.engine node).control.SameResources after) ↔
      ¬(system.engine node).control.UnnamedStranger (topology.endpoint node) request := by
  have consistent := (guarded_of_reachable reached).consistent node
  cases request with
  | connect request => exact connect_rejects succeeds isOpen consistent fresh.control
  | ready request =>
      refine ⟨fun _ => id, fun _ error after raised => ?_⟩
      exact ready_rejects succeeds isOpen consistent raised ▸ ⟨rfl, rfl, rfl, rfl⟩
  | changed request =>
      refine ⟨fun _ => id, fun _ error after raised => ?_⟩
      exact changed_rejects succeeds isOpen consistent raised ▸ ⟨rfl, rfl, rfl, rfl⟩
  | close request =>
      exact ⟨fun _ => id, fun _ error after raised =>
        absurd raised (close_accepts succeeds isOpen consistent)⟩

/-- The steps of a run of the nodes, as a run of exposed nodes. -/
def Exposure.run (actions : List (Action Node)) : List (Exposure Node) :=
  actions.map .act

theorem rejected_requests_pair : ∃ system : System Bool, ∃ error after,
    (serve "beta" (.naming 9 "b9")
        (.ready { connection := { endpoint := "alpha", id := "old" } })).run
      (system.engine true).control = .error error after ∧
    (system.engine true).control.SameResources after := by
  have computed : ∃ system, (exposedSystem Topology.pair).Reachable
      (System.FreshNamesOf Topology.pair) system ∧
      (system.engine true).control.closed = false ∧ system.FreshFor true (.naming 9 "b9") ∧
      ∃ peer ∈ (system.engine true).control.peers.get? "alpha",
        peer.remoteConnectionId ≠ "old" :=
    LabelledSystem.exists_reachable (.initial rfl) (Exposure.run connectAndRegister) (by decide)
  obtain ⟨system, reached, isOpen, fresh, peer, held, stale⟩ := computed
  have raised : ∃ error after, (serve "beta" (.naming 9 "b9")
      (.ready { connection := { endpoint := "alpha", id := "old" } })).run
      (system.engine true).control = .error error after := by
    rw [serve, run_ready, isOpen, run_findConnection, show _ = some peer from held]
    simp [stale]
  obtain ⟨error, after, raised⟩ := raised
  exact ⟨system, error, after, raised,
    (rejected_requests reached isOpen fresh (by decide) _).mpr id error after raised⟩

/-- An offer without id makes an entry although it is rejected. -/
theorem unnamed_stranger_leaves_entry : ∃ system : System Bool, ∃ error after,
    (exposedSystem Topology.pair).Reachable (System.FreshNamesOf Topology.pair) system ∧
    (serve "beta" (.naming 1 "b1") (.connect { connection := { endpoint := "carol" } })).run
      (system.engine true).control = .error error after ∧
    (Environment.naming 1 "b1").Succeeds ∧
    ¬(system.engine true).control.SameResources after := by
  refine ⟨System.start, .valueError "unexpected connection identity", _, .initial rfl, rfl,
    by decide, fun same => ?_⟩
  have held := congrArg (·.get? "carol") same.peers
  exact absurd held (by decide)

/-! ### Requests for a connection

A request acts on the entry whose remote id it carries.  An empty id matches an entry that is
not connected yet; `_find_connection` excludes it and `Close` does not. -/

/-- Nothing happened to the peer: its entry and its imports are as they were, and no native call
was made on its handle. -/
structure ControlPlane.Unaffected (before after : ControlPlane) (peer : Peer) : Prop where
  held : after.peers.get? peer.endpoint = some peer
  imports : ∀ metadata, (peer.handle, metadata) ∈ after.native.imports ↔
    (peer.handle, metadata) ∈ before.native.imports
  calls : after.native.calls.filter (fun call => call.peer = peer.handle) =
    before.native.calls.filter fun call => call.peer = peer.handle

/-- The request is a Close without id for an endpoint whose entry is not yet connected. -/
def ControlPlane.UnnamedClose (control : ControlPlane) : Request → Prop
  | .close request => request.id = "" ∧
      ∃ peer ∈ control.peers.get? request.endpoint, peer.state = .created
  | _ => False

/-- A lookup without id finds nothing. -/
theorem findConnection_unnamed (control : ControlPlane) (connection : Connection)
    (unnamed : connection.id = "") :
    ∃ error, (findConnection connection).run control = .error error control := by
  rw [run_findConnection]
  cases held : control.peers.get? connection.endpoint with
  | none => exact ⟨_, rfl⟩
  | some peer => exact ⟨_, by simp [unnamed]; rfl⟩

/-- A request for a connection leaves the peers alone that its grant spares. -/
theorem unaffected_of_spares {control : ControlPlane} {env : Environment}
    {advertised id : String} {request : Request} {peer : Peer} (consistent : control.Consistent)
    (about : Request.about? request = some id)
    (held : control.peers.get? peer.endpoint = some peer)
    (spared : (Request.grant advertised request).Spares peer) :
    control.Unaffected (serveResult advertised env request control).1 peer := by
  have performed := serve_performs advertised env request consistent
    fun offer isConnect => by simp [isConnect, Request.about?] at about
  have effects : Effects env (Request.grant advertised request) control
      (serveResult advertised env request control).1 := by
    rw [serveResult]
    cases run : (serve advertised env request).run control with
    | ok reply after => exact (performed.ok run).1
    | error error after => exact (performed.error run).1
  obtain ⟨stillHeld, sameImports⟩ := Effects.spares effects consistent held spared
  exact ⟨stillHeld, sameImports, Effects.spares_calls effects consistent held spared⟩

/-- A request without id affects an unconnected peer only when it is a Close for its endpoint. -/
theorem unnamed_affects {control : ControlPlane} {env : Environment} {advertised : String}
    {request : Request} {peer : Peer} (consistent : control.Consistent)
    (isOpen : control.closed = false) (unnamed : Request.about? request = some "")
    (held : control.peers.get? peer.endpoint = some peer) (unconnected : peer.state = .created)
    (affected : ¬control.Unaffected (serveResult advertised env request control).1 peer) :
    control.UnnamedClose request := by
  have unchanged : (serveResult advertised env request control).1 ≠ control := fun same =>
    affected (same.symm ▸ ⟨held, fun _ => Iff.rfl, rfl⟩)
  cases request with
  | connect => simp [Request.about?] at unnamed
  | ready request =>
      obtain ⟨error, refused⟩ := findConnection_unnamed control request.connection
        (by simpa [Request.about?] using unnamed)
      exact absurd (by simp [serveResult, serve, run_ready, isOpen, refused]) unchanged
  | changed request =>
      obtain ⟨error, refused⟩ := findConnection_unnamed control request.connection
        (by simpa [Request.about?] using unnamed)
      exact absurd (by simp [serveResult, serve, run_changed, isOpen, refused]) unchanged
  | close request =>
      by_cases here : peer.endpoint = request.endpoint
      · exact ⟨by simpa [Request.about?] using unnamed, peer, by simp [← here, held], unconnected⟩
      · exact absurd (unaffected_of_spares consistent unnamed held
          ⟨fun _ => id, fun _ => id, id, fun granted => here granted.1⟩) affected

/-- A Ready, Changed or Close acts only on a peer that is connected natively to the nonempty id
that the request carries, unless it is a Close without id for an endpoint whose entry is not yet
connected: the empty id equals the remote id that such an entry stores. -/
theorem requests_act_by_id {system : System Node}
    (reached : (exposedSystem topology).Reachable (System.FreshNamesOf topology) system)
    {node : Node} (isOpen : (system.engine node).control.closed = false) (env : Environment)
    {request : Request} {id : String} (about : Request.about? request = some id) :
    (∀ endpoint peer, (system.engine node).control.peers.get? endpoint = some peer →
      ¬(system.engine node).control.Unaffected (serveResult (topology.endpoint node) env request
        (system.engine node).control).1 peer →
      (system.engine node).control.native.connected.get? peer.handle ≠ none ∧ id ≠ "" ∧
        peer.remoteConnectionId = id) ↔
      ¬(system.engine node).control.UnnamedClose request := by
  have consistent := (guarded_of_reachable reached).consistent node
  generalize (system.engine node).control = control at isOpen consistent
  have formed := consistent.opened isOpen
  constructor
  case mp =>
    intro acts unnamedClose
    cases request with
    | close request =>
        obtain ⟨unnamed, peer, held, unconnected⟩ := unnamedClose
        have isHeld : control.peers.get? request.endpoint = some peer := held
        refine (acts _ peer isHeld fun unaffected => ?_).1 ((formed.joined isHeld).mp unconnected)
        -- The handler calls `destroy_peer` on the handle, whether or not that succeeds.
        have sameId : peer.remoteConnectionId = request.id := by
          rw [unnamed, (formed.named isHeld).mp unconnected]
        have called := unaffected.calls
        cases answer : env.destroyPeer <;>
          simp [serveResult, serve, run_close env request consistent, isOpen, isHeld, sameId,
            answer, NativeCall.peer] at called
    | _ => exact unnamedClose
  case mpr =>
    intro notUnnamed endpoint peer isHeld affected
    have held := (formed.keyed isHeld).symm ▸ isHeld
    have sameId : peer.remoteConnectionId = id := by
      by_contra other
      exact affected (unaffected_of_spares consistent about held
        (Request.grant_spares about other))
    have joined : peer.state ≠ .created := by
      intro unconnected
      obtain rfl : "" = id := by rw [← sameId, (formed.named isHeld).mp unconnected]
      exact notUnnamed (unnamed_affects consistent isOpen about held unconnected affected)
    exact ⟨fun absent => joined ((formed.joined isHeld).mpr absent),
      fun unnamed => joined ((formed.named isHeld).mpr (sameId.trans unnamed)), sameId⟩

theorem requests_act_by_id_pair : ∃ system : System Bool, ∃ peer,
    (system.engine true).control.peers.get? "alpha" = some peer ∧
    (serveResult "beta" .idle (.close { endpoint := "alpha", id := "a1" })
      (system.engine true).control).1.peers.get? "alpha" = none ∧
    (system.engine true).control.native.connected.get? peer.handle ≠ none ∧
    peer.remoteConnectionId = "a1" := by
  have computed : ∃ system, (exposedSystem Topology.pair).Reachable
      (System.FreshNamesOf Topology.pair) system ∧
      (system.engine true).control.closed = false ∧
      ∃ peer ∈ (system.engine true).control.peers.get? "alpha", peer.endpoint = "alpha" ∧
        peer.state ≠ .created ∧
        (serveResult "beta" .idle (.close { endpoint := "alpha", id := "a1" })
          (system.engine true).control).1.peers.get? "alpha" = none :=
    LabelledSystem.exists_reachable (.initial rfl) (Exposure.run connectAndRegister) (by decide)
  obtain ⟨system, reached, isOpen, peer, held, isAlpha, joined, dropped⟩ := computed
  have about : Request.about? (.close { endpoint := "alpha", id := "a1" }) = some "a1" := rfl
  have acted := (requests_act_by_id reached isOpen .idle about).mpr
    (fun unnamed => absurd unnamed.1 (by decide)) "alpha" peer held
    (fun unaffected => by
      have stillHeld := unaffected.held
      rw [isAlpha] at stillHeld
      exact absurd (dropped.symm.trans stillHeld) (by simp))
  exact ⟨system, peer, held, dropped, acted.1, acted.2.2⟩

/-- A Close without id destroys the peer of a `connect` that waits for its first reply. -/
theorem unnamed_close_destroys_unconnected : ∃ system : System Bool, ∃ peer,
    (exposedSystem Topology.pair).Reachable (System.FreshNamesOf Topology.pair) system ∧
    (system.engine false).control.peers.get? "beta" = some peer ∧ peer.state = .created ∧
    (serveResult "alpha" .idle (.close { endpoint := "beta", id := "" })
      (system.engine false).control).1.native.peers.get? peer.handle = none := by
  have computed : ∃ system, (exposedSystem Topology.pair).Reachable
      (System.FreshNamesOf Topology.pair) system ∧
      ∃ peer ∈ (system.engine false).control.peers.get? "beta", peer.state = .created ∧
        (serveResult "alpha" .idle (.close { endpoint := "beta", id := "" })
          (system.engine false).control).1.native.peers.get? peer.handle = none :=
    LabelledSystem.exists_reachable (.initial rfl)
      (Exposure.run (connectAndRegister.take 1)) (by decide)
  obtain ⟨system, reached, peer, held, unconnected, destroyed⟩ := computed
  exact ⟨system, peer, reached, held, unconnected, destroyed⟩

end Rdma101
