/-
Module: Rdma101.Control.Smooth
Purpose: What the critical sections and the handlers of an open control plane do when every native
  call succeeds: which entry of the peer table they rewrite, and what they return or raise.
Trusted boundary: none
Main exports: Peer.joinedTo, Peer.imported, ControlPlane.Rewrites, Offers, Served,
  connectOffer_smooth, connectUpdate_smooth, connectFinish_smooth, disconnectDestroy_smooth,
  serve_smooth
-/
import Rdma101.Control.Authenticity

namespace Rdma101

open Wire

/-- The peer after its QP was connected to the offer with the id, if it was not before. -/
def Peer.joinedTo (peer : Peer) (id : String) : Peer :=
  if peer.state = .created then { peer with remoteConnectionId := id, state := .connected }
  else peer

/-- The peer after a snapshot was imported for it, or was ignored as an old one. -/
def Peer.imported (peer : Peer) (version : Nat) : Peer :=
  { peer with remoteVersion := max peer.remoteVersion version }

/-- The peer is still unconnected or is connected to the id. -/
def Peer.Joins (peer : Peer) (id : String) : Prop :=
  peer.state = .created ∨ peer.remoteConnectionId = id

@[simp] theorem Peer.joinedTo_connectionId (peer : Peer) (id : String) :
    (peer.joinedTo id).connectionId = peer.connectionId := by
  unfold joinedTo
  split <;> rfl

/-- What the native calls of the environment answer when they succeed. -/
theorem Environment.Succeeds.answers {env : Environment} (succeeds : env.Succeeds) :
    (∃ fresh, env.createPeer = .ok fresh) ∧ env.connectPeer = .ok () ∧
      env.importFailure = none ∧ env.destroyPeer = .ok () ∧
      ∃ registration, env.registerLocalMemory = .ok registration := by
  obtain ⟨created, connected, imported, destroyed, registered⟩ := succeeds
  refine ⟨?_, ?_, imported, ?_, ?_⟩
  · cases answer : env.createPeer with
    | ok fresh => exact ⟨fresh, rfl⟩
    | error code => simp [answer, Except.isOk, Except.toBool] at created
  · cases answer : env.connectPeer with
    | ok => rfl
    | error code => simp [answer, Except.isOk, Except.toBool] at connected
  · cases answer : env.destroyPeer with
    | ok => rfl
    | error code => simp [answer, Except.isOk, Except.toBool] at destroyed
  · cases answer : env.registerLocalMemory with
    | ok registration => exact ⟨registration, rfl⟩
    | error code => simp [answer, Except.isOk, Except.toBool] at registered

namespace ControlPlane

/-- At most the entry for `endpoint` changed, and `made` are the peers made now. -/
structure Rewrites (before after : ControlPlane) (endpoint : String) (entry : Option Peer)
    (made : List Peer) : Prop where
  peers : ∀ key, after.peers.get? key = if key = endpoint then entry else before.peers.get? key
  memories : after.memoryMetadata = before.memoryMetadata
  created : after.created = before.created ++ made

theorem Rewrites.refl (control : ControlPlane) (endpoint : String) :
    Rewrites control control endpoint (control.peers.get? endpoint) [] where
  peers := by
    intro key
    by_cases here : key = endpoint <;> simp [here]
  memories := rfl
  created := by simp

theorem Rewrites.trans {first second third : ControlPlane} {endpoint : String}
    {entry later : Option Peer} {made more : List Peer}
    (left : Rewrites first second endpoint entry made)
    (right : Rewrites second third endpoint later more) :
    Rewrites first third endpoint later (made ++ more) where
  peers := by
    intro key
    rw [right.peers, left.peers]
    by_cases here : key = endpoint <;> simp [here]
  memories := right.memories.trans left.memories
  created := by rw [right.created, left.created, List.append_assoc]

variable {control : ControlPlane} {env : Environment} {advertised : String}

theorem addPeer_rewrites (control : ControlPlane) (peer : Peer) :
    Rewrites control (control.addPeer peer) peer.endpoint (some peer) [peer] :=
  ⟨fun key => by simp, rfl, rfl⟩

theorem dropPeer_rewrites (control : ControlPlane) (peer : Peer) :
    Rewrites control (control.dropPeer peer) peer.endpoint none [] :=
  ⟨fun key => by simp, rfl, by simp⟩

theorem storePeer_rewrites (control : ControlPlane) (peer : Peer) :
    Rewrites control (control.storePeer peer) peer.endpoint (some peer) [] :=
  ⟨fun key => by simp, rfl, by simp⟩

/-! ### The helper methods -/

section

variable (succeeds : env.Succeeds) (formed : control.WellFormed)

include succeeds

theorem createPeer_smooth (control : ControlPlane) (endpoint : String) :
    ∃ fresh, env.createPeer = .ok fresh ∧ (createPeer env endpoint).run control =
      .ok (freshPeer fresh endpoint env.uuid4)
        (control.addPeer (freshPeer fresh endpoint env.uuid4)) := by
  obtain ⟨⟨fresh, answer⟩, _⟩ := succeeds.answers
  exact ⟨fresh, answer, by simp [run_createPeer, answer]⟩

include formed

/-- `_connect_native` raises only at a peer that is connected elsewhere. -/
theorem connectNative_smooth {peer : Peer} {offer : Offer}
    (held : control.peers.get? peer.endpoint = some peer)
    (addressed : offer.connection.endpoint = peer.endpoint) (named : offer.connection.id ≠ "") :
    (∃ after, (connectNative env peer offer).run control = .ok () after ∧
        peer.Joins offer.connection.id ∧
        Rewrites control after peer.endpoint (some (peer.joinedTo offer.connection.id)) []) ∨
      ((∃ error, (connectNative env peer offer).run control = .error error control) ∧
        ¬peer.Joins offer.connection.id) := by
  obtain ⟨_, connected, _⟩ := succeeds.answers
  have computed := run_connectNative env offer formed held
  by_cases unconnected : peer.state = .created
  · refine .inl ⟨control.joinPeer peer offer, ?_, .inl unconnected, ?_⟩
    · simpa [addressed, named, unconnected, connected] using computed
    · exact ⟨fun key => by simp [Peer.joinedTo, unconnected], rfl, by simp⟩
  · by_cases same : peer.remoteConnectionId = offer.connection.id
    · refine .inl ⟨control, ?_, .inr same, ?_⟩
      · simpa [addressed, named, unconnected, same] using computed
      · have unchanged := Rewrites.refl control peer.endpoint
        simpa [Peer.joinedTo, unconnected, held] using unchanged
    · exact .inr ⟨⟨_, by simpa [addressed, named, unconnected, same] using computed⟩,
        fun joins => joins.elim unconnected same⟩

/-- `_import_snapshot` takes a snapshot whole. -/
theorem importSnapshot_smooth {peer : Peer} (snapshot : Snapshot)
    (held : control.peers.get? peer.endpoint = some peer) (joined : peer.state ≠ .created) :
    ∃ after, (importSnapshot env peer snapshot).run control = .ok () after ∧
      Rewrites control after peer.endpoint (some (peer.imported snapshot.version)) [] := by
  rcases run_importSnapshot env snapshot formed held joined with
    ⟨stale, computed⟩ | ⟨newer, computed⟩ | ⟨_, _, _, _, _, _, failure, _⟩
  · refine ⟨_, computed, ?_⟩
    have same : peer.imported snapshot.version = peer := by
      rw [Peer.imported, Int.max_eq_left (by omega)]
    rw [same, ← held]
    exact ⟨(Rewrites.refl control peer.endpoint).peers, rfl, by simp⟩
  · refine ⟨_, computed, ?_⟩
    rw [Peer.imported, Int.max_eq_right (by omega)]
    exact ⟨fun key => by simp, rfl, by simp⟩
  · simp [succeeds.importFailure] at failure

/-- A snapshot is imported and the peer is marked ready. -/
theorem importReady_smooth {peer : Peer} (snapshot : Snapshot)
    (held : control.peers.get? peer.endpoint = some peer) (joined : peer.state ≠ .created) :
    ∃ middle after, (importSnapshot env peer snapshot).run control = .ok () middle ∧
      (markReady peer).run middle = .ok () after ∧
      Rewrites control after peer.endpoint
        (some { peer.imported snapshot.version with state := .ready }) [] := by
  obtain ⟨middle, imports, rewrites⟩ := importSnapshot_smooth succeeds formed snapshot held joined
  have stored : middle.peers.get? peer.endpoint = some (peer.imported snapshot.version) := by
    simp [rewrites.peers]
  have marked : (markReady (peer.imported snapshot.version)).run middle = .ok ()
      (middle.storePeer { peer.imported snapshot.version with state := .ready }) :=
    run_markReady stored
  exact ⟨middle, _, imports, marked, rewrites.trans (storePeer_rewrites middle _)⟩

end

/-! ### The critical sections of the outgoing operations

With native failures out of the way, a section raises only when it meets a peer that has left
the table or is connected elsewhere. -/

/-- What the first critical section of `connect` returns, and the table it leaves. -/
inductive Offers (env : Environment) (before : ControlPlane) (endpoint : String) :
    Handle ⊕ Peer → ControlPlane → Prop where
  | ready {peer : Peer} (held : before.peers.get? endpoint = some peer)
      (isReady : peer.state = .ready) : Offers env before endpoint (.inl peer.handle) before
  | again {peer : Peer} (held : before.peers.get? endpoint = some peer)
      (unready : peer.state ≠ .ready) : Offers env before endpoint (.inr peer) before
  | new {fresh : PeerMetadata} {after : ControlPlane}
      (absent : before.peers.get? endpoint = none)
      (rewrites : Rewrites before after endpoint
        (some (freshPeer fresh endpoint env.uuid4)) [freshPeer fresh endpoint env.uuid4]) :
      Offers env before endpoint (.inr (freshPeer fresh endpoint env.uuid4)) after

/-- The first critical section of `connect` raises only at an endpoint that is not remote. -/
theorem connectOffer_smooth (succeeds : env.Succeeds) (isOpen : control.closed = false)
    {endpoint : String} (remote : ¬(endpoint = "" ∨ endpoint = advertised)) :
    ∃ result after, (connectOffer advertised env endpoint).run control = .ok result after ∧
      Offers env control endpoint result after := by
  rw [run_connectOffer, if_neg remote, isOpen, run_getOrCreatePeer]
  cases held : control.peers.get? endpoint with
  | some peer =>
      by_cases isReady : peer.state = .ready
      · exact ⟨_, _, by simp [isReady], .ready held isReady⟩
      · exact ⟨_, _, by simp [isReady], .again held isReady⟩
  | none =>
      obtain ⟨fresh, _, computed⟩ := createPeer_smooth succeeds control endpoint
      have unready : (freshPeer fresh endpoint env.uuid4).state ≠ .ready := by simp [freshPeer]
      exact ⟨_, _, by simp only [computed, unready, if_false]; rfl,
        .new held (addPeer_rewrites control _)⟩

/-- The second critical section of `connect` raises only when the peer left the table or was
connected elsewhere. -/
theorem connectUpdate_smooth (advertised : String) (succeeds : env.Succeeds)
    (consistent : control.Consistent)
    {peer : Peer} {remote : Offer} (addressed : remote.connection.endpoint = peer.endpoint)
    (named : remote.connection.id ≠ "") :
    (∃ current after, (connectUpdate advertised env peer remote).run control =
        .ok { connection := connection advertised peer, snapshot := after.snapshot } after ∧
      control.peers.get? peer.endpoint = some current ∧ current.handle = peer.handle ∧
      current.Joins remote.connection.id ∧
      Rewrites control after peer.endpoint (some (current.joinedTo remote.connection.id)) []) ∨
    (∃ error, (connectUpdate advertised env peer remote).run control = .error error control) ∧
      ∀ current, control.peers.get? peer.endpoint = some current →
        current.handle = peer.handle → ¬current.Joins remote.connection.id := by
  rw [run_connectUpdate, run_requirePeer]
  cases held : control.peers.get? peer.endpoint with
  | none => exact .inr ⟨⟨_, rfl⟩, by simp⟩
  | some current =>
      by_cases sameHandle : current.handle = peer.handle
      · have formed := consistent.formed held
        have sameEndpoint := formed.keyed held
        rw [← sameEndpoint] at held addressed
        rcases connectNative_smooth succeeds formed held addressed named with
          ⟨after, computed, joins, rewrites⟩ | ⟨⟨error, computed⟩, stuck⟩
        · exact .inl ⟨current, after, by simp [sameHandle, computed], by simp, sameHandle, joins,
            sameEndpoint ▸ rewrites⟩
        · exact .inr ⟨⟨error, by simp [sameHandle, computed]⟩, by simpa using fun _ => stuck⟩
      · exact .inr ⟨⟨_, by simp [sameHandle]; rfl⟩, by simp [sameHandle]⟩

/-- The last critical section of `connect` raises only when the peer left the table. -/
theorem connectFinish_smooth (succeeds : env.Succeeds) (consistent : control.Consistent)
    {peer : Peer} (snapshot : Snapshot)
    (joined : ∀ current, control.peers.get? peer.endpoint = some current →
      current.handle = peer.handle → current.state ≠ .created) :
    (∃ current after, (connectFinish env peer snapshot).run control = .ok current.handle after ∧
      control.peers.get? peer.endpoint = some current ∧ current.handle = peer.handle ∧
      Rewrites control after peer.endpoint
        (some { current.imported snapshot.version with state := .ready }) []) ∨
    (∃ error, (connectFinish env peer snapshot).run control = .error error control) ∧
      ∀ current, control.peers.get? peer.endpoint = some current →
        current.handle ≠ peer.handle := by
  rw [run_connectFinish, run_requirePeer]
  cases held : control.peers.get? peer.endpoint with
  | none => exact .inr ⟨⟨_, rfl⟩, by simp⟩
  | some current =>
      by_cases sameHandle : current.handle = peer.handle
      · have formed := consistent.formed held
        have isJoined := joined current held sameHandle
        have sameEndpoint := formed.keyed held
        rw [← sameEndpoint] at held
        obtain ⟨middle, after, imports, marks, rewrites⟩ :=
          importReady_smooth succeeds formed snapshot held isJoined
        exact .inl ⟨current, after, by simp [sameHandle, imports, marks], by simp, sameHandle,
          sameEndpoint ▸ rewrites⟩
      · exact .inr ⟨⟨_, by simp [sameHandle]; rfl⟩, by simpa using sameHandle⟩

/-- `disconnect` drops the peer with the handle, if there is one. -/
theorem disconnectDestroy_smooth (succeeds : env.Succeeds) (isOpen : control.closed = false)
    (consistent : control.Consistent) (handle : Handle) :
    (∃ error, (disconnectDestroy env handle).run control = .error error control) ∨
      ∃ peer, (disconnectDestroy env handle).run control = .ok peer (control.dropPeer peer) ∧
        control.peers.get? peer.endpoint = some peer ∧ peer.handle = handle := by
  obtain ⟨_, _, _, destroyed, _⟩ := succeeds.answers
  rw [run_disconnectDestroy env handle consistent, isOpen]
  cases found : control.peers.values.find? fun peer => peer.handle = handle with
  | none => exact .inl ⟨_, by simp; rfl⟩
  | some peer =>
      obtain ⟨isHandle, key, held⟩ := OrderedDict.get?_of_find? found
      have sameKey := (consistent.formed held).keyed held
      exact .inr ⟨peer, by simp [destroyed], sameKey ▸ held, by simpa using isHandle⟩

theorem registerLocalMemory_smooth (succeeds : env.Succeeds) (isOpen : control.closed = false) :
    ∃ registration after, (registerLocalMemory env).run control = .ok registration after ∧
      after.peers = control.peers ∧ after.memoryMetadata = control.memoryMetadata ∧
      after.created = control.created := by
  obtain ⟨_, _, _, _, registration, answer⟩ := succeeds.answers
  refine ⟨registration,
    { control with native := { control.native with
        memories := control.native.memories.set registration.memory registration.metadata } },
    ?_, rfl, rfl, rfl⟩
  simp [registerLocalMemory, run_checkOpen, isOpen, NativeEngine.registerLocalMemory, answer]

theorem publishAppend_smooth (isOpen : control.closed = false) (metadata : Bytes) :
    (publishAppend metadata).run control =
      .ok ({ control with memoryMetadata := control.memoryMetadata ++ [metadata] }.snapshot,
          control.peers.values.filter fun peer => peer.state = .ready)
        { control with memoryMetadata := control.memoryMetadata ++ [metadata] } := by
  simp [publishAppend, run_checkOpen, isOpen]

end ControlPlane

/-! ### The handlers

A handler rewrites the entry of the endpoint that its request names, or refuses and changes
nothing. -/

open ControlPlane ControlServicer

/-- What the handler of a request returns or raises, and the table it leaves. -/
inductive Served (advertised : String) (env : Environment) (before : ControlPlane) :
    Request → ControlPlane → Except PyError Reply → Prop where
  | connectNew {request : Offer} {fresh : PeerMetadata} {after : ControlPlane}
      (absent : before.peers.get? request.connection.endpoint = none)
      (rewrites : Rewrites before after request.connection.endpoint
        (some ((freshPeer fresh request.connection.endpoint env.uuid4).joinedTo
          request.connection.id))
        [freshPeer fresh request.connection.endpoint env.uuid4]) :
      Served advertised env before (.connect request) after
        (.ok (.offer (offer advertised (freshPeer fresh request.connection.endpoint env.uuid4))))
  | connectHeld {request : Offer} {peer : Peer} {after : ControlPlane}
      (held : before.peers.get? request.connection.endpoint = some peer)
      (joins : peer.Joins request.connection.id)
      (rewrites : Rewrites before after request.connection.endpoint
        (some (peer.joinedTo request.connection.id)) []) :
      Served advertised env before (.connect request) after (.ok (.offer (offer advertised peer)))
  | connectRefused {request : Offer} {peer : Peer} {error : PyError}
      (held : before.peers.get? request.connection.endpoint = some peer)
      (elsewhere : ¬peer.Joins request.connection.id) :
      Served advertised env before (.connect request) before (.error error)
  | ready {request : Update} {peer : Peer} {after : ControlPlane}
      (held : before.peers.get? request.connection.endpoint = some peer)
      (known : peer.remoteConnectionId = request.connection.id)
      (rewrites : Rewrites before after request.connection.endpoint
        (some { peer.imported request.snapshot.version with state := .ready }) []) :
      Served advertised env before (.ready request) after (.ok (.snapshot after.snapshot))
  | readyRefused {request : Update} {error : PyError}
      (unknown : ∀ peer, before.peers.get? request.connection.endpoint = some peer →
        peer.remoteConnectionId ≠ request.connection.id) :
      Served advertised env before (.ready request) before (.error error)
  | changed {request : Update} {peer : Peer} {after : ControlPlane}
      (held : before.peers.get? request.connection.endpoint = some peer)
      (known : peer.remoteConnectionId = request.connection.id)
      (rewrites : Rewrites before after request.connection.endpoint
        (some (peer.imported request.snapshot.version)) []) :
      Served advertised env before (.changed request) after (.ok .empty)
  | changedRefused {request : Update} {error : PyError}
      (unknown : ∀ peer, before.peers.get? request.connection.endpoint = some peer →
        peer.remoteConnectionId ≠ request.connection.id) :
      Served advertised env before (.changed request) before (.error error)
  | closed {request : Connection} {peer : Peer} {after : ControlPlane}
      (held : before.peers.get? request.endpoint = some peer)
      (known : peer.remoteConnectionId = request.id)
      (rewrites : Rewrites before after request.endpoint none []) :
      Served advertised env before (.close request) after (.ok .empty)
  | closeIgnored {request : Connection}
      (unknown : ∀ peer, before.peers.get? request.endpoint = some peer →
        peer.remoteConnectionId ≠ request.id) :
      Served advertised env before (.close request) before (.ok .empty)

/-- The connection that a request is about. -/
def Wire.Request.connection : Request → Connection
  | .connect request => request.connection
  | .ready request => request.connection
  | .changed request => request.connection
  | .close request => request

/-- The control plane and the result that the handler of a request ends with. -/
def serveResult (advertised : String) (env : Environment) (request : Request)
    (control : ControlPlane) : ControlPlane × Except PyError Reply :=
  match (serve advertised env request).run control with
  | .ok reply after => (after, .ok reply)
  | .error error after => (after, .error error)

theorem findConnection_smooth {control : ControlPlane} (consistent : control.Consistent)
    (connection : Connection) (named : connection.id ≠ "") :
    (∃ peer, (findConnection connection).run control = .ok peer control ∧
      control.peers.get? connection.endpoint = some peer ∧ peer.endpoint = connection.endpoint ∧
      peer.remoteConnectionId = connection.id ∧ peer.state ≠ .created) ∨
    (∃ error, (findConnection connection).run control = .error error control) ∧
      ∀ peer, control.peers.get? connection.endpoint = some peer →
        peer.remoteConnectionId ≠ connection.id := by
  rw [run_findConnection]
  cases held : control.peers.get? connection.endpoint with
  | none => exact .inr ⟨⟨_, rfl⟩, by simp⟩
  | some peer =>
      by_cases known : peer.remoteConnectionId = connection.id
      · have formed := consistent.formed held
        refine .inl ⟨peer, by simp [named, known], rfl, formed.keyed held, known, ?_⟩
        exact fun unconnected => named (known ▸ (formed.named held).mp unconnected)
      · exact .inr ⟨⟨_, by simp [named, known]; rfl⟩, by simpa using known⟩

section

variable {control : ControlPlane} {env : Environment} {advertised : String}
  (succeeds : env.Succeeds) (isOpen : control.closed = false) (consistent : control.Consistent)

include succeeds isOpen consistent

/-- `Connect` refuses only an offer for a peer that is connected elsewhere. -/
theorem connect_smooth {request : Offer} (fresh : env.FreshFor control)
    (named : request.connection.id ≠ "")
    (remote : ¬(request.connection.endpoint = "" ∨ request.connection.endpoint = advertised)) :
    ∃ after result, serveResult advertised env (.connect request) control = (after, result) ∧
      Served advertised env control (.connect request) after result := by
  rw [serveResult, serve, run_connect, if_neg remote, isOpen, run_getOrCreatePeer]
  cases held : control.peers.get? request.connection.endpoint with
  | some peer =>
      have sameEndpoint := (consistent.formed held).keyed held
      have heldThere := sameEndpoint.symm ▸ held
      rcases connectNative_smooth succeeds (consistent.formed held) heldThere sameEndpoint.symm
        named with ⟨after, computed, joins, rewrites⟩ | ⟨⟨error, computed⟩, stuck⟩
      · exact ⟨after, _, by simp [computed], .connectHeld held joins (sameEndpoint ▸ rewrites)⟩
      · exact ⟨control, .error error, by simp [computed], .connectRefused held stuck⟩
  | none =>
      obtain ⟨made, answer, created⟩ :=
        createPeer_smooth succeeds control request.connection.endpoint
      have formed := (consistent.opened isOpen).addPeer held (fresh.handle made answer)
        fresh.nonempty
      have added := addPeer_rewrites control
        (freshPeer made request.connection.endpoint env.uuid4)
      have stored := added.peers (freshPeer made request.connection.endpoint env.uuid4).endpoint
      rw [if_pos rfl] at stored
      rcases connectNative_smooth succeeds formed stored rfl named with
        ⟨after, computed, _, rewrites⟩ | ⟨_, stuck⟩
      · exact ⟨after, _, by simp [created, computed], .connectNew held (added.trans rewrites)⟩
      · exact absurd (.inl rfl) stuck

/-- The handlers of an open control plane on a request from another node. -/
theorem serve_smooth (fresh : env.FreshFor control) {request : Request}
    (named : request.connection.id ≠ "")
    (remote : ¬(request.connection.endpoint = "" ∨ request.connection.endpoint = advertised)) :
    ∃ after result, serveResult advertised env request control = (after, result) ∧
      Served advertised env control request after result := by
  cases request with
  | connect request => exact connect_smooth succeeds isOpen consistent fresh named remote
  | ready request =>
      rw [serveResult, serve, run_ready, isOpen]
      rcases findConnection_smooth consistent request.connection named with
        ⟨peer, found, held, sameEndpoint, known, joined⟩ | ⟨⟨error, refused⟩, unknown⟩
      · obtain ⟨middle, after, imports, marks, rewrites⟩ := importReady_smooth succeeds
          (consistent.formed held) request.snapshot (sameEndpoint.symm ▸ held) joined
        exact ⟨after, _, by simp [found, imports, marks],
          .ready held known (sameEndpoint ▸ rewrites)⟩
      · exact ⟨control, .error error, by simp [refused], .readyRefused unknown⟩
  | changed request =>
      rw [serveResult, serve, run_changed, isOpen]
      rcases findConnection_smooth consistent request.connection named with
        ⟨peer, found, held, sameEndpoint, known, joined⟩ | ⟨⟨error, refused⟩, unknown⟩
      · obtain ⟨after, imports, rewrites⟩ := importSnapshot_smooth succeeds
          (consistent.formed held) request.snapshot (sameEndpoint.symm ▸ held) joined
        exact ⟨after, _, by simp [found, imports], .changed held known (sameEndpoint ▸ rewrites)⟩
      · exact ⟨control, .error error, by simp [refused], .changedRefused unknown⟩
  | close request =>
      obtain ⟨_, _, _, destroyed, _⟩ := succeeds.answers
      rw [serveResult, serve, run_close env request consistent, isOpen]
      cases held : control.peers.get? request.endpoint with
      | none => exact ⟨control, _, by simp, .closeIgnored (by simp [held])⟩
      | some peer =>
          have sameEndpoint := (consistent.formed held).keyed held
          by_cases known : peer.remoteConnectionId = request.id
          · exact ⟨_, _, by simp [known, destroyed],
              .closed held known (sameEndpoint ▸ dropPeer_rewrites control peer)⟩
          · exact ⟨control, _, by simp [known], .closeIgnored (by simpa [held] using known)⟩

end

end Rdma101
