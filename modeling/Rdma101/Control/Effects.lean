/-
Module: Rdma101.Control.Effects
Purpose: What each critical section of the control plane can do: it changes the control plane
  by effects, each of which says which guard it passed and what granted it, and it raises no
  assertion of the native engine.
Trusted boundary: none
Main exports: Grant, Effect, Effects.consistent, connectOffer_performs,
  connectUpdate_performs, connectFinish_performs, publishAppend_performs,
  disconnectDestroy_performs, registerLocalMemory_performs, Request.grant, serve_performs
-/
import Rdma101.Control.Sections

namespace Rdma101

open Wire ControlPlane

/-! ### Effects

What a section can do is said once, as a list of effects with the guards that were passed on the
way to them; invariants are derived from effects and never from the text of a section.  A grant
says what a section may do, and differs for each of them. -/

/-- What a critical section is entitled to: which entries it may make, which offers it may
connect a peer to, which snapshots it may import for a peer, and so on. -/
structure Grant where
  creates : String → Prop := fun _ => False
  offers : Peer → Offer → Prop := fun _ _ => False
  imports : Peer → Snapshot → Prop := fun _ _ => False
  readies : Peer → Prop := fun _ => False
  destroys : Peer → Prop := fun _ => False
  appends : Bytes → Prop := fun _ => False
  registers : Prop := False

/-- One change of a control plane, with the guards that were passed on the way to it. -/
inductive Effect (env : Environment) (grant : Grant) (control : ControlPlane) :
    ControlPlane → Prop where
  | addPeer {fresh : PeerMetadata} {endpoint : String} (isOpen : control.closed = false)
      (answer : env.createPeer = .ok fresh) (absent : control.peers.get? endpoint = none)
      (unused : ∀ peer ∈ control.created, peer.handle ≠ fresh.peer)
      (nonempty : env.uuid4 ≠ "") (granted : grant.creates endpoint) :
      Effect env grant control (control.addPeer (freshPeer fresh endpoint env.uuid4))
  | joinPeer {peer : Peer} {offer : Offer}
      (held : control.peers.get? peer.endpoint = some peer)
      (unconnected : peer.state = .created) (addressed : offer.connection.endpoint = peer.endpoint)
      (named : offer.connection.id ≠ "") (granted : grant.offers peer offer) :
      Effect env grant control (control.joinPeer peer offer)
  | joinFailed {peer : Peer} {offer : Offer} {code : ErrorCode}
      (held : control.peers.get? peer.endpoint = some peer)
      (unconnected : peer.state = .created) (answer : env.connectPeer = .error code)
      (granted : grant.offers peer offer) :
      Effect env grant control
        (control.recordFailure (.connectPeer peer.handle offer.metadata false))
  | deliver {peer : Peer} {snapshot : Snapshot}
      (held : control.peers.get? peer.endpoint = some peer) (joined : peer.state ≠ .created)
      (stale : ¬(snapshot.version : Int) > peer.remoteVersion)
      (granted : grant.imports peer snapshot) :
      Effect env grant control (control.deliver peer snapshot.version)
  | importAll {peer : Peer} {snapshot : Snapshot}
      (held : control.peers.get? peer.endpoint = some peer) (joined : peer.state ≠ .created)
      (newer : (snapshot.version : Int) > peer.remoteVersion)
      (granted : grant.imports peer snapshot) :
      Effect env grant control
        (((control.deliver peer snapshot.version).importMemory peer
          snapshot.memories).storePeer { peer with remoteVersion := snapshot.version })
  | importPart {peer : Peer} {snapshot : Snapshot} {done rest : List Bytes} {metadata : Bytes}
      (held : control.peers.get? peer.endpoint = some peer) (joined : peer.state ≠ .created)
      (newer : (snapshot.version : Int) > peer.remoteVersion)
      (split : snapshot.memories = done ++ metadata :: rest)
      (failed : env.importFailure ≠ none) (granted : grant.imports peer snapshot) :
      Effect env grant control
        (((control.deliver peer snapshot.version).importMemory peer done).recordFailure
          (.importRemoteMemory peer.handle metadata false))
  | markReady {peer : Peer} (held : control.peers.get? peer.endpoint = some peer)
      (joined : peer.state ≠ .created) (granted : grant.readies peer) :
      Effect env grant control (control.storePeer { peer with state := .ready })
  | dropPeer {peer : Peer} (held : control.peers.get? peer.endpoint = some peer)
      (granted : grant.destroys peer) : Effect env grant control (control.dropPeer peer)
  | dropFailed {peer : Peer} {code : ErrorCode}
      (held : control.peers.get? peer.endpoint = some peer)
      (answer : env.destroyPeer = .error code) (granted : grant.destroys peer) :
      Effect env grant control (control.recordFailure (.destroyPeer peer.handle false))
  | append {metadata : Bytes} (isOpen : control.closed = false)
      (granted : grant.appends metadata) :
      Effect env grant control
        { control with memoryMetadata := control.memoryMetadata ++ [metadata] }
  | register (registration : MemoryMetadata) (isOpen : control.closed = false)
      (granted : grant.registers) :
      Effect env grant control
        { control with native := { control.native with
            memories := control.native.memories.set registration.memory
              registration.metadata } }

/-- A sequence of effects. -/
abbrev Effects (env : Environment) (grant : Grant) : ControlPlane → ControlPlane → Prop :=
  Relation.ReflTransGen (Effect env grant)

/-- The drawn id is not empty, and neither it nor the handle of a peer made now belongs to a
peer this control plane made before. -/
structure Environment.FreshFor (env : Environment) (control : ControlPlane) : Prop where
  nonempty : env.uuid4 ≠ ""
  handle : ∀ fresh, env.createPeer = .ok fresh → ∀ peer ∈ control.created,
    peer.handle ≠ fresh.peer

/-- Every effect keeps the invariant of the control plane. -/
theorem Effect.consistent {env : Environment} {grant : Grant} {control after : ControlPlane}
    (effect : Effect env grant control after) (consistent : control.Consistent) :
    after.Consistent := by
  have keepsOpen : control.closed = false → after.WellFormed → after.closed = control.closed →
      after.Consistent := by
    intro isOpen formed same
    exact ⟨fun _ => formed, fun isClosed => by simp [same, isOpen] at isClosed⟩
  have openOf : ∀ {endpoint peer}, control.peers.get? endpoint = some peer →
      control.closed = false := by
    intro endpoint peer held
    cases isClosed : control.closed with
    | false => rfl
    | true => simp [consistent.shut isClosed] at held
  cases effect with
  | addPeer isOpen answer absent unused nonempty granted =>
      exact keepsOpen isOpen ((consistent.opened isOpen).addPeer absent unused nonempty) rfl
  | joinPeer held unconnected addressed named granted =>
      exact keepsOpen (openOf held) ((consistent.formed held).joinPeer held unconnected named) rfl
  | @joinFailed peer offer code held unconnected answer granted =>
      have formed := consistent.formed held
      have live := (formed.traceLive peer.handle).mp (by simp [formed.backed held])
      obtain ⟨origin, member, sameHandle, _⟩ := formed.fromCreated held
      refine keepsOpen (openOf held) (formed.recordFailure _ ⟨live, fun joined => ?_⟩
        ⟨origin, member, sameHandle⟩ (by simp)) rfl
      exact (formed.traceConnected live).mpr joined ((formed.joined held).mp unconnected)
  | deliver held joined stale granted =>
      exact keepsOpen (openOf held) ((consistent.formed held).congr rfl rfl rfl) rfl
  | @importAll peer snapshot held joined newer granted =>
      have delivered : (control.deliver peer snapshot.version).WellFormed :=
        (consistent.formed held).congr rfl rfl rfl
      have imported := delivered.importMemory snapshot.memories held joined
      refine keepsOpen (openOf held) (imported.storePeer held
        ⟨rfl, rfl, rfl, rfl⟩ rfl Iff.rfl fun unconnected => absurd unconnected joined) rfl
  | @importPart peer snapshot done rest metadata held joined newer split failed granted =>
      have delivered : (control.deliver peer snapshot.version).WellFormed :=
        (consistent.formed held).congr rfl rfl rfl
      have imported := delivered.importMemory done held joined
      have stillHeld : ((control.deliver peer snapshot.version).importMemory peer
          done).peers.get? peer.endpoint = some peer := held
      have live := (imported.traceLive peer.handle).mp
        (by rw [imported.backed stillHeld]; simp)
      obtain ⟨origin, member, sameHandle, _⟩ := imported.fromCreated stillHeld
      refine keepsOpen (openOf held) (imported.recordFailure _ ⟨live,
        (imported.traceConnected live).mp fun absent => joined ?_⟩
        ⟨origin, member, sameHandle⟩ (by simp)) rfl
      exact (imported.joined stillHeld).mpr absent
  | markReady held joined granted =>
      exact keepsOpen (openOf held) ((consistent.formed held).storePeer held
        ⟨rfl, rfl, rfl, rfl⟩ rfl (by simp [joined]) (by simp)) rfl
  | dropPeer held granted =>
      exact keepsOpen (openOf held) ((consistent.formed held).dropPeer held) rfl
  | @dropFailed peer code held answer granted =>
      have formed := consistent.formed held
      have live := (formed.traceLive peer.handle).mp (by simp [formed.backed held])
      obtain ⟨origin, member, sameHandle, _⟩ := formed.fromCreated held
      exact keepsOpen (openOf held) (formed.recordFailure _ live ⟨origin, member, sameHandle⟩
        (by simp)) rfl
  | append isOpen granted =>
      exact keepsOpen isOpen ((consistent.opened isOpen).congr rfl rfl rfl) rfl
  | register registration isOpen granted =>
      have formed := consistent.opened isOpen
      exact keepsOpen isOpen ⟨formed.keyed, formed.fromCreated, formed.createdDistinct,
        formed.idNonempty, formed.backed, formed.tabled, formed.joined, formed.named,
        formed.unversioned, formed.connectedLive, formed.importsConnected, formed.traceLive,
        formed.traceConnected, formed.traceCreated, formed.disciplined⟩ rfl

theorem Effects.consistent {env : Environment} {grant : Grant} {control after : ControlPlane}
    (effects : Effects env grant control after) (consistent : control.Consistent) :
    after.Consistent := by
  induction effects with
  | refl => exact consistent
  | tail _ effect inductionHypothesis => exact effect.consistent inductionHypothesis

/-- An exception that is not an assertion of the native engine. -/
def PyError.Legitimate (error : PyError) : Prop := error ≠ .assertionError ∧ error ≠ .keyError

/-- A section that is entitled to `grant` changes the control plane by effects and raises no
assertion of the native engine. -/
abbrev Section {α : Type} (env : Environment) (grant : Grant) (program : Control α)
    (control : ControlPlane) (returns : α → ControlPlane → Prop) : Prop :=
  Performs (Effect env grant) PyError.Legitimate program control returns

/-! ### The helper methods -/

section Helpers

variable {control : ControlPlane} {env : Environment} {grant : Grant}

theorem checkOpen_performs :
    Section env grant checkOpen control fun _ after => after = control ∧
      control.closed = false := by
  cases isClosed : control.closed with
  | true =>
      exact .of_error (by rw [run_checkOpen, isClosed]; rfl) .refl (by simp [PyError.Legitimate])
  | false => exact .of_ok (by rw [run_checkOpen, isClosed]; rfl) .refl ⟨rfl, rfl⟩

theorem getOrCreatePeer_performs {endpoint : String} (isOpen : control.closed = false)
    (consistent : control.Consistent) (fresh : env.FreshFor control)
    (granted : grant.creates endpoint) :
    Section env grant (getOrCreatePeer env endpoint) control fun peer after =>
      peer.endpoint = endpoint ∧ after.peers.get? endpoint = some peer := by
  have run := run_getOrCreatePeer env control endpoint
  cases held : control.peers.get? endpoint with
  | some peer =>
      rw [held] at run
      exact .of_ok run .refl ⟨(consistent.formed held).keyed held, held⟩
  | none =>
      rw [held] at run
      simp only [run_createPeer] at run
      cases answer : env.createPeer with
      | error code =>
          rw [answer] at run
          exact .of_error run .refl (by simp [PyError.Legitimate])
      | ok peer =>
          rw [answer] at run
          refine .of_ok run (.single (.addPeer isOpen answer held (fresh.handle _ answer)
            fresh.nonempty granted)) ⟨rfl, ?_⟩
          simp [addPeer, freshPeer]

theorem requirePeer_performs {peer : Peer} (consistent : control.Consistent) :
    Section env grant (requirePeer peer) control fun current after => after = control ∧
      control.peers.get? current.endpoint = some current ∧ current.endpoint = peer.endpoint ∧
      current.handle = peer.handle := by
  have run := run_requirePeer control peer
  cases held : control.peers.get? peer.endpoint with
  | none =>
      rw [held] at run
      exact .of_error run .refl (by simp [PyError.Legitimate])
  | some current =>
      rw [held] at run
      have sameEndpoint := (consistent.formed held).keyed held
      by_cases same : current.handle = peer.handle
      · simp only [same, ne_eq, not_true_eq_false, if_false] at run
        exact .of_ok run .refl ⟨rfl, by rw [sameEndpoint, held], sameEndpoint, same⟩
      · simp only [same, ne_eq, not_false_eq_true, if_true] at run
        exact .of_error run .refl (by simp [PyError.Legitimate])

theorem findConnection_performs {connection : Connection} (consistent : control.Consistent) :
    Section env grant (findConnection connection) control fun peer after => after = control ∧
      control.peers.get? peer.endpoint = some peer ∧ peer.endpoint = connection.endpoint ∧
      peer.remoteConnectionId = connection.id ∧ connection.id ≠ "" := by
  have run := run_findConnection control connection
  cases held : control.peers.get? connection.endpoint with
  | none =>
      rw [held] at run
      exact .of_error run .refl (by simp [PyError.Legitimate])
  | some peer =>
      rw [held] at run
      have sameEndpoint := (consistent.formed held).keyed held
      by_cases bad : connection.id = "" ∨ peer.remoteConnectionId ≠ connection.id
      · simp only [bad, if_true] at run
        exact .of_error run .refl (by simp [PyError.Legitimate])
      · simp only [bad, if_false] at run
        simp only [not_or, not_not] at bad
        exact .of_ok run .refl ⟨rfl, by rw [sameEndpoint, held], sameEndpoint, bad.2, bad.1⟩

/-- `_connect_native` leaves the peer object connected to the offer. -/
theorem connectNative_performs {peer : Peer} {offer : Offer} (consistent : control.Consistent)
    (held : control.peers.get? peer.endpoint = some peer) (granted : grant.offers peer offer) :
    Section env grant (connectNative env peer offer) control fun _ after =>
      ∃ current, after.peers.get? peer.endpoint = some current ∧ current.SameObject peer ∧
        current.state ≠ .created := by
  have run := run_connectNative env offer (consistent.formed held) held
  by_cases bad : offer.connection.endpoint ≠ peer.endpoint ∨ offer.connection.id = ""
  · rw [if_pos bad] at run
    exact .of_error run .refl (by simp [PyError.Legitimate])
  rw [if_neg bad] at run
  rw [not_or, not_not] at bad
  by_cases unconnected : peer.state = .created
  · rw [if_pos unconnected] at run
    cases answer : env.connectPeer with
    | ok =>
        rw [answer] at run
        exact .of_ok run (.single (.joinPeer held unconnected bad.1 bad.2 granted))
          ⟨_, OrderedDict.get?_set_self _ _ _, ⟨rfl, rfl, rfl, rfl⟩, by simp⟩
    | error code =>
        rw [answer] at run
        exact .of_error run (.single (.joinFailed held unconnected answer granted))
          (by simp [PyError.Legitimate])
  · rw [if_neg unconnected] at run
    by_cases other : peer.remoteConnectionId = offer.connection.id
    · rw [if_neg (not_not.mpr other)] at run
      exact .of_ok run .refl ⟨peer, held, .refl peer, unconnected⟩
    · rw [if_pos other] at run
      exact .of_error run .refl (by simp [PyError.Legitimate])

/-- `_import_snapshot` leaves the peer object in place and connected. -/
theorem importSnapshot_performs {peer : Peer} {snapshot : Snapshot}
    (consistent : control.Consistent) (held : control.peers.get? peer.endpoint = some peer)
    (joined : peer.state ≠ .created) (granted : grant.imports peer snapshot) :
    Section env grant (importSnapshot env peer snapshot) control fun _ after =>
      ∃ current, after.peers.get? peer.endpoint = some current ∧ current.SameObject peer ∧
        current.state ≠ .created ∧ current.remoteConnectionId = peer.remoteConnectionId := by
  rcases run_importSnapshot env snapshot (consistent.formed held) held joined with
    ⟨stale, run⟩ | ⟨newer, run⟩ | ⟨newer, done, metadata, rest, code, split, failure, run⟩
  · exact .of_ok run (.single (.deliver held joined stale granted))
      ⟨peer, held, .refl peer, joined, rfl⟩
  · exact .of_ok run (.single (.importAll held joined newer granted))
      ⟨_, OrderedDict.get?_set_self _ _ _, ⟨rfl, rfl, rfl, rfl⟩, joined, rfl⟩
  · exact .of_error run (.single (.importPart held joined newer split (by simp [failure])
      granted)) (by simp [PyError.Legitimate])

theorem markReady_performs {peer current : Peer} (sameEndpoint : current.endpoint = peer.endpoint)
    (held : control.peers.get? current.endpoint = some current) (joined : current.state ≠ .created)
    (granted : grant.readies current) :
    Section env grant (markReady peer) control fun _ after =>
      after.peers.get? current.endpoint = some { current with state := .ready } := by
  have sameProgram : markReady peer = markReady current := by
    rw [markReady, markReady, sameEndpoint]
  have run := sameProgram ▸ run_markReady held
  exact .of_ok run (.single (.markReady held joined granted)) (by simp [storePeer])

end Helpers

/-! ### The critical sections and the handlers

The helper methods are put together, with the exceptions of every path. -/

section Sections

variable (advertised : String) (env : Environment) {control : ControlPlane}

/-- `connect` up to its first RPC may create the entry it dials, and returns what the table
then holds. -/
theorem connectOffer_performs (endpoint : String) (consistent : control.Consistent)
    (fresh : env.FreshFor control) :
    Section env { creates := fun key => key = endpoint ∧ endpoint ≠ "" ∧ endpoint ≠ advertised }
      (connectOffer advertised env endpoint) control fun result after =>
        ∃ peer, after.peers.get? endpoint = some peer ∧ peer.endpoint = endpoint ∧
          ((result = .inl peer.handle ∧ peer.state = .ready) ∨ result = .inr peer) := by
  rw [connectOffer]
  by_cases bad : endpoint = "" ∨ endpoint = advertised
  · rw [if_pos bad]
    exact .throw (by simp [PyError.Legitimate])
  rw [if_neg bad]
  refine .bind checkOpen_performs ?_
  rintro _ after _ ⟨rfl, isOpen⟩
  refine .bind (getOrCreatePeer_performs isOpen consistent fresh ⟨rfl, not_or.mp bad⟩) ?_
  rintro peer after - ⟨sameEndpoint, held⟩
  by_cases isReady : peer.state = .ready
  · simp only [isReady, if_true]
    exact .pure ⟨peer, held, sameEndpoint, .inl ⟨rfl, isReady⟩⟩
  · simp only [isReady, if_false]
    exact .pure ⟨peer, held, sameEndpoint, .inr rfl⟩

/-- The critical section of `connect` between its two RPCs connects the peer it started with to
the offer it was given, and announces what is registered then. -/
theorem connectUpdate_performs (peer : Peer) (remote : Offer)
    (consistent : control.Consistent) :
    Section env { offers := fun held offer => held.handle = peer.handle ∧
        held.endpoint = peer.endpoint ∧ offer = remote }
      (connectUpdate advertised env peer remote) control fun update after =>
        update = { connection := connection advertised peer, snapshot := after.snapshot } ∧
        ∃ current, after.peers.get? peer.endpoint = some current ∧
          current.handle = peer.handle ∧ current.state ≠ .created := by
  rw [connectUpdate]
  refine .bind (requirePeer_performs consistent) ?_
  rintro current after _ ⟨rfl, held, sameEndpoint, sameHandle⟩
  refine .bind (connectNative_performs consistent held ⟨sameHandle, sameEndpoint, rfl⟩) ?_
  rintro _ after _ ⟨final, stored, sameObject, joined⟩
  rw [sameEndpoint] at stored
  exact .of_ok (by simp) .refl
    ⟨rfl, final, stored, sameObject.handle.trans sameHandle, joined⟩

/-- The last critical section of `connect` imports the snapshot it was given and marks the peer
it started with ready. -/
theorem connectFinish_performs (peer : Peer) (snapshot : Snapshot)
    (consistent : control.Consistent)
    (joined : ∀ current, control.peers.get? peer.endpoint = some current →
      current.handle = peer.handle → current.state ≠ .created) :
    Section env { imports := fun held given => held.handle = peer.handle ∧
                    held.endpoint = peer.endpoint ∧ given = snapshot
                  readies := fun held => held.handle = peer.handle ∧
                    held.endpoint = peer.endpoint }
      (connectFinish env peer snapshot) control fun handle after =>
        handle = peer.handle ∧ ∃ current, after.peers.get? peer.endpoint = some current ∧
          current.handle = handle ∧ current.state = .ready := by
  rw [connectFinish]
  refine .bind (requirePeer_performs consistent) ?_
  rintro current after _ ⟨rfl, held, sameEndpoint, sameHandle⟩
  have isJoined := joined current (by rw [← sameEndpoint]; exact held) sameHandle
  refine .bind (importSnapshot_performs consistent held isJoined
    ⟨sameHandle, sameEndpoint, rfl⟩) ?_
  rintro _ after _ ⟨imported, stored, sameObject, stillJoined, _⟩
  rw [← sameObject.endpoint] at stored
  refine .bind (markReady_performs sameObject.endpoint stored stillJoined
    ⟨sameObject.handle.trans sameHandle, sameObject.endpoint.trans sameEndpoint⟩) ?_
  intro _ final _ marked
  rw [sameObject.endpoint, sameEndpoint] at marked
  exact .pure ⟨sameHandle, _, marked, sameObject.handle, rfl⟩

/-- The first critical section of `publish` appends, and selects the ready peers. -/
theorem publishAppend_performs (metadata : Bytes) (consistent : control.Consistent) :
    Section env { appends := fun given => given = metadata }
      (publishAppend metadata) control fun result after =>
        result.1 = after.snapshot ∧ (result.2.map Peer.endpoint).Nodup ∧ ∀ peer ∈ result.2,
          after.peers.get? peer.endpoint = some peer ∧ peer.state = .ready := by
  rw [publishAppend]
  refine .bind checkOpen_performs ?_
  rintro _ after _ ⟨rfl, isOpen⟩
  have distinct := OrderedDict.nodup_map_values fun key peer held =>
    (consistent.opened isOpen).keyed held
  refine .of_ok rfl (.single (.append isOpen rfl))
    ⟨rfl, distinct.sublist (List.filter_sublist.map _), ?_⟩
  intro peer member
  obtain ⟨isValue, isReady⟩ := List.mem_filter.mp member
  obtain ⟨key, held⟩ := OrderedDict.mem_values.mp isValue
  have sameEndpoint := (consistent.formed held).keyed held
  exact ⟨by rw [sameEndpoint]; exact held, of_decide_eq_true isReady⟩

/-- The first critical section of `disconnect` destroys the peer with the given handle. -/
theorem disconnectDestroy_performs (handle : Handle) (consistent : control.Consistent) :
    Section env { destroys := fun held => held.handle = handle }
      (disconnectDestroy env handle) control fun peer after =>
        peer.handle = handle ∧ control.peers.get? peer.endpoint = some peer ∧
          after = control.dropPeer peer := by
  have run := run_disconnectDestroy env handle consistent
  cases isClosed : control.closed with
  | true =>
      rw [isClosed] at run
      exact .of_error run .refl (by simp [PyError.Legitimate])
  | false =>
      rw [isClosed] at run
      cases found : control.peers.values.find? fun peer => peer.handle = handle with
      | none =>
          rw [found] at run
          exact .of_error run .refl (by simp [PyError.Legitimate])
      | some peer =>
          obtain ⟨isHandle, key, isHeld⟩ := OrderedDict.get?_of_find? found
          have sameHandle : peer.handle = handle := of_decide_eq_true isHandle
          have held : control.peers.get? peer.endpoint = some peer := by
            rw [(consistent.formed isHeld).keyed isHeld, isHeld]
          rw [found] at run
          cases answer : env.destroyPeer with
          | ok =>
              rw [answer] at run
              exact .of_ok run (.single (.dropPeer held sameHandle)) ⟨sameHandle, held, rfl⟩
          | error code =>
              rw [answer] at run
              exact .of_error run (.single (.dropFailed held answer sameHandle))
                (by simp [PyError.Legitimate])

/-- The native registration touches no peer. -/
theorem registerLocalMemory_performs (control : ControlPlane) :
    Section env { registers := True } (registerLocalMemory env) control fun _ _ => True := by
  rw [registerLocalMemory]
  refine .bind checkOpen_performs ?_
  rintro _ after _ ⟨rfl, isOpen⟩
  cases answer : env.registerLocalMemory with
  | error code =>
      have run : (runNative (NativeEngine.registerLocalMemory (.error code))).run after =
          .error (.engineError "register_local_memory" code) after := by
        simp [NativeEngine.registerLocalMemory]
      exact .of_error run .refl (by simp [PyError.Legitimate])
  | ok registration =>
      have run : (runNative (NativeEngine.registerLocalMemory (.ok registration))).run after =
          .ok registration { after with native := { after.native with
            memories := after.native.memories.set registration.memory
              registration.metadata } } := by
        simp [NativeEngine.registerLocalMemory]
      exact .of_ok run (.single (.register registration isOpen trivial)) trivial

open ControlServicer

/-- What the handler of a request is entitled to. -/
def Request.grant (advertised : String) : Request → Grant
  | .connect request =>
      { creates := fun key => key = request.connection.endpoint ∧
          request.connection.endpoint ≠ "" ∧ request.connection.endpoint ≠ advertised
        offers := fun _ offer => offer = request }
  | .ready request =>
      { imports := fun held given => held.endpoint = request.connection.endpoint ∧
          held.remoteConnectionId = request.connection.id ∧ given = request.snapshot
        readies := fun held => held.endpoint = request.connection.endpoint ∧
          held.remoteConnectionId = request.connection.id }
  | .changed request =>
      { imports := fun held given => held.endpoint = request.connection.endpoint ∧
          held.remoteConnectionId = request.connection.id ∧ given = request.snapshot }
  | .close request =>
      { destroys := fun held => held.endpoint = request.endpoint ∧
          held.remoteConnectionId = request.id }

/-- What the handler of a request returns. -/
def Request.Replies (advertised : String) : Request → Reply → ControlPlane → Prop
  | .connect request => fun reply after => ∃ current,
      after.peers.get? request.connection.endpoint = some current ∧
        reply = .offer (offer advertised current)
  | .ready _ => fun reply after => reply = .snapshot after.snapshot
  | .changed _ => fun reply _ => reply = .empty
  | .close _ => fun reply _ => reply = .empty

theorem serve_performs (request : Request) (consistent : control.Consistent)
    (fresh : ∀ offer, request = .connect offer → env.FreshFor control) :
    Section env (Request.grant advertised request) (serve advertised env request) control
      (Request.Replies advertised request) := by
  cases request with
  | connect request =>
      rw [serve, connect]
      by_cases bad : request.connection.endpoint = "" ∨
          request.connection.endpoint = advertised
      · simp only [bad, if_true]
        exact .throw (by simp [PyError.Legitimate])
      simp only [bad, if_false]
      refine .bind checkOpen_performs ?_
      rintro _ after _ ⟨rfl, isOpen⟩
      refine .bind (getOrCreatePeer_performs isOpen consistent (fresh request rfl)
        ⟨rfl, not_or.mp bad⟩) ?_
      rintro peer after made ⟨sameEndpoint, held⟩
      rw [← sameEndpoint] at held
      refine .bind (connectNative_performs (Effects.consistent made consistent) held rfl) ?_
      rintro _ final _ ⟨current, stored, sameObject, _⟩
      rw [sameEndpoint] at stored
      refine .pure ⟨current, stored, ?_⟩
      rw [offer, offer, connection, connection, sameObject.connectionId, sameObject.metadata]
  | ready request =>
      rw [serve, ready]
      refine .bind checkOpen_performs ?_
      rintro _ after _ ⟨rfl, _⟩
      refine .bind (findConnection_performs consistent) ?_
      rintro peer after _ ⟨rfl, held, sameEndpoint, sameRemote, named⟩
      have formed := consistent.formed held
      have joined : peer.state ≠ .created := fun unconnected =>
        named (sameRemote ▸ (formed.named held).mp unconnected)
      refine .bind (importSnapshot_performs consistent held joined
        ⟨sameEndpoint, sameRemote, rfl⟩) ?_
      rintro _ after _ ⟨imported, stored, sameObject, stillJoined, keptRemote⟩
      rw [← sameObject.endpoint] at stored
      refine .bind (markReady_performs sameObject.endpoint stored stillJoined
        ⟨sameObject.endpoint.trans sameEndpoint, keptRemote.trans sameRemote⟩) ?_
      intro _ final _ _
      exact .of_ok (by simp) .refl rfl
  | changed request =>
      rw [serve, changed]
      refine .bind checkOpen_performs ?_
      rintro _ after _ ⟨rfl, _⟩
      refine .bind (findConnection_performs consistent) ?_
      rintro peer after _ ⟨rfl, held, sameEndpoint, sameRemote, named⟩
      have formed := consistent.formed held
      have joined : peer.state ≠ .created := fun unconnected =>
        named (sameRemote ▸ (formed.named held).mp unconnected)
      refine .bind (importSnapshot_performs consistent held joined
        ⟨sameEndpoint, sameRemote, rfl⟩) ?_
      intro _ final _ _
      exact .pure rfl
  | close request =>
      have run := run_close env request consistent
      cases isClosed : control.closed with
      | true =>
          rw [isClosed] at run
          exact .of_error run .refl (by simp [PyError.Legitimate])
      | false =>
          rw [isClosed] at run
          cases found : control.peers.get? request.endpoint with
          | none =>
              rw [found] at run
              exact .of_ok run .refl rfl
          | some peer =>
              rw [found] at run
              have sameEndpoint := (consistent.formed found).keyed found
              rw [← sameEndpoint] at found
              by_cases same : peer.remoteConnectionId = request.id
              · cases answer : env.destroyPeer with
                | ok =>
                    simp only [same, answer, if_true] at run
                    exact .of_ok run (.single (.dropPeer found ⟨sameEndpoint, same⟩)) rfl
                | error code =>
                    simp only [same, answer, if_true] at run
                    exact .of_error run
                      (.single (.dropFailed found answer ⟨sameEndpoint, same⟩))
                      (by simp [PyError.Legitimate])
              · simp only [same, if_false] at run
                exact .of_ok run .refl rfl

end Sections

end Rdma101
