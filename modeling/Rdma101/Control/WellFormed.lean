/-
Module: Rdma101.Control.WellFormed
Purpose: The invariant that ties the peer table of an open control plane to the native engine
  behind it, the primitive changes the critical sections are made of, and that each primitive
  change keeps the invariant.
Trusted boundary: none
Main exports: ControlPlane.WellFormed, ControlPlane.addPeer, ControlPlane.joinPeer,
  ControlPlane.importMemory, ControlPlane.dropPeer, ControlPlane.WellFormed.joinPeer,
  ControlPlane.WellFormed.dropPeer
-/
import Rdma101.Control.Plane
import Rdma101.Control.Trace
import Mathlib.Tactic.MkIffOfInductiveProp

namespace Rdma101

open Wire

namespace NativeEngine

/-- The engine after a successful import. -/
def importOne (native : NativeEngine) (peer : Handle) (metadata : Bytes) : NativeEngine :=
  { native.record (.importRemoteMemory peer metadata true) with
    imports := if (peer, metadata) ∈ native.imports then native.imports
               else native.imports ++ [(peer, metadata)] }

/-- The engine after importing every entry of a list. -/
def importAll (native : NativeEngine) (peer : Handle) (memories : List Bytes) : NativeEngine :=
  memories.foldl (fun engine metadata => engine.importOne peer metadata) native

@[simp] theorem importAll_peers {native : NativeEngine} {peer : Handle}
    {memories : List Bytes} : (native.importAll peer memories).peers = native.peers := by
  induction memories generalizing native with
  | nil => rfl
  | cons metadata memories inductionHypothesis => exact inductionHypothesis

@[simp] theorem importAll_connected {native : NativeEngine} {peer : Handle}
    {memories : List Bytes} :
    (native.importAll peer memories).connected = native.connected := by
  induction memories generalizing native with
  | nil => rfl
  | cons metadata memories inductionHypothesis => exact inductionHypothesis

/-- Importing adds the listed entries under the peer's handle and nothing else. -/
theorem mem_importAll_imports {native : NativeEngine} {peer : Handle} {memories : List Bytes}
    {entry : Handle × Bytes} :
    entry ∈ (native.importAll peer memories).imports ↔
      entry ∈ native.imports ∨ (entry.1 = peer ∧ entry.2 ∈ memories) := by
  induction memories generalizing native with
  | nil => simp [importAll]
  | cons metadata memories inductionHypothesis =>
      have stepped : native.importAll peer (metadata :: memories) =
          (native.importOne peer metadata).importAll peer memories := rfl
      rw [stepped, inductionHypothesis]
      obtain ⟨handle, data⟩ := entry
      simp only [importOne, List.mem_cons]
      split <;> grind

/-- Importing appends one successful call for each entry. -/
theorem importAll_calls {native : NativeEngine} {peer : Handle} {memories : List Bytes} :
    (native.importAll peer memories).calls =
      native.calls ++ memories.map fun metadata => .importRemoteMemory peer metadata true := by
  induction memories generalizing native with
  | nil => simp [importAll]
  | cons metadata memories inductionHypothesis =>
      have stepped : native.importAll peer (metadata :: memories) =
          (native.importOne peer metadata).importAll peer memories := rfl
      rw [stepped, inductionHypothesis]
      simp [importOne, record]

end NativeEngine

/-- Two states of one peer object: the attributes that are never assigned again agree. -/
@[mk_iff, grind cases]
structure Peer.SameObject (first second : Peer) : Prop where
  handle : first.handle = second.handle
  endpoint : first.endpoint = second.endpoint
  metadata : first.metadata = second.metadata
  connectionId : first.connectionId = second.connectionId

attribute [grind =] Peer.sameObject_iff

theorem Peer.SameObject.refl (peer : Peer) : peer.SameObject peer := ⟨rfl, rfl, rfl, rfl⟩

theorem Peer.SameObject.trans {first second third : Peer} (left : first.SameObject second)
    (right : second.SameObject third) : first.SameObject third :=
  ⟨left.handle.trans right.handle, left.endpoint.trans right.endpoint,
    left.metadata.trans right.metadata, left.connectionId.trans right.connectionId⟩

namespace ControlPlane

/-! ### Primitive changes

The sections are made of a few changes of the table and the native engine.  Each is given as one
function on the control plane. -/

/-- A new peer with its native resource. -/
@[simps]
def addPeer (control : ControlPlane) (peer : Peer) : ControlPlane :=
  { control with
    native := { control.native.record (.createPeer peer.handle peer.metadata) with
                peers := control.native.peers.set peer.handle peer.metadata }
    peers := control.peers.set peer.endpoint peer
    created := control.created ++ [peer] }

/-- Connect the QP of a peer to an offer and remember the offer's id. -/
@[simps]
def joinPeer (control : ControlPlane) (peer : Peer) (offer : Offer) : ControlPlane :=
  { control with
    native := { control.native.record (.connectPeer peer.handle offer.metadata true) with
                connected := control.native.connected.set peer.handle offer.metadata }
    peers := control.peers.set peer.endpoint
      { peer with remoteConnectionId := offer.connection.id, state := .connected } }

/-- A native call was made and failed. -/
@[simps]
def recordFailure (control : ControlPlane) (call : NativeCall) : ControlPlane :=
  { control with native := control.native.record call }

/-- A snapshot version is offered to the import of a peer. -/
@[simps]
def deliver (control : ControlPlane) (peer : Peer) (version : Nat) : ControlPlane :=
  { control with delivered := control.delivered ++ [(peer.handle, version)] }

/-- Import a list of memories under the handle of a peer. -/
@[simps]
def importMemory (control : ControlPlane) (peer : Peer) (memories : List Bytes) :
    ControlPlane :=
  { control with native := control.native.importAll peer.handle memories }

/-- Overwrite a peer of the table. -/
@[simps]
def storePeer (control : ControlPlane) (peer : Peer) : ControlPlane :=
  { control with peers := control.peers.set peer.endpoint peer }

/-- Destroy a peer and drop it from the table. -/
@[simps]
def dropPeer (control : ControlPlane) (peer : Peer) : ControlPlane :=
  { control with
    native := { control.native.record (.destroyPeer peer.handle true) with
                peers := control.native.peers.erase peer.handle
                connected := control.native.connected.erase peer.handle
                imports := control.native.imports.filter fun entry => entry.1 ≠ peer.handle }
    peers := control.peers.erase peer.endpoint }

/-! ### The invariant

One lemma for each primitive change.  The trace of native calls is part of the invariant, so
that the discipline of the C API is kept by the same induction as the tables. -/

/-- The table of an open control plane and the native engine agree: the live handles are those
of the table, a peer is connected natively exactly when it has left `CREATED`, and every call
so far obeyed the C API. -/
structure WellFormed (control : ControlPlane) : Prop where
  keyed : ∀ {endpoint peer}, control.peers.get? endpoint = some peer → peer.endpoint = endpoint
  fromCreated : ∀ {endpoint peer}, control.peers.get? endpoint = some peer →
    ∃ origin ∈ control.created, origin.SameObject peer
  createdDistinct : ∀ first ∈ control.created, ∀ second ∈ control.created,
    first.handle = second.handle → first = second
  idNonempty : ∀ peer ∈ control.created, peer.connectionId ≠ ""
  backed : ∀ {endpoint peer}, control.peers.get? endpoint = some peer →
    control.native.peers.get? peer.handle = some peer.metadata
  tabled : ∀ {handle metadata}, control.native.peers.get? handle = some metadata →
    ∃ endpoint peer, control.peers.get? endpoint = some peer ∧ peer.handle = handle
  joined : ∀ {endpoint peer}, control.peers.get? endpoint = some peer →
    (peer.state = .created ↔ control.native.connected.get? peer.handle = none)
  named : ∀ {endpoint peer}, control.peers.get? endpoint = some peer →
    (peer.state = .created ↔ peer.remoteConnectionId = "")
  unversioned : ∀ {endpoint peer}, control.peers.get? endpoint = some peer →
    peer.state = .created → peer.remoteVersion = -1
  connectedLive : ∀ {handle}, control.native.connected.get? handle ≠ none →
    control.native.peers.get? handle ≠ none
  importsConnected : ∀ {handle metadata}, (handle, metadata) ∈ control.native.imports →
    control.native.connected.get? handle ≠ none
  traceLive : ∀ handle, control.native.peers.get? handle ≠ none ↔
    Trace.Live control.native.calls handle
  traceConnected : ∀ {handle}, Trace.Live control.native.calls handle →
    (control.native.connected.get? handle ≠ none ↔
      Trace.Connected control.native.calls handle)
  traceCreated : ∀ call ∈ control.native.calls, ∃ peer ∈ control.created,
    peer.handle = call.peer
  disciplined : Trace.Disciplined control.native.calls

/-- A new peer, as `_create_peer` fills it in. -/
def freshPeer (fresh : PeerMetadata) (endpoint uuid : String) : Peer :=
  { handle := fresh.peer, endpoint := endpoint, metadata := fresh.metadata,
    connectionId := uuid }

namespace WellFormed

variable {control : ControlPlane}

/-- Two entries of the table with one handle are the same entry. -/
theorem handle_injective (formed : control.WellFormed) {first second : String}
    {peer other : Peer} (firstHeld : control.peers.get? first = some peer)
    (secondHeld : control.peers.get? second = some other)
    (same : peer.handle = other.handle) : first = second := by
  obtain ⟨origin, originMem, originHandle, originEndpoint, _⟩ := formed.fromCreated firstHeld
  obtain ⟨origin', originMem', originHandle', originEndpoint', _⟩ :=
    formed.fromCreated secondHeld
  have sameOrigin : origin = origin' :=
    formed.createdDistinct _ originMem _ originMem' (by rw [originHandle, originHandle', same])
  rw [← formed.keyed firstHeld, ← formed.keyed secondHeld, ← originEndpoint,
    ← originEndpoint', sameOrigin]

/-- A live native handle was made by `_create_peer`. -/
theorem live_created (formed : control.WellFormed) {handle : Handle}
    (live : control.native.peers.get? handle ≠ none) :
    ∃ peer ∈ control.created, peer.handle = handle := by
  obtain ⟨metadata, isLive⟩ := Option.ne_none_iff_exists'.mp live
  obtain ⟨endpoint, peer, held, rfl⟩ := formed.tabled isLive
  obtain ⟨origin, member, sameHandle, _⟩ := formed.fromCreated held
  exact ⟨origin, member, sameHandle⟩

/-- A change of the other fields keeps the invariant. -/
theorem congr (formed : control.WellFormed) {other : ControlPlane}
    (samePeers : other.peers = control.peers) (sameNative : other.native = control.native)
    (sameCreated : other.created = control.created) : other.WellFormed := by
  obtain ⟨_, peers, _, native, created, _⟩ := other
  subst samePeers sameNative sameCreated
  exact ⟨formed.keyed, formed.fromCreated, formed.createdDistinct, formed.idNonempty,
    formed.backed, formed.tabled, formed.joined, formed.named, formed.unversioned,
    formed.connectedLive, formed.importsConnected, formed.traceLive, formed.traceConnected,
    formed.traceCreated, formed.disciplined⟩

/-- A failed call on a live handle keeps the invariant. -/
theorem recordFailure (formed : control.WellFormed) (call : NativeCall)
    (legal : Trace.Legal control.native.calls call)
    (mentioned : ∃ peer ∈ control.created, peer.handle = call.peer)
    (failed : ∀ handle, (Trace.Live (control.native.calls ++ [call]) handle ↔
        Trace.Live control.native.calls handle) ∧
      (Trace.Connected (control.native.calls ++ [call]) handle ↔
        Trace.Connected control.native.calls handle)) :
    (control.recordFailure call).WellFormed where
  keyed := formed.keyed
  fromCreated := formed.fromCreated
  createdDistinct := formed.createdDistinct
  idNonempty := formed.idNonempty
  backed := formed.backed
  tabled := formed.tabled
  joined := formed.joined
  named := formed.named
  unversioned := formed.unversioned
  connectedLive := formed.connectedLive
  importsConnected := formed.importsConnected
  traceLive := fun handle => (formed.traceLive handle).trans (failed handle).1.symm
  traceConnected := fun {handle} live =>
    (formed.traceConnected ((failed handle).1.mp live)).trans (failed handle).2.symm
  traceCreated := by
    intro other member
    rcases List.mem_append.mp member with old | new
    · exact formed.traceCreated other old
    · rw [List.mem_singleton] at new
      exact new ▸ mentioned
  disciplined := formed.disciplined.snoc legal

/-- Overwriting the version or the state of a peer keeps the invariant when the peer stays on
its side of `CREATED`. -/
theorem storePeer (formed : control.WellFormed) {peer changed : Peer}
    (held : control.peers.get? peer.endpoint = some peer)
    (sameObject : changed.SameObject peer)
    (sameRemote : changed.remoteConnectionId = peer.remoteConnectionId)
    (sameSide : changed.state = .created ↔ peer.state = .created)
    (unversioned : changed.state = .created → changed.remoteVersion = -1) :
    (control.storePeer changed).WellFormed := by
  obtain ⟨sameHandle, sameEndpoint, sameMetadata, sameId⟩ := sameObject
  have lookup : ∀ endpoint found, (control.storePeer changed).peers.get? endpoint = some found →
      (endpoint = peer.endpoint ∧ found = changed) ∨
        control.peers.get? endpoint = some found := by
    intro endpoint found isFound
    simp only [ControlPlane.storePeer, OrderedDict.get?_set, sameEndpoint] at isFound
    grind
  constructor
  case keyed => grind [formed.keyed]
  case fromCreated => grind [formed.fromCreated, ControlPlane.storePeer]
  case createdDistinct => exact formed.createdDistinct
  case idNonempty => exact formed.idNonempty
  case backed => grind [formed.backed, ControlPlane.storePeer]
  case tabled =>
    intro handle metadata live
    obtain ⟨endpoint, found, isFound, isHandle⟩ := formed.tabled live
    by_cases here : endpoint = peer.endpoint
    · refine ⟨endpoint, changed, ?_, ?_⟩ <;> grind [ControlPlane.storePeer]
    · exact ⟨endpoint, found, by grind [ControlPlane.storePeer], isHandle⟩
  case joined => grind [formed.joined, ControlPlane.storePeer]
  case named => grind [formed.named, ControlPlane.storePeer]
  case unversioned => grind [formed.unversioned, ControlPlane.storePeer]
  case connectedLive => exact formed.connectedLive
  case importsConnected => exact formed.importsConnected
  case traceLive => exact formed.traceLive
  case traceConnected => exact formed.traceConnected
  case traceCreated => exact formed.traceCreated
  case disciplined => exact formed.disciplined

/-- A new peer under a free key, with an unused handle, keeps the invariant. -/
theorem addPeer (formed : control.WellFormed) {fresh : PeerMetadata} {endpoint uuid : String}
    (absent : control.peers.get? endpoint = none)
    (unused : ∀ peer ∈ control.created, peer.handle ≠ fresh.peer) (nonempty : uuid ≠ "") :
    (control.addPeer (freshPeer fresh endpoint uuid)).WellFormed := by
  have notLive : control.native.peers.get? fresh.peer = none := by
    by_contra live
    obtain ⟨peer, member, isHandle⟩ := formed.live_created live
    exact unused peer member isHandle
  have notConnected : control.native.connected.get? fresh.peer = none := by
    by_contra joined
    exact formed.connectedLive joined notLive
  have notMentioned : ∀ call ∈ control.native.calls, call.peer ≠ fresh.peer := by
    intro call member isHandle
    obtain ⟨peer, peerMember, isPeer⟩ := formed.traceCreated call member
    exact unused peer peerMember (isPeer.trans isHandle)
  have otherHandle : ∀ {found key}, control.peers.get? key = some found →
      found.handle ≠ fresh.peer := by
    intro found key held isHandle
    obtain ⟨origin, member, sameHandle, _⟩ := formed.fromCreated held
    exact unused origin member (sameHandle.trans isHandle)
  constructor
  case keyed => grind [formed.keyed, ControlPlane.addPeer, freshPeer]
  case fromCreated =>
    intro key found held
    by_cases here : key = endpoint
    · refine ⟨freshPeer fresh endpoint uuid, by simp [ControlPlane.addPeer], ?_⟩
      grind [ControlPlane.addPeer, freshPeer]
    · have old : control.peers.get? key = some found := by
        grind [ControlPlane.addPeer, freshPeer]
      obtain ⟨origin, member, same⟩ := formed.fromCreated old
      exact ⟨origin, by simp [ControlPlane.addPeer, member], same⟩
  case createdDistinct =>
    simp only [ControlPlane.addPeer, List.mem_append, List.mem_singleton, freshPeer]
    rintro first (firstOld | rfl) second (secondOld | rfl) same
    · exact formed.createdDistinct _ firstOld _ secondOld same
    · exact absurd same (unused _ firstOld)
    · exact absurd same.symm (unused _ secondOld)
    · rfl
  case idNonempty => grind [formed.idNonempty, ControlPlane.addPeer, freshPeer]
  case backed => grind [formed.backed, ControlPlane.addPeer, freshPeer]
  case tabled =>
    intro handle metadata live
    by_cases new : handle = fresh.peer
    · exact ⟨endpoint, freshPeer fresh endpoint uuid, by simp [ControlPlane.addPeer, freshPeer],
        by simp [freshPeer, new]⟩
    · have old : control.native.peers.get? handle = some metadata := by
        grind [ControlPlane.addPeer, freshPeer]
      obtain ⟨key, found, held, isHandle⟩ := formed.tabled old
      exact ⟨key, found, by grind [ControlPlane.addPeer, freshPeer], isHandle⟩
  case joined => grind [formed.joined, ControlPlane.addPeer, freshPeer, NativeEngine.record]
  case named => grind [formed.named, ControlPlane.addPeer, freshPeer]
  case unversioned => grind [formed.unversioned, ControlPlane.addPeer, freshPeer]
  case connectedLive =>
    grind [formed.connectedLive, ControlPlane.addPeer, freshPeer, NativeEngine.record]
  case importsConnected => exact formed.importsConnected
  case traceLive =>
    intro handle
    by_cases new : handle = fresh.peer
    · subst new
      have undestroyed : .destroyPeer fresh.peer true ∉ control.native.calls :=
        fun member => notMentioned _ member rfl
      simp [ControlPlane.addPeer, freshPeer, NativeEngine.record, undestroyed]
    · have old := formed.traceLive handle
      simpa [ControlPlane.addPeer, freshPeer, NativeEngine.record, new, Trace.Live] using old
  case traceConnected =>
    intro handle live
    simp only [ControlPlane.addPeer, freshPeer, NativeEngine.record,
      Trace.connected_snoc_createPeer] at live ⊢
    by_cases new : handle = fresh.peer
    · subst new
      have unconnected : ¬Trace.Connected control.native.calls fresh.peer := by
        rintro ⟨metadata, member⟩
        exact notMentioned _ member rfl
      simp [notConnected, unconnected]
    · exact formed.traceConnected (by simpa [new, Trace.Live] using live)
  case traceCreated =>
    intro call member
    rcases List.mem_append.mp member with old | new
    · obtain ⟨peer, peerMember, isHandle⟩ := formed.traceCreated call old
      exact ⟨peer, by simp [ControlPlane.addPeer, peerMember], isHandle⟩
    · rw [List.mem_singleton] at new
      exact ⟨freshPeer fresh endpoint uuid, by simp [ControlPlane.addPeer], by simp [new,
        freshPeer, NativeCall.peer]⟩
  case disciplined => exact formed.disciplined.snoc notMentioned

/-- Connecting an unconnected peer of the table keeps the invariant. -/
theorem joinPeer (formed : control.WellFormed) {peer : Peer} {offer : Offer}
    (held : control.peers.get? peer.endpoint = some peer) (unconnected : peer.state = .created)
    (named : offer.connection.id ≠ "") : (control.joinPeer peer offer).WellFormed := by
  have live : control.native.peers.get? peer.handle ≠ none := by simp [formed.backed held]
  have notConnected := (formed.joined held).mp unconnected
  have traced := (formed.traceLive peer.handle).mp live
  have otherHandle : ∀ {key found}, control.peers.get? key = some found →
      key ≠ peer.endpoint → found.handle ≠ peer.handle :=
    fun isFound elsewhere same => elsewhere (formed.handle_injective isFound held same)
  constructor
  case keyed => grind [formed.keyed, ControlPlane.joinPeer]
  case fromCreated => grind [formed.fromCreated, ControlPlane.joinPeer]
  case createdDistinct => exact formed.createdDistinct
  case idNonempty => exact formed.idNonempty
  case backed => grind [formed.backed, ControlPlane.joinPeer, NativeEngine.record]
  case tabled =>
    intro handle metadata isLive
    obtain ⟨key, found, isFound, isHandle⟩ := formed.tabled isLive
    by_cases here : key = peer.endpoint
    · exact ⟨key, { peer with remoteConnectionId := offer.connection.id, state := .connected },
        by simp [ControlPlane.joinPeer, here], by grind⟩
    · exact ⟨key, found, by grind [ControlPlane.joinPeer], isHandle⟩
  case joined => grind [formed.joined, ControlPlane.joinPeer, NativeEngine.record]
  case named => grind [formed.named, ControlPlane.joinPeer]
  case unversioned => grind [formed.unversioned, ControlPlane.joinPeer]
  case connectedLive =>
    grind [formed.connectedLive, ControlPlane.joinPeer, NativeEngine.record]
  case importsConnected =>
    intro handle metadata member
    have old := formed.importsConnected member
    grind [ControlPlane.joinPeer]
  case traceLive =>
    intro handle
    simpa [ControlPlane.joinPeer, NativeEngine.record] using formed.traceLive handle
  case traceConnected =>
    intro handle isLive
    have wasLive : Trace.Live control.native.calls handle := by
      simpa [ControlPlane.joinPeer, NativeEngine.record] using isLive
    have old := formed.traceConnected wasLive
    simp only [ControlPlane.joinPeer, NativeEngine.record, OrderedDict.get?_set,
      Trace.connected_snoc_connectPeer, and_true]
    by_cases same : handle = peer.handle <;> simp [same, old]
  case traceCreated =>
    intro call member
    rcases List.mem_append.mp member with old | new
    · exact formed.traceCreated call old
    · rw [List.mem_singleton] at new
      obtain ⟨origin, originMember, sameHandle, _⟩ := formed.fromCreated held
      exact ⟨origin, originMember, by rw [new, sameHandle]; rfl⟩
  case disciplined =>
    refine formed.disciplined.snoc ⟨traced, fun joined => ?_⟩
    exact (formed.traceConnected traced).mpr joined notConnected

/-- One import under the handle of a connected peer keeps the invariant. -/
theorem importOne (formed : control.WellFormed) {peer : Peer}
    (held : control.peers.get? peer.endpoint = some peer) (joined : peer.state ≠ .created)
    (metadata : Bytes) :
    ({ control with native := control.native.importOne peer.handle metadata }
      : ControlPlane).WellFormed := by
  have live : Trace.Live control.native.calls peer.handle :=
    (formed.traceLive _).mp (by simp [formed.backed held])
  have isConnected : control.native.connected.get? peer.handle ≠ none :=
    fun absent => joined ((formed.joined held).mpr absent)
  obtain ⟨origin, originMember, sameHandle, _⟩ := formed.fromCreated held
  have recorded := formed.recordFailure
    (.importRemoteMemory peer.handle metadata true)
    ⟨live, (formed.traceConnected live).mp isConnected⟩ ⟨origin, originMember, sameHandle⟩
    (by simp)
  refine ⟨recorded.keyed, recorded.fromCreated, recorded.createdDistinct, recorded.idNonempty,
    recorded.backed, recorded.tabled, recorded.joined, recorded.named, recorded.unversioned,
    recorded.connectedLive, ?_, recorded.traceLive, recorded.traceConnected,
    recorded.traceCreated, recorded.disciplined⟩
  intro handle data member
  simp only [NativeEngine.importOne] at member
  split at member
  · exact formed.importsConnected member
  · rcases List.mem_append.mp member with old | new
    · exact formed.importsConnected old
    · rw [List.mem_singleton, Prod.mk.injEq] at new
      exact new.1 ▸ isConnected

/-- Importing a list under the handle of a connected peer keeps the invariant. -/
theorem importMemory {peer : Peer} (memories : List Bytes) (formed : control.WellFormed)
    (held : control.peers.get? peer.endpoint = some peer) (joined : peer.state ≠ .created) :
    (control.importMemory peer memories).WellFormed := by
  induction memories generalizing control with
  | nil => exact formed
  | cons metadata memories inductionHypothesis =>
      exact inductionHypothesis (formed.importOne held joined metadata) held

/-- Destroying a peer and dropping it from the table keeps the invariant. -/
theorem dropPeer (formed : control.WellFormed) {peer : Peer}
    (held : control.peers.get? peer.endpoint = some peer) :
    (control.dropPeer peer).WellFormed := by
  have live : control.native.peers.get? peer.handle ≠ none := by simp [formed.backed held]
  have traced := (formed.traceLive peer.handle).mp live
  have otherHandle : ∀ {key found}, control.peers.get? key = some found →
      key ≠ peer.endpoint → found.handle ≠ peer.handle :=
    fun isFound elsewhere same => elsewhere (formed.handle_injective isFound held same)
  constructor
  case keyed => grind [formed.keyed, ControlPlane.dropPeer]
  case fromCreated => grind [formed.fromCreated, ControlPlane.dropPeer]
  case createdDistinct => exact formed.createdDistinct
  case idNonempty => exact formed.idNonempty
  case backed => grind [formed.backed, ControlPlane.dropPeer]
  case tabled =>
    intro handle metadata isLive
    simp only [ControlPlane.dropPeer, OrderedDict.get?_erase] at isLive ⊢
    split at isLive
    · simp at isLive
    · rename_i otherThan
      obtain ⟨key, found, isFound, isHandle⟩ := formed.tabled isLive
      refine ⟨key, found, ?_, isHandle⟩
      rw [if_neg (by grind)]
      exact isFound
  case joined => grind [formed.joined, ControlPlane.dropPeer]
  case named => grind [formed.named, ControlPlane.dropPeer]
  case unversioned => grind [formed.unversioned, ControlPlane.dropPeer]
  case connectedLive => grind [formed.connectedLive, ControlPlane.dropPeer]
  case importsConnected =>
    intro handle metadata member
    simp only [ControlPlane.dropPeer, List.mem_filter, decide_not, Bool.not_eq_true',
      decide_eq_false_iff_not] at member
    have old := formed.importsConnected member.1
    grind [ControlPlane.dropPeer]
  case traceLive =>
    intro handle
    have old := formed.traceLive handle
    simp only [ControlPlane.dropPeer, NativeEngine.record, OrderedDict.get?_erase,
      Trace.live_snoc_destroyPeer, and_true]
    by_cases same : handle = peer.handle <;> simp [same, old]
  case traceConnected =>
    intro handle isLive
    simp only [ControlPlane.dropPeer, NativeEngine.record, Trace.live_snoc_destroyPeer,
      and_true] at isLive
    simpa [ControlPlane.dropPeer, NativeEngine.record, isLive.2] using
      formed.traceConnected isLive.1
  case traceCreated =>
    intro call member
    rcases List.mem_append.mp member with old | new
    · exact formed.traceCreated call old
    · rw [List.mem_singleton] at new
      obtain ⟨origin, originMember, sameHandle, _⟩ := formed.fromCreated held
      exact ⟨origin, originMember, by rw [new, sameHandle]; rfl⟩
  case disciplined => exact formed.disciplined.snoc traced

end WellFormed

end ControlPlane

end Rdma101
