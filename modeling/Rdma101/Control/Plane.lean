/-
Module: Rdma101.Control.Plane
Purpose: The control plane of one node: its peer table, the critical sections of its outgoing
  operations and its four RPC handlers.  A method that waits for an RPC outside the state lock
  is cut at the RPC; each piece runs under the lock and is one function here.
Trusted boundary: human-reviewed translation of rdma101/control.py
Main exports: PeerState, Peer, ControlPlane, Control, ControlPlane.connectOffer,
  ControlPlane.connectUpdate, ControlPlane.connectFinish, ControlPlane.publishAppend,
  ControlPlane.disconnectDestroy, ControlServicer.serve
-/
import Rdma101.Control.Native

namespace Rdma101

open Wire

inductive PeerState where
  | created
  /-- The local QP is connected. -/
  | connected
  /-- Both QPs are connected and remote memory metadata is imported. -/
  | ready
deriving DecidableEq, Repr

structure Peer where
  handle : Handle
  endpoint : String
  metadata : Bytes
  connectionId : String
  remoteConnectionId : String := ""
  state : PeerState := .created
  remoteVersion : Int := -1
deriving DecidableEq, Repr

/-- The fields of one control plane.  `created` and `delivered` are history variables that the
code does not have: every peer that `_create_peer` made, and every snapshot version that was
offered to a peer's import, with the peer's handle. -/
structure ControlPlane where
  closed : Bool := false
  peers : OrderedDict String Peer := ∅
  memoryMetadata : List Bytes := []
  native : NativeEngine := {}
  created : List Peer := []
  delivered : List (Handle × Nat) := []

/-- Code that runs under the state lock.  A raise keeps the changes made before it. -/
abbrev Control := EStateM PyError ControlPlane

namespace ControlPlane

/-- Run a native call on the engine of this control plane. -/
def runNative {α : Type} (call : NativeEngine.Native α) : Control α := fun control =>
  match call.run control.native with
  | .ok value native => .ok value { control with native := native }
  | .error error native => .error error { control with native := native }

/-- Assign to the attributes of the peer object that the table holds for `endpoint`. -/
def updatePeer (endpoint : String) (change : Peer → Peer) : Control Unit :=
  modify fun control =>
    match control.peers.get? endpoint with
    | none => control
    | some peer => { control with peers := control.peers.set endpoint (change peer) }

def checkOpen : Control Unit := do
  if (← get).closed then
    throw (.runtimeError "engine is closed")

/-- `advertised` is the `endpoint` attribute of the control plane. -/
def connection (advertised : String) (peer : Peer) : Connection :=
  { endpoint := advertised, id := peer.connectionId }

def offer (advertised : String) (peer : Peer) : Offer :=
  { connection := connection advertised peer, metadata := peer.metadata }

def snapshot (control : ControlPlane) : Snapshot :=
  { version := control.memoryMetadata.length, memories := control.memoryMetadata }

def createPeer (env : Environment) (endpoint : String) : Control Peer := do
  let fresh ← runNative (NativeEngine.createPeer env.createPeer)
  let peer : Peer :=
    { handle := fresh.peer, endpoint := endpoint, metadata := fresh.metadata,
      connectionId := env.uuid4 }
  modify fun control =>
    { control with
      peers := control.peers.set endpoint peer
      created := control.created ++ [peer] }
  return peer

/-- The entry of the table for `endpoint`, made now when there is none. -/
def getOrCreatePeer (env : Environment) (endpoint : String) : Control Peer := do
  match (← get).peers.get? endpoint with
  | some peer => return peer
  | none => createPeer env endpoint

/-- The table must still hold the very object `peer`.  Every peer object owns one native handle
and no handle is used twice, so the handle tells objects apart; the current attributes of the
object are returned. -/
def requirePeer (peer : Peer) : Control Peer := do
  match (← get).peers.get? peer.endpoint with
  | none => throw (.runtimeError "peer disconnected during handshake")
  | some current =>
      if current.handle ≠ peer.handle then
        throw (.runtimeError "peer disconnected during handshake")
      return current

def findConnection (connection : Connection) : Control Peer := do
  match (← get).peers.get? connection.endpoint with
  | none => throw (.valueError "unknown connection")
  | some peer =>
      if connection.id = "" ∨ peer.remoteConnectionId ≠ connection.id then
        throw (.valueError "unknown connection")
      return peer

/-- Connect a local QP once, including when both ends initiate together. -/
def connectNative (env : Environment) (peer : Peer) (offer : Offer) : Control Unit := do
  if offer.connection.endpoint ≠ peer.endpoint ∨ offer.connection.id = "" then
    throw (.valueError "unexpected connection identity")
  if peer.state = .created then
    runNative (NativeEngine.connectPeer env.connectPeer peer.handle offer.metadata)
    updatePeer peer.endpoint fun current =>
      { current with remoteConnectionId := offer.connection.id, state := .connected }
  else if peer.remoteConnectionId ≠ offer.connection.id then
    throw (.runtimeError "endpoint already has a different connection")

/-- The loop of `_import_snapshot`; `index` counts the imports of this section. -/
def importMemories (env : Environment) (handle : Handle) : Nat → List Bytes → Control Unit
  | _, [] => pure ()
  | index, metadata :: memories => do
      runNative (NativeEngine.importRemoteMemory (env.importRemoteMemory index) handle metadata)
      importMemories env handle (index + 1) memories

/-- Import a newer memory metadata snapshot; native imports are idempotent. -/
def importSnapshot (env : Environment) (peer : Peer) (snapshot : Snapshot) : Control Unit := do
  modify fun control =>
    { control with delivered := control.delivered ++ [(peer.handle, snapshot.version)] }
  if (snapshot.version : Int) > peer.remoteVersion then
    importMemories env peer.handle 0 snapshot.memories
    updatePeer peer.endpoint fun current =>
      { current with remoteVersion := snapshot.version }

/-- Assign `READY` to the state of the peer in the table. -/
def markReady (peer : Peer) : Control Unit :=
  updatePeer peer.endpoint fun current => { current with state := .ready }

/-! ### The critical sections of the outgoing operations

Each outgoing operation is cut at its RPCs: one definition for what runs under the lock before
the first call, one for what runs between two calls, and one for what runs after the last.  A
handler is one section. -/

/-- `connect` up to its first RPC: `inl` returns the handle of a ready peer, `inr` goes on to
send the offer of the peer. -/
def connectOffer (advertised : String) (env : Environment) (endpoint : String) :
    Control (Handle ⊕ Peer) := do
  if endpoint = "" ∨ endpoint = advertised then
    throw (.valueError "a different remote Engine endpoint is required")
  checkOpen
  let peer ← getOrCreatePeer env endpoint
  if peer.state = .ready then
    return .inl peer.handle
  return .inr peer

/-- `connect` between its two RPCs: connect the QP to the offer that `Connect` returned and
prepare the update that `Ready` carries. -/
def connectUpdate (advertised : String) (env : Environment) (peer : Peer) (remote : Offer) :
    Control Update := do
  let current ← requirePeer peer
  connectNative env current remote
  return { connection := connection advertised peer, snapshot := (← get).snapshot }

/-- `connect` after its second RPC. -/
def connectFinish (env : Environment) (peer : Peer) (snapshot : Snapshot) : Control Handle := do
  let current ← requirePeer peer
  importSnapshot env current snapshot
  markReady current
  return current.handle

/-- `publish` up to its first RPC: the snapshot to announce and the peers that are ready. -/
def publishAppend (metadata : Bytes) : Control (Snapshot × List Peer) := do
  checkOpen
  modify fun control => { control with memoryMetadata := control.memoryMetadata ++ [metadata] }
  let control ← get
  return (control.snapshot, control.peers.values.filter fun peer => peer.state = .ready)

/-- `disconnect` up to its RPC: the peer it destroyed. -/
def disconnectDestroy (env : Environment) (handle : Handle) : Control Peer := do
  checkOpen
  match (← get).peers.values.find? fun peer => peer.handle = handle with
  | none => throw (.valueError "unknown peer")
  | some peer =>
      runNative (NativeEngine.destroyPeer env.destroyPeer peer.handle)
      modify fun control => { control with peers := control.peers.erase peer.endpoint }
      return peer

/-- The native registration of `Engine.register_local_memory`, before it publishes. -/
def registerLocalMemory (env : Environment) : Control MemoryMetadata := do
  checkOpen
  runNative (NativeEngine.registerLocalMemory env.registerLocalMemory)

/-- `Engine.close`, once no handler runs any more. -/
def close (control : ControlPlane) : ControlPlane :=
  if control.closed then control
  else
    { control with closed := true, peers := ∅, memoryMetadata := [],
                   native := control.native.close }

end ControlPlane

namespace ControlServicer

open ControlPlane

/-- Accept a connection offer and return the local QP metadata. -/
def connect (advertised : String) (env : Environment) (request : Offer) : Control Reply := do
  let endpoint := request.connection.endpoint
  if endpoint = "" ∨ endpoint = advertised then
    throw (.valueError "a different remote Engine endpoint is required")
  checkOpen
  let peer ← getOrCreatePeer env endpoint
  connectNative env peer request
  return .offer (offer advertised peer)

/-- Import the remote memory metadata and return the local snapshot. -/
def ready (env : Environment) (request : Update) : Control Reply := do
  checkOpen
  let peer ← findConnection request.connection
  importSnapshot env peer request.snapshot
  markReady peer
  return .snapshot (← get).snapshot

/-- Acknowledge updated memory metadata after importing the snapshot. -/
def changed (env : Environment) (request : Update) : Control Reply := do
  checkOpen
  let peer ← findConnection request.connection
  importSnapshot env peer request.snapshot
  return .empty

/-- Release the matching connection; ignore closes for an old connection. -/
def close (env : Environment) (request : Connection) : Control Reply := do
  checkOpen
  match (← get).peers.get? request.endpoint with
  | none => return .empty
  | some peer =>
      if peer.remoteConnectionId = request.id then
        runNative (NativeEngine.destroyPeer env.destroyPeer peer.handle)
        modify fun control => { control with peers := control.peers.erase peer.endpoint }
      return .empty

/-- The handler of each method of the service. -/
def serve (advertised : String) (env : Environment) : Request → Control Reply
  | .connect offer => connect advertised env offer
  | .ready update => ready env update
  | .changed update => changed env update
  | .close connection => close env connection

end ControlServicer

end Rdma101
