/-
Module: Rdma101.Control.Native
Purpose: The native resources as the control plane uses them: live peers, connections and
  imports, the assertions on their use, and the trace of the calls that were made.
Trusted boundary: human-reviewed translation of the native double of
  tests/internal/conftest.py; which calls fail is left to the environment
Main exports: PyError, Environment, NativeCall, NativeEngine
-/
import Rdma101.Control.Wire
import Rdma101.Lib.OrderedDict
import Mathlib.Tactic.Simps.Basic

namespace Rdma101

/-- The exceptions that leave a method of the control plane or of the native engine. -/
inductive PyError where
  | valueError (message : String)
  | runtimeError (message : String)
  | engineError (operation : String) (code : ErrorCode)
  | assertionError
  | keyError
  /-- `grpc.RpcError` at the caller: the handler raised, or the deadline passed. -/
  | rpcError
deriving DecidableEq, Repr

/-- What the environment answers to the native calls of one critical section, and the id that
`uuid4` draws in it.  A section imports one snapshot and stops at the first import that fails:
`importFailure` is the position in the snapshot and the error of that import. -/
structure Environment where
  createPeer : Except ErrorCode PeerMetadata
  connectPeer : Except ErrorCode Unit := .ok ()
  importFailure : Option (Nat × ErrorCode) := none
  destroyPeer : Except ErrorCode Unit := .ok ()
  registerLocalMemory : Except ErrorCode MemoryMetadata
  uuid4 : String

/-- The answer to the import at position `index` of a snapshot. -/
def Environment.importRemoteMemory (env : Environment) (index : Nat) : Except ErrorCode Unit :=
  match env.importFailure with
  | none => .ok ()
  | some (position, code) => if index = position then .error code else .ok ()

/-- One native call on a peer; `ok` says whether it succeeded. -/
inductive NativeCall where
  | createPeer (peer : Handle) (metadata : Bytes)
  | connectPeer (peer : Handle) (metadata : Bytes) (ok : Bool)
  | importRemoteMemory (peer : Handle) (metadata : Bytes) (ok : Bool)
  | destroyPeer (peer : Handle) (ok : Bool)
deriving DecidableEq, Repr

/-- `calls` is a history variable: the trace of the calls on peers, oldest first. -/
structure NativeEngine where
  memories : OrderedDict Handle Bytes := ∅
  peers : OrderedDict Handle Bytes := ∅
  connected : OrderedDict Handle Bytes := ∅
  imports : List (Handle × Bytes) := []
  calls : List NativeCall := []

namespace NativeEngine

abbrev Native := EStateM PyError NativeEngine

/-- Append a call to the trace. -/
@[simps]
def record (native : NativeEngine) (call : NativeCall) : NativeEngine :=
  { native with calls := native.calls ++ [call] }

/-- Raise the `EngineError` of a failed call. -/
def check (operation : String) : Except ErrorCode Unit → Native Unit
  | .ok () => pure ()
  | .error code => throw (.engineError operation code)

def isOk : Except ErrorCode Unit → Bool
  | .ok () => true
  | .error _ => false

def registerLocalMemory (answer : Except ErrorCode MemoryMetadata) : Native MemoryMetadata :=
  match answer with
  | .error code => throw (.engineError "register_local_memory" code)
  | .ok registration => do
      modify fun native =>
        { native with memories := native.memories.set registration.memory registration.metadata }
      return registration

def createPeer (answer : Except ErrorCode PeerMetadata) : Native PeerMetadata :=
  match answer with
  | .error code => throw (.engineError "create_peer" code)
  | .ok peer => do
      modify fun native =>
        { native.record (.createPeer peer.peer peer.metadata) with
          peers := native.peers.set peer.peer peer.metadata }
      return peer

def connectPeer (answer : Except ErrorCode Unit) (peer : Handle) (metadata : Bytes) :
    Native Unit := do
  let native ← get
  if native.peers.get? peer = none ∨ native.connected.get? peer ≠ none then
    throw .assertionError
  modify (·.record (.connectPeer peer metadata (isOk answer)))
  check "connect_peer" answer
  modify fun native => { native with connected := native.connected.set peer metadata }

instance (imports : List (Handle × Bytes)) (entry : Handle × Bytes) :
    Decidable (entry ∈ imports) :=
  inferInstance

def importRemoteMemory (answer : Except ErrorCode Unit) (peer : Handle) (metadata : Bytes) :
    Native Unit := do
  let native ← get
  if native.connected.get? peer = none then
    throw .assertionError
  modify (·.record (.importRemoteMemory peer metadata (isOk answer)))
  check "import_remote_memory" answer
  if (peer, metadata) ∉ native.imports then
    modify fun native => { native with imports := native.imports ++ [(peer, metadata)] }

def destroyPeer (answer : Except ErrorCode Unit) (peer : Handle) : Native Unit := do
  let native ← get
  if native.peers.get? peer = none then
    throw .keyError
  modify (·.record (.destroyPeer peer (isOk answer)))
  check "destroy_peer" answer
  modify fun native =>
    { native with
      peers := native.peers.erase peer
      connected := native.connected.erase peer
      imports := native.imports.filter fun entry => entry.1 ≠ peer }

/-- The engine releases everything; the trace stays. -/
def close (native : NativeEngine) : NativeEngine := { calls := native.calls }

end NativeEngine

end Rdma101
