/-
Module: Rdma101.Abi.NativeEngine
Purpose: The Python adapter with its four tables, next to the C engine it calls.
Trusted boundary: human-reviewed translation of native_engine.py
Main exports: NativeEngine, World, Native, registerLocalMemory, deregisterLocalMemory,
  importRemoteMemory, removeRemoteMemory, createPeer, connectPeer, destroyPeer, submitTransfer,
  getTransferStatuses, freeBatch, close, NativeOperation, nativeSystem
-/
import Rdma101.Abi.CEngine
import Rdma101.Abi.Requests
import Rdma101.Abi.Statuses
import Rdma101.Lib.LabelledSystem
import Rdma101.Lib.SectionLogic

namespace Rdma101.Abi

/-- `closed` is a null handle.  A set is a dictionary of units. -/
structure NativeEngine where
  closed : Bool := false
  memories : OrderedDict Handle (Memory × Bytes) := ∅
  remoteMemories : OrderedDict Handle Handle := ∅
  batches : OrderedDict Handle (List OperationType) := ∅
  peers : OrderedDict Handle Unit := ∅

/-- The adapter and the C engine that its handle points to, if that is still there. -/
structure World (Region : Type) where
  native : NativeEngine := {}
  engine : Option (CEngine Region) := some {}

/-- How a method ends early. -/
inductive Abrupt where
  | raised (error : Raised)
  /-- The C engine gave an answer that its header rules out. -/
  | broken
deriving DecidableEq

abbrev Native (Region : Type) := EStateM Abrupt (World Region)

namespace NativeEngine

variable {Region : Type} [DecidableEq Region] (describes : Bytes → Option Region)

def raising {α : Type} : Except Raised α → Native Region α
  | .ok value => pure value
  | .error error => throw (.raised error)

def throwRuntimeError {α : Type} (message : String) : Native Region α :=
  throw (.raised (.runtimeError message))

def update (change : NativeEngine → NativeEngine) : Native Region Unit :=
  modify fun world => { world with native := change world.native }

/-- An integer as a handle argument of a C function. -/
def toHandle (value : Int) : Except Raised Handle := do
  return (← toUInt64 value).toNat

/-- `d[key]` for an integer key. -/
def item {ν : Type} (dict : OrderedDict Handle ν) (key : Int) : Except Raised ν :=
  match if 0 ≤ key then dict.get? key.toNat else none with
  | some value => .ok value
  | none => .error .keyError

/-- `del d[key]`, `s.remove(key)`. -/
def delete {ν : Type} (dict : OrderedDict Handle ν) (key : Handle) :
    Except Raised (OrderedDict Handle ν) :=
  if (dict.get? key).isSome then .ok (dict.erase key) else .error .keyError

/-- `call`: the C function runs on the engine that the handle points to, then the code is
checked. -/
def call (name : String) (function : CCall) (answer : Answer) : Native Region Unit := do
  let world ← get
  let engine := if world.native.closed then none else world.engine
  match CEngine.accept describes engine function answer with
  | none => throw .broken
  | some engine => do
      modify fun world => { world with engine := engine }
      raising (check name answer.code)

def registerLocalMemory (memory : Memory) (access : Int) (answer : Answer) :
    Native Region MemoryMetadata := do
  let _ ← raising (toUInt64 memory.size)
  let access ← raising (toUInt32 access)
  call describes "register_local_memory" (.registerLocalMemory memory access) answer
  if answer.handle = 0 ∨ ((← get).native.memories.get? answer.handle).isSome then
    throwRuntimeError "registration IDs must be nonzero and distinct"
  update fun native => { native with memories := native.memories.set answer.handle (memory, []) }
  let data := answer.metadata.getD []
  if data = [] then
    throwRuntimeError "registration returned missing memory metadata"
  update fun native => { native with memories := native.memories.set answer.handle (memory, data) }
  return { memory := answer.handle, metadata := data }

def deregisterLocalMemory (memory : Int) (answer : Answer) : Native Region Unit := do
  let memory ← raising (toHandle memory)
  call describes "deregister_local_memory" (.deregisterLocalMemory memory) answer
  let memories ← raising (delete (← get).native.memories memory)
  update fun native => { native with memories := memories }

def importRemoteMemory (peer : Int) (metadata : Bytes) (answer : Answer) :
    Native Region Handle := do
  if metadata = [] then
    throw (.raised (.valueError "memory metadata must be nonempty bytes"))
  let peer ← raising (toHandle peer)
  call describes "import_remote_memory" (.importRemoteMemory peer metadata) answer
  if answer.handle = 0 ∨
      ((← get).native.remoteMemories.get? answer.handle).getD peer ≠ peer then
    throwRuntimeError "invalid remote memory ID"
  update fun native =>
    { native with remoteMemories := native.remoteMemories.set answer.handle peer }
  return answer.handle

def removeRemoteMemory (remoteMemory : Int) (answer : Answer) : Native Region Unit := do
  let remoteMemory ← raising (toHandle remoteMemory)
  call describes "remove_remote_memory" (.removeRemoteMemory remoteMemory) answer
  let remoteMemories ← raising (delete (← get).native.remoteMemories remoteMemory)
  update fun native => { native with remoteMemories := remoteMemories }

def createPeer (answer : Answer) : Native Region PeerMetadata := do
  call describes "create_peer" .createPeer answer
  if answer.handle = 0 ∨ ((← get).native.peers.get? answer.handle).isSome then
    throwRuntimeError "live peer IDs must be nonzero and distinct"
  let data := answer.metadata.getD []
  if data = [] then
    throwRuntimeError "create_peer returned missing connection metadata"
  update fun native => { native with peers := native.peers.set answer.handle () }
  return { peer := answer.handle, metadata := data }

def connectPeer (peer : Int) (metadata : Bytes) (answer : Answer) : Native Region Unit := do
  if metadata = [] then
    throw (.raised (.valueError "connection metadata must be nonempty bytes"))
  let peer ← raising (toHandle peer)
  call describes "connect_peer" (.connectPeer peer metadata) answer

/-- The loop of `destroy_peer` over a copy of the items. -/
def forgetImports (peer : Handle) (items : List (Handle × Handle))
    (remoteMemories : OrderedDict Handle Handle) : OrderedDict Handle Handle :=
  items.foldl (fun dict entry => if entry.2 = peer then dict.erase entry.1 else dict)
    remoteMemories

def destroyPeer (peer : Int) (answer : Answer) : Native Region Unit := do
  let peer ← raising (toHandle peer)
  call describes "destroy_peer" (.destroyPeer peer) answer
  let peers ← raising (delete (← get).native.peers peer)
  update fun native => { native with peers := peers }
  update fun native => { native with
    remoteMemories := forgetImports peer native.remoteMemories.entries native.remoteMemories }

def submitTransfer (requests : List Request) (answer : Answer) : Native Region Handle := do
  let entries ← raising (requests.mapM encodeRequest)
  let operations := requests.map fun request => request.operation.type
  call describes "submit_transfer" (.submitTransfer entries) answer
  if answer.handle = 0 ∨ ((← get).native.batches.get? answer.handle).isSome then
    throwRuntimeError "live batch IDs must be nonzero and distinct"
  update fun native => { native with batches := native.batches.set answer.handle operations }
  return answer.handle

def getTransferStatuses (batch : Int) (answer : Answer) :
    Native Region (List TransferStatus) := do
  let operations ← raising (item (← get).native.batches batch)
  let batch ← raising (toHandle batch)
  call describes "get_transfer_statuses" (.getTransferStatuses batch operations.length) answer
  raising (decodeStatuses answer.statuses operations)

def freeBatch (batch : Int) (answer : Answer) : Native Region Unit := do
  let batch ← raising (toHandle batch)
  call describes "free_batch" (.freeBatch batch) answer
  let batches ← raising (delete (← get).native.batches batch)
  update fun native => { native with batches := batches }

def close (answer : Answer) : Native Region Unit := do
  if ¬(← get).native.closed then
    call describes "destroy_engine" .destroyEngine answer
    update fun native => { native with
      closed := true
      memories := ∅
      remoteMemories := ∅
      batches := ∅
      peers := ∅ }

end NativeEngine

/-- The operations of the adapter, with the arguments that the caller chooses. -/
inductive NativeOperation where
  | registerLocalMemory (memory : Memory) (access : Int)
  | deregisterLocalMemory (memory : Int)
  | importRemoteMemory (peer : Int) (metadata : Bytes)
  | removeRemoteMemory (remoteMemory : Int)
  | createPeer
  | connectPeer (peer : Int) (metadata : Bytes)
  | destroyPeer (peer : Int)
  | submitTransfer (requests : List Request)
  | getTransferStatuses (batch : Int)
  | freeBatch (batch : Int)
  | close

section

variable {Region : Type} [DecidableEq Region] (describes : Bytes → Option Region)

/-- The operation when the C engine answers its call by `answer`, less what it returns. -/
def NativeOperation.run (answer : Answer) : NativeOperation → Native Region Unit
  | .registerLocalMemory memory access =>
      (fun _ => ()) <$> NativeEngine.registerLocalMemory describes memory access answer
  | .deregisterLocalMemory memory =>
      NativeEngine.deregisterLocalMemory describes memory answer
  | .importRemoteMemory peer metadata =>
      (fun _ => ()) <$> NativeEngine.importRemoteMemory describes peer metadata answer
  | .removeRemoteMemory remoteMemory =>
      NativeEngine.removeRemoteMemory describes remoteMemory answer
  | .createPeer => (fun _ => ()) <$> NativeEngine.createPeer describes answer
  | .connectPeer peer metadata => NativeEngine.connectPeer describes peer metadata answer
  | .destroyPeer peer => NativeEngine.destroyPeer describes peer answer
  | .submitTransfer requests =>
      (fun _ => ()) <$> NativeEngine.submitTransfer describes requests answer
  | .getTransferStatuses batch =>
      (fun _ => ()) <$> NativeEngine.getTransferStatuses describes batch answer
  | .freeBatch batch => NativeEngine.freeBatch describes batch answer
  | .close => NativeEngine.close describes answer

/-- The runs of one adapter over any C engine: a label is an operation with the answer of the C
engine, and an answer that the header rules out has no successor. -/
def nativeSystem : LabelledSystem (World Region) (NativeOperation × Answer) where
  Initial world := world = {}
  step world label :=
    match (label.1.run describes label.2).run world with
    | .ok _ after => some after
    | .error (.raised _) after => some after
    | .error .broken _ => none

end

end Rdma101.Abi
