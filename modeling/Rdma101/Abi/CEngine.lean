/-
Module: Rdma101.Abi.CEngine
Purpose: Any engine behind the C API, as far as its header promises: what is live, which answers
  a call may have, and what a call that succeeded changes.  Any call may fail at any time, and a
  call that failed changed nothing.
Trusted boundary: human-reviewed statement of the contracts of transfer_engine.h
Main exports: Memory, CCall, Answer, CEngine, CEngine.accept
-/
import Rdma101.Abi.Header
import Rdma101.Lib.HandleTable

namespace Rdma101.Abi

/-- Application-owned storage; `storage` is the identity of the Python object. -/
structure Memory where
  storage : Nat
  address : Nat
  size : Nat
  positive : 0 < size
deriving DecidableEq

/-- The ranges of two buffers have a byte in common. -/
def Memory.Overlaps (first second : Memory) : Prop :=
  first.address < second.address + second.size ∧ second.address < first.address + first.size

instance (first second : Memory) : Decidable (first.Overlaps second) :=
  inferInstanceAs (Decidable (_ ∧ _))

/-- A call of the C API with its arguments, less the engine and the outputs.  The address range
of a registration is that of the Python object it points into. -/
inductive CCall where
  | registerLocalMemory (memory : Memory) (access : UInt32)
  | deregisterLocalMemory (memory : Handle)
  | importRemoteMemory (peer : Handle) (metadata : Bytes)
  | removeRemoteMemory (remoteMemory : Handle)
  | createPeer
  | connectPeer (peer : Handle) (metadata : Bytes)
  | destroyPeer (peer : Handle)
  | submitTransfer (requests : List R101Request)
  | getTransferStatuses (batch : Handle) (count : Nat)
  | freeBatch (batch : Handle)
  | destroyEngine
deriving DecidableEq

/-- The result code and the outputs; a null metadata pointer is `none`. -/
structure Answer where
  code : Int32
  handle : Handle := 0
  metadata : Option Bytes := none
  statuses : List R101TransferStatus := []
deriving DecidableEq

/-- `describes` is the registration that imported metadata stands for, if it is well formed. -/
structure CEngine (Region : Type) where
  registrations : HandleTable (Memory × Bytes) := ∅
  /-- The peer that owns the import, and what was imported. -/
  imports : HandleTable (Handle × Region) := ∅
  peers : HandleTable Unit := ∅
  connected : List Handle := []
  /-- The opcodes of the tasks, in submission order. -/
  batches : HandleTable (List UInt32) := ∅

namespace CEngine

variable {Region : Type} [DecidableEq Region]

/-- The live import of a registration for a peer. -/
def importOf (engine : CEngine Region) (peer : Handle) (region : Region) : Option Handle :=
  (engine.imports.live.entries.find? fun entry => entry.2 = (peer, region)).map Prod.fst

/-- What a successful call leaves, if the header allows the call to succeed with this answer;
`none` inside is an engine that is gone. -/
def succeed (describes : Bytes → Option Region) (engine : CEngine Region) (answer : Answer) :
    CCall → Option (Option (CEngine Region))
  | .registerLocalMemory memory _ => do
      let metadata ← answer.metadata
      guard (metadata ≠ [] ∧ memory.address + memory.size ≤ 2 ^ 64 ∧
        ∀ registered ∈ engine.registrations.live.values, ¬memory.Overlaps registered.1)
      if fresh : engine.registrations.Fresh answer.handle then
        return some { engine with
          registrations := engine.registrations.add answer.handle (memory, metadata) fresh }
      else none
  | .deregisterLocalMemory memory => do
      guard (engine.registrations.get? memory).isSome
      return some { engine with registrations := engine.registrations.remove memory }
  | .importRemoteMemory peer metadata => do
      let region ← describes metadata
      guard ((engine.peers.get? peer).isSome ∧ peer ∈ engine.connected)
      match engine.importOf peer region with
      | some existing => do
          guard (answer.handle = existing)
          return some engine
      | none =>
          if fresh : engine.imports.Fresh answer.handle then
            return some { engine with
              imports := engine.imports.add answer.handle (peer, region) fresh }
          else none
  | .removeRemoteMemory remoteMemory => do
      guard (engine.imports.get? remoteMemory).isSome
      return some { engine with imports := engine.imports.remove remoteMemory }
  | .createPeer => do
      let metadata ← answer.metadata
      guard (metadata ≠ [])
      if fresh : engine.peers.Fresh answer.handle then
        return some { engine with peers := engine.peers.add answer.handle () fresh }
      else none
  | .connectPeer peer metadata => do
      guard (metadata ≠ [] ∧ (engine.peers.get? peer).isSome ∧ peer ∉ engine.connected)
      return some { engine with connected := peer :: engine.connected }
  | .destroyPeer peer => do
      guard (engine.peers.get? peer).isSome
      return some { engine with
        peers := engine.peers.remove peer
        imports := engine.imports.filter fun entry => entry.1 ≠ peer }
  | .submitTransfer requests => do
      guard (requests ≠ [] ∧
        ∀ request ∈ requests, (engine.peers.get? request.peer.toNat).isSome)
      if fresh : engine.batches.Fresh answer.handle then
        return some { engine with
          batches := engine.batches.add answer.handle (requests.map R101Request.opcode) fresh }
      else none
  | .getTransferStatuses batch count => do
      let tasks ← engine.batches.get? batch
      guard (count = tasks.length ∧ answer.statuses.length = count)
      return some engine
  | .freeBatch batch => do
      guard (engine.batches.get? batch).isSome
      return some { engine with batches := engine.batches.remove batch }
  | .destroyEngine => return none

/-- The engine after a call with this answer, or `none` where the header rules the answer out.  A
null engine rejects every call. -/
def accept (describes : Bytes → Option Region) (engine : Option (CEngine Region))
    (call : CCall) (answer : Answer) : Option (Option (CEngine Region)) :=
  match engine with
  | none => if answer.code = R101.invalid then some none else none
  | some live =>
      if answer.code = R101.ok then live.succeed describes answer call else some (some live)

end CEngine

end Rdma101.Abi
