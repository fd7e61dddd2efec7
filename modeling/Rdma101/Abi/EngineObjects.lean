/-
Module: Rdma101.Abi.EngineObjects
Purpose: The engine behind an adapter, in its own types, as far as it keeps the contracts of the C
  API, and how a call of the Python adapter reaches it: the pointers that cffi passes, and what the
  caller reads back once the function has returned.
Trusted boundary: human-reviewed statement of the contracts of transfer_engine.h and
  cpp/engine.hpp, and of the calls in native_engine.py
Main exports: EngineReply, Cpp.Reply.meaning, Rust.Reply.meaning, EngineObjects,
  EngineObjects.accept, Frame, CCall.marshal, Frame.answer
-/
import Rdma101.Abi.Atomic
import Rdma101.Abi.CEngine

namespace Rdma101.Abi

/-! ### The contract of an engine

What `engine.hpp` and the documentation of the Rust trait promise, operation by operation, on
the objects that the engine holds.  Replies in either language are read as one record, so that
there is one contract. -/

/-- What a reply means, in either language.  A status that is no status, such as a failure without
an error, has no content. -/
structure EngineReply where
  error : Option ErrorCode
  handle : UInt64
  metadata : Span
  statuses : Nat → Option TransferStatus

def Cpp.Reply.meaning (reply : Cpp.Reply) : EngineReply where
  error := reply.result.errorCode?
  handle := reply.handle
  metadata := reply.metadata
  statuses index := (reply.statuses index).toPython? Cpp.ResultCode.errorCode?

/-- An error comes without a value. -/
def Rust.Reply.meaning (reply : Rust.Reply) : EngineReply where
  error := match reply.result with
    | .error error => some error.errorCode
    | .ok _ => none
  handle := match reply.result with
    | .error _ => 0
    | .ok value => value.handle
  metadata := match reply.result with
    | .error _ => ⟨0, 0⟩
    | .ok value => value.metadata
  statuses index := (reply.statuses index).toPython? fun error => some error.errorCode

/-- A live registration: its range, and the metadata that describes it. -/
structure Registration where
  address : UInt64
  length : UInt64
  metadata : Bytes
deriving DecidableEq

/-- The ranges have a byte in common. -/
def Registration.Overlaps (registration : Registration) (address length : UInt64) : Prop :=
  address.toNat < registration.address.toNat + registration.length.toNat ∧
    registration.address.toNat < address.toNat + length.toNat

instance (registration : Registration) (address length : UInt64) :
    Decidable (registration.Overlaps address length) :=
  inferInstanceAs (Decidable (_ ∧ _))

/-- The objects that an engine holds. -/
structure EngineObjects (Region : Type) where
  registrations : HandleTable Registration := ∅
  imports : HandleTable (Handle × Region) := ∅
  peers : HandleTable Unit := ∅
  connected : List Handle := []
  batches : HandleTable (List Native.Request) := ∅

namespace EngineObjects

variable {Region : Type} [DecidableEq Region]

def importOf (objects : EngineObjects Region) (peer : Handle) (region : Region) :
    Option Handle :=
  (objects.imports.live.entries.find? fun entry => entry.2 = (peer, region)).map Prod.fst

/-- What a successful operation leaves, if its contract allows this reply.  `reads` gives the bytes
of a span; `none` inside is an engine that is gone. -/
def succeed (describes : Bytes → Option Region) (reads : Span → Bytes)
    (objects : EngineObjects Region) (reply : EngineReply) :
    EngineCall → Option (Option (EngineObjects Region))
  | .create _ => none
  | .destroy _ => some none
  | .registerLocalMemory _ address length _ => do
      guard (reply.metadata.data ≠ 0 ∧ reads reply.metadata ≠ [] ∧
        address.toNat + length.toNat ≤ 2 ^ 64 ∧
        ∀ registered ∈ objects.registrations.live.values, ¬registered.Overlaps address length)
      if fresh : objects.registrations.Fresh reply.handle.toNat then
        return some { objects with
          registrations := objects.registrations.add reply.handle.toNat
            ⟨address, length, reads reply.metadata⟩ fresh }
      else none
  | .deregisterLocalMemory _ memory => do
      guard (objects.registrations.get? memory.toNat).isSome
      return some { objects with registrations := objects.registrations.remove memory.toNat }
  | .importRemoteMemory _ peer metadata => do
      let region ← describes (reads metadata)
      guard ((objects.peers.get? peer.toNat).isSome ∧ peer.toNat ∈ objects.connected)
      match objects.importOf peer.toNat region with
      | some existing => do
          guard (reply.handle.toNat = existing)
          return some objects
      | none =>
          if fresh : objects.imports.Fresh reply.handle.toNat then
            return some { objects with
              imports := objects.imports.add reply.handle.toNat (peer.toNat, region) fresh }
          else none
  | .removeRemoteMemory _ remoteMemory => do
      guard (objects.imports.get? remoteMemory.toNat).isSome
      return some { objects with imports := objects.imports.remove remoteMemory.toNat }
  | .createPeer _ => do
      guard (reply.metadata.data ≠ 0 ∧ reads reply.metadata ≠ [])
      if fresh : objects.peers.Fresh reply.handle.toNat then
        return some { objects with peers := objects.peers.add reply.handle.toNat () fresh }
      else none
  | .connectPeer _ peer _ => do
      guard ((objects.peers.get? peer.toNat).isSome ∧ peer.toNat ∉ objects.connected)
      return some { objects with connected := peer.toNat :: objects.connected }
  | .destroyPeer _ peer => do
      guard (objects.peers.get? peer.toNat).isSome
      return some { objects with
        peers := objects.peers.remove peer.toNat
        imports := objects.imports.filter fun entry => entry.1 ≠ peer.toNat }
  | .submitTransfer _ requests => do
      guard (∀ request ∈ requests, (objects.peers.get? request.peer.toNat).isSome)
      if fresh : objects.batches.Fresh reply.handle.toNat then
        return some { objects with
          batches := objects.batches.add reply.handle.toNat requests fresh }
      else none
  | .getTransferStatuses _ batch count => do
      let requests ← objects.batches.get? batch.toNat
      guard (count = requests.length)
      return some objects
  | .freeBatch _ batch => do
      guard (objects.batches.get? batch.toNat).isSome
      return some { objects with batches := objects.batches.remove batch.toNat }

/-- The engine after an operation with this reply, or `none` where the contract rules it out.  An
operation that failed changed nothing; a destructor cannot fail. -/
def accept (describes : Bytes → Option Region) (reads : Span → Bytes)
    (objects : EngineObjects Region) (call : EngineCall) (reply : EngineReply) :
    Option (Option (EngineObjects Region)) :=
  match call, reply.error with
  | .destroy _, _ | _, none => objects.succeed describes reads reply call
  | _, some _ => some (some objects)

end EngineObjects

/-! ### A call of the Python adapter

How cffi makes the call: outputs are words of their own, zeroed, an argument of bytes or of
entries is one buffer, and a handle that is closed is null. -/

/-- The pointers of a call, and the memory that they refer to.  The outputs are separate zeroed
words, `array` holds the entries of a request or status array, and `input` the bytes of an
argument. -/
structure Frame where
  engine : UInt64
  first : UInt64
  second : UInt64
  third : UInt64
  array : UInt64
  input : UInt64
  reads : Span → Bytes
  nonnull : engine ≠ 0 ∧ first ≠ 0 ∧ second ≠ 0 ∧ third ≠ 0 ∧ array ≠ 0 ∧ input ≠ 0
  distinct : first ≠ second ∧ first ≠ third ∧ second ≠ third
  aligned : array.toNat % 8 = 0
  whole : ∀ span, (reads span).length = span.size.toNat

/-- An unused descriptor. -/
def R101Request.zero : R101Request where
  peer := 0
  opcode := 0
  flags := 0
  localAddress := 0
  length := 0
  args := .zero

/-- The call that cffi makes; a closed handle is null. -/
def CCall.marshal (frame : Frame) (isOpen : Bool) (function : CCall) : R101Call :=
  let engine := if isOpen then frame.engine else 0
  match function with
  | .registerLocalMemory memory access =>
      .registerLocalMemory engine (castPointer memory.address) (.ofNat memory.size) access
        frame.first frame.second frame.third
  | .deregisterLocalMemory memory => .deregisterLocalMemory engine (.ofNat memory)
  | .importRemoteMemory peer metadata =>
      .importRemoteMemory engine (.ofNat peer) frame.input (.ofNat metadata.length) frame.first
  | .removeRemoteMemory remoteMemory => .removeRemoteMemory engine (.ofNat remoteMemory)
  | .createPeer => .createPeer engine frame.first frame.second frame.third
  | .connectPeer peer metadata =>
      .connectPeer engine (.ofNat peer) frame.input (.ofNat metadata.length)
  | .destroyPeer peer => .destroyPeer engine (.ofNat peer)
  | .submitTransfer requests =>
      .submitTransfer engine frame.array (fun index => requests[index]?.getD .zero)
        (.ofNat requests.length) frame.first
  | .getTransferStatuses batch count =>
      .getTransferStatuses engine (.ofNat batch) frame.array (.ofNat count)
  | .freeBatch batch => .freeBatch engine (.ofNat batch)
  | .destroyEngine => .destroyEngine engine

/-- The entries of a status array. -/
def CCall.statusCount : CCall → Nat
  | .getTransferStatuses _ count => count
  | _ => 0

/-- What the caller reads back; it is gone when the process has aborted. -/
def Frame.answer (frame : Frame) (function : CCall) (outcome : Outcome) : Option Answer :=
  outcome.result.map fun code =>
    let word pointer := (lastWord pointer outcome.writes).getD 0
    { code := code
      handle := (word frame.first).toNat
      metadata :=
        if word frame.second = 0 ∨ word frame.third = 0 then none
        else some (frame.reads ⟨word frame.second, word frame.third⟩)
      statuses := filled frame.array (.replicate function.statusCount R101TransferStatus.zero)
        outcome.writes }

/-- The arguments are as the Python adapter passes them: handles that fit, ranges and arrays within
the address space, and the bytes of an argument where `input` points. -/
def CCall.Passes (frame : Frame) : CCall → Prop
  | .registerLocalMemory memory _ => memory.address < 2 ^ 64 ∧ memory.size < 2 ^ 64
  | .deregisterLocalMemory handle | .removeRemoteMemory handle | .destroyPeer handle
  | .freeBatch handle => handle < 2 ^ 64
  | .importRemoteMemory peer metadata | .connectPeer peer metadata =>
      peer < 2 ^ 64 ∧ metadata ≠ [] ∧ frame.reads ⟨frame.input, .ofNat metadata.length⟩ = metadata
  | .submitTransfer requests => requests.length < 2 ^ 64
  | .getTransferStatuses batch count => batch < 2 ^ 64 ∧ count < 2 ^ 64
  | .createPeer | .destroyEngine => True

end Rdma101.Abi
