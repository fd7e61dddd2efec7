/-
Module: Rdma101.Abi.Adapters
Purpose: The functions of the C API three times: the C++ and the Rust adapter in front of their
  engines, and the argument checks of the C template.  Each function is given by what it returns,
  what it writes and which calls of the engine it makes.
Trusted boundary: human-reviewed translation of cpp/ffi.cpp, rust/src/ffi.rs and c/engine.c on a
  64-bit host
Main exports: R101Call, EngineCall, Outcome, Cpp.run, Rust.run, C.run
-/
import Rdma101.Abi.Requests
import Rdma101.Abi.Statuses

namespace Rdma101.Abi

namespace R101

def abiVersion : UInt32 := 1

def localWrite : UInt32 := 1
def remoteWrite : UInt32 := 2
def remoteRead : UInt32 := 4
def remoteAtomic : UInt32 := 8

end R101

/-- The number inside the `MemoryAccess` of both engines. -/
abbrev MemoryAccess := UInt32

namespace MemoryAccess

def none : MemoryAccess := 0
def localWrite : MemoryAccess := 1
def remoteWrite : MemoryAccess := 2
def remoteRead : MemoryAccess := 4
def remoteAtomic : MemoryAccess := 8

end MemoryAccess

/-! ### Calls, replies and outcomes

A call of the C API is its arguments, with pointers as numbers; an outcome is the result code,
the assignments through output pointers in their order, and the calls of the engine that were
made.  The order of the assignments matters: outputs are cleared before the remaining checks,
and pointers may alias. -/

/-- `r101_config`; `device` holds the bytes of the name up to its NUL. -/
structure R101Config where
  abiVersion : UInt32
  port : UInt32
  gidIndex : UInt32
  device : Option Bytes
deriving DecidableEq

/-- The `Config` of both engines; a Rust `String` is its bytes. -/
structure Config where
  port : UInt32
  gidIndex : UInt32
  device : Option Bytes
deriving DecidableEq

/-- A borrowed array: `std::span` or a slice. -/
structure Span where
  data : UInt64
  size : UInt64
deriving DecidableEq

/-- A call with its arguments.  Pointers are numbers, and null is 0.  What an input pointer refers
to is given by its contents at the time of reading, which comes after the outputs are cleared. -/
inductive R101Call where
  | createEngine (config : Option R101Config) (engine : UInt64)
  | destroyEngine (engine : UInt64)
  | registerLocalMemory (engine address length : UInt64) (access : UInt32)
      (memory metadata metadataSize : UInt64)
  | deregisterLocalMemory (engine memory : UInt64)
  | importRemoteMemory (engine peer metadata metadataSize remoteMemory : UInt64)
  | removeRemoteMemory (engine remoteMemory : UInt64)
  | createPeer (engine peer metadata metadataSize : UInt64)
  | connectPeer (engine peer metadata metadataSize : UInt64)
  | destroyPeer (engine peer : UInt64)
  | submitTransfer (engine requests : UInt64) (entries : Nat → R101Request)
      (count batch : UInt64)
  | getTransferStatuses (engine batch statuses count : UInt64)
  | freeBatch (engine batch : UInt64)

/-- A call of the engine with its decoded arguments. -/
inductive EngineCall where
  | create (config : Config)
  | destroy (engine : UInt64)
  | registerLocalMemory (engine address length : UInt64) (access : MemoryAccess)
  | deregisterLocalMemory (engine memory : UInt64)
  | importRemoteMemory (engine peer : UInt64) (metadata : Span)
  | removeRemoteMemory (engine remoteMemory : UInt64)
  | createPeer (engine : UInt64)
  | connectPeer (engine peer : UInt64) (metadata : Span)
  | destroyPeer (engine peer : UInt64)
  | submitTransfer (engine : UInt64) (requests : List Native.Request)
  | getTransferStatuses (engine batch : UInt64) (count : Nat)
  | freeBatch (engine batch : UInt64)
deriving DecidableEq

/-- What an operation of the C++ engine returns and leaves in its out-parameters: the handle or the
created engine, the metadata, and the statuses at each index. -/
structure Cpp.Reply where
  result : Cpp.ResultCode
  handle : UInt64
  metadata : Span
  statuses : Nat → Native.TransferStatus Cpp.ResultCode

/-- The value of a successful operation of the Rust engine. -/
structure Rust.Value where
  handle : UInt64
  metadata : Span

/-- The statuses are in an array of the adapter, also when the operation fails. -/
structure Rust.Reply where
  result : Except Rust.Error Rust.Value
  statuses : Nat → Native.TransferStatus Rust.Error

/-- One call of an engine; there is no reply when it throws, or panics. -/
abbrev Cpp.Engine := EngineCall → Option Cpp.Reply

abbrev Rust.Engine := EngineCall → Option Rust.Reply

/-- An assignment through an output pointer, or to an entry of the caller's array. -/
inductive Write where
  | word (pointer value : UInt64)
  | status (array : UInt64) (index : Nat) (value : R101TransferStatus)
deriving DecidableEq

/-- There is no result when the process aborts. -/
structure Outcome where
  result : Option Int32
  writes : List Write
  calls : List EngineCall
deriving DecidableEq

/-- A return before the engine is called. -/
def Outcome.early (result : Int32) (writes : List Write) : Outcome := ⟨some result, writes, []⟩

/-- `*pointer = 0` for each of these. -/
def clear (pointers : List UInt64) : List Write := pointers.map (.word · 0)

def ptrdiffMax : Nat := 2 ^ 63 - 1

/-- The contents of an array of this length. -/
def contents {α : Type} (entries : Nat → α) (count : Nat) : List α := (List.range count).map entries

/-- Nothing to write. -/
def commitNothing : UInt64 → Span → List Write := fun _ _ => []

def commitHandle (pointer : UInt64) : UInt64 → Span → List Write :=
  fun handle _ => [.word pointer handle]

def commitMetadata (pointer metadata metadataSize : UInt64) : UInt64 → Span → List Write :=
  fun handle span => [.word pointer handle, .word metadata span.data, .word metadataSize span.size]

/-! ### The C++ adapter

One definition for each `extern "C"` function of `ffi.cpp`, with its checks in the order of the
source.  `enter` is the lambda that `call` runs; `call` prints an exception of the engine and
aborts, so there is no result then. -/

namespace Cpp

/-- `valid_array`. -/
def validArray (size alignment : Nat) (data count : UInt64) : Bool :=
  data ≠ 0 && 0 < count && count.toNat ≤ ptrdiffMax / size && data.toNat % alignment = 0

def decodeAccess (flags : UInt32) : Option MemoryAccess :=
  let known := R101.localWrite ||| R101.remoteWrite ||| R101.remoteRead ||| R101.remoteAtomic
  if flags &&& ~~~known ≠ 0 then none
  else
    let access := MemoryAccess.none
    let access :=
      if flags &&& R101.localWrite ≠ 0 then access ||| MemoryAccess.localWrite else access
    let access :=
      if flags &&& R101.remoteWrite ≠ 0 then access ||| MemoryAccess.remoteWrite else access
    let access :=
      if flags &&& R101.remoteRead ≠ 0 then access ||| MemoryAccess.remoteRead else access
    let access :=
      if flags &&& R101.remoteAtomic ≠ 0 then access ||| MemoryAccess.remoteAtomic else access
    some access

/-- An operation inside `call`, whose outputs are committed when it succeeds. -/
def enter (engine : Cpp.Engine) (call : EngineCall) (cleared : List Write)
    (commit : UInt64 → Span → List Write) : Outcome :=
  match engine call with
  | none => ⟨none, cleared, [call]⟩
  | some reply =>
      ⟨some (encodeResult reply.result),
        cleared ++ if reply.result = .ok then commit reply.handle reply.metadata else [], [call]⟩

section Functions

-- `allocates count` says that the vector or the string that a function needs, of `count`
-- elements, is within `max_size` and that its storage is found.
variable (allocates : Nat → Bool) (native : Cpp.Engine)

def createEngine (config : Option R101Config) (engine : UInt64) : Outcome :=
  if engine = 0 then .early R101.invalid []
  else match config with
    | none => .early R101.invalid (clear [engine])
    | some config =>
        if config.abiVersion ≠ R101.abiVersion then .early R101.invalid (clear [engine])
        else if (config.device.map fun name => allocates name.length) = some false then
          .early R101.noMemory (clear [engine])
        else
          enter native (.create ⟨config.port, config.gidIndex, config.device⟩) (clear [engine])
            (commitHandle engine)

/-- The destructor has no result. -/
def destroyEngine (engine : UInt64) : Outcome :=
  if engine = 0 then .early R101.invalid []
  else ⟨(native (.destroy engine)).map fun _ => R101.ok, [], [.destroy engine]⟩

def registerLocalMemory (engine address length : UInt64) (access : UInt32)
    (memory metadata metadataSize : UInt64) : Outcome :=
  if memory = 0 ∨ metadata = 0 ∨ metadataSize = 0 then .early R101.invalid []
  else
    let cleared := clear [memory, metadata, metadataSize]
    if engine = 0 ∨ validArray 1 1 address length = false then .early R101.invalid cleared
    else match decodeAccess access with
      | none => .early R101.invalid cleared
      | some access =>
          enter native (.registerLocalMemory engine address length access) cleared
            (commitMetadata memory metadata metadataSize)

def deregisterLocalMemory (engine memory : UInt64) : Outcome :=
  if engine = 0 ∨ memory = 0 then .early R101.invalid []
  else enter native (.deregisterLocalMemory engine memory) [] commitNothing

def importRemoteMemory (engine peer metadata metadataSize remoteMemory : UInt64) : Outcome :=
  if remoteMemory = 0 then .early R101.invalid []
  else
    let cleared := clear [remoteMemory]
    if engine = 0 ∨ peer = 0 ∨ validArray 1 1 metadata metadataSize = false then
      .early R101.invalid cleared
    else
      enter native (.importRemoteMemory engine peer ⟨metadata, metadataSize⟩) cleared
        (commitHandle remoteMemory)

def removeRemoteMemory (engine remoteMemory : UInt64) : Outcome :=
  if engine = 0 ∨ remoteMemory = 0 then .early R101.invalid []
  else enter native (.removeRemoteMemory engine remoteMemory) [] commitNothing

def createPeer (engine peer metadata metadataSize : UInt64) : Outcome :=
  if peer = 0 ∨ metadata = 0 ∨ metadataSize = 0 then .early R101.invalid []
  else
    let cleared := clear [peer, metadata, metadataSize]
    if engine = 0 then .early R101.invalid cleared
    else enter native (.createPeer engine) cleared (commitMetadata peer metadata metadataSize)

def connectPeer (engine peer metadata metadataSize : UInt64) : Outcome :=
  if engine = 0 ∨ peer = 0 ∨ validArray 1 1 metadata metadataSize = false then
    .early R101.invalid []
  else enter native (.connectPeer engine peer ⟨metadata, metadataSize⟩) [] commitNothing

def destroyPeer (engine peer : UInt64) : Outcome :=
  if engine = 0 ∨ peer = 0 then .early R101.invalid []
  else enter native (.destroyPeer engine peer) [] commitNothing

def submitTransfer (engine requests : UInt64) (entries : Nat → R101Request)
    (count batch : UInt64) : Outcome :=
  if batch = 0 then .early R101.invalid []
  else
    let cleared := clear [batch]
    if engine = 0 ∨ validArray 56 8 requests count = false then .early R101.invalid cleared
    else if allocates count.toNat = false then .early R101.noMemory cleared
    else match (contents entries count.toNat).mapM decodeRequest with
      | none => .early R101.invalid cleared
      | some requests =>
          enter native (.submitTransfer engine requests) cleared (commitHandle batch)

/-- The loop that fills the caller's array, from `index` on. -/
def commitStatuses (array : UInt64) :
    Nat → List (Native.TransferStatus ResultCode) → Option Int32 × List Write
  | _, [] => (some R101.ok, [])
  | index, status :: rest =>
      match encodeStatus status with
      | none => (none, [])
      | some value =>
          let later := commitStatuses array (index + 1) rest
          (later.1, .status array index value :: later.2)

def getTransferStatuses (engine batch statuses count : UInt64) : Outcome :=
  if engine = 0 ∨ batch = 0 ∨ validArray 24 8 statuses count = false then .early R101.invalid []
  else if allocates count.toNat = false then .early R101.noMemory []
  else
    let call := EngineCall.getTransferStatuses engine batch count.toNat
    match native call with
    | none => ⟨none, [], [call]⟩
    | some reply =>
        if reply.result ≠ .ok then ⟨some (encodeResult reply.result), [], [call]⟩
        else
          let committed := commitStatuses statuses 0 (contents reply.statuses count.toNat)
          ⟨committed.1, committed.2, [call]⟩

def freeBatch (engine batch : UInt64) : Outcome :=
  if engine = 0 ∨ batch = 0 then .early R101.invalid []
  else enter native (.freeBatch engine batch) [] commitNothing

def run : R101Call → Outcome
  | .createEngine config engine => createEngine allocates native config engine
  | .destroyEngine engine => destroyEngine native engine
  | .registerLocalMemory engine address length access memory metadata metadataSize =>
      registerLocalMemory native engine address length access memory metadata metadataSize
  | .deregisterLocalMemory engine memory => deregisterLocalMemory native engine memory
  | .importRemoteMemory engine peer metadata metadataSize remoteMemory =>
      importRemoteMemory native engine peer metadata metadataSize remoteMemory
  | .removeRemoteMemory engine remoteMemory => removeRemoteMemory native engine remoteMemory
  | .createPeer engine peer metadata metadataSize =>
      createPeer native engine peer metadata metadataSize
  | .connectPeer engine peer metadata metadataSize =>
      connectPeer native engine peer metadata metadataSize
  | .destroyPeer engine peer => destroyPeer native engine peer
  | .submitTransfer engine requests entries count batch =>
      submitTransfer allocates native engine requests entries count batch
  | .getTransferStatuses engine batch statuses count =>
      getTransferStatuses allocates native engine batch statuses count
  | .freeBatch engine batch => freeBatch native engine batch

end Functions

end Cpp

/-! ### The Rust adapter

The same functions of `ffi.rs`.  Here the checks that the source makes inside the closure are
part of what it prepares, and `?` returns from the closure: the outputs are committed only
behind all of them.  A panic aborts, since the functions do not unwind. -/

namespace Rust

/-- `array_len`. -/
def arrayLen (size alignment : Nat) (data count : UInt64) : Except Error UInt64 :=
  if data = 0 ∨ count = 0 ∨ ptrdiffMax / size < count.toNat ∨ data.toNat % alignment ≠ 0 then
    .error .invalid
  else .ok count

/-- `engine_mut`. -/
def engineMut (engine : UInt64) : Except Error UInt64 :=
  if engine = 0 then .error .invalid else .ok engine

/-- `CStr::to_str` succeeds. -/
def isUtf8 (name : Bytes) : Bool := ByteArray.validateUTF8 ⟨name.toArray⟩

def decodeAccess (flags : UInt32) : Except Error MemoryAccess :=
  let known := R101.localWrite ||| R101.remoteWrite ||| R101.remoteRead ||| R101.remoteAtomic
  if flags &&& ~~~known ≠ 0 then .error .invalid
  else
    .ok ([(R101.localWrite, MemoryAccess.localWrite), (R101.remoteWrite, MemoryAccess.remoteWrite),
      (R101.remoteRead, MemoryAccess.remoteRead),
      (R101.remoteAtomic, MemoryAccess.remoteAtomic)].foldl (fun access (flag, native) =>
        if flags &&& flag ≠ 0 then access ||| native else access) MemoryAccess.none)

/-- The closure inside `call`: what it prepares before it calls the engine, and the outputs that it
commits when the engine succeeds. -/
def enter (engine : Rust.Engine) (prepared : Except Error EngineCall) (cleared : List Write)
    (commit : UInt64 → Span → List Write) : Outcome :=
  match prepared with
  | .error error => .early (encodeError error) cleared
  | .ok call =>
      match engine call with
      | none => ⟨none, cleared, [call]⟩
      | some reply =>
          match reply.result with
          | .error error => ⟨some (encodeError error), cleared, [call]⟩
          | .ok value => ⟨some R101.ok, cleared ++ commit value.handle value.metadata, [call]⟩

section Functions

-- `allocates count` says that the storage for `count` elements or bytes is found.
variable (allocates : Nat → Bool) (native : Rust.Engine)

def decodeConfig (input : R101Config) : Except Error Config := do
  if input.abiVersion ≠ R101.abiVersion then throw .invalid
  match input.device with
  | none => pure ()
  | some name =>
      if isUtf8 name = false then throw .invalid
      if allocates name.length = false then throw .noMemory
  return ⟨input.port, input.gidIndex, input.device⟩

def createEngine (config : Option R101Config) (engine : UInt64) : Outcome :=
  if engine = 0 then .early R101.invalid []
  else match config with
    | none => .early R101.invalid (clear [engine])
    | some config =>
        enter native ((decodeConfig allocates config).map .create) (clear [engine])
          (commitHandle engine)

def destroyEngine (engine : UInt64) : Outcome :=
  if engine = 0 then .early R101.invalid []
  else ⟨(native (.destroy engine)).map fun _ => R101.ok, [], [.destroy engine]⟩

def registerLocalMemory (engine address length : UInt64) (access : UInt32)
    (memory metadata metadataSize : UInt64) : Outcome :=
  if memory = 0 ∨ metadata = 0 ∨ metadataSize = 0 then .early R101.invalid []
  else
    let prepared : Except Error EngineCall := do
      let length ← arrayLen 1 1 address length
      let engine ← engineMut engine
      let access ← decodeAccess access
      return .registerLocalMemory engine address length access
    enter native prepared (clear [memory, metadata, metadataSize])
      (commitMetadata memory metadata metadataSize)

def deregisterLocalMemory (engine memory : UInt64) : Outcome :=
  if memory = 0 then .early R101.invalid []
  else enter native ((engineMut engine).map (.deregisterLocalMemory · memory)) [] commitNothing

def importRemoteMemory (engine peer metadata metadataSize remoteMemory : UInt64) : Outcome :=
  if remoteMemory = 0 then .early R101.invalid []
  else if peer = 0 then .early R101.invalid (clear [remoteMemory])
  else
    let prepared : Except Error EngineCall := do
      let size ← arrayLen 1 1 metadata metadataSize
      let engine ← engineMut engine
      return .importRemoteMemory engine peer ⟨metadata, size⟩
    enter native prepared (clear [remoteMemory]) (commitHandle remoteMemory)

def removeRemoteMemory (engine remoteMemory : UInt64) : Outcome :=
  if remoteMemory = 0 then .early R101.invalid []
  else enter native ((engineMut engine).map (.removeRemoteMemory · remoteMemory)) [] commitNothing

def createPeer (engine peer metadata metadataSize : UInt64) : Outcome :=
  if peer = 0 ∨ metadata = 0 ∨ metadataSize = 0 then .early R101.invalid []
  else
    enter native ((engineMut engine).map .createPeer) (clear [peer, metadata, metadataSize])
      (commitMetadata peer metadata metadataSize)

def connectPeer (engine peer metadata metadataSize : UInt64) : Outcome :=
  if peer = 0 then .early R101.invalid []
  else
    let prepared : Except Error EngineCall := do
      let size ← arrayLen 1 1 metadata metadataSize
      let engine ← engineMut engine
      return .connectPeer engine peer ⟨metadata, size⟩
    enter native prepared [] commitNothing

def destroyPeer (engine peer : UInt64) : Outcome :=
  if peer = 0 then .early R101.invalid []
  else enter native ((engineMut engine).map (.destroyPeer · peer)) [] commitNothing

def submitTransfer (engine requests : UInt64) (entries : Nat → R101Request)
    (count batch : UInt64) : Outcome :=
  if batch = 0 then .early R101.invalid []
  else
    let prepared : Except Error EngineCall := do
      let count ← arrayLen 56 8 requests count
      let engine ← engineMut engine
      if allocates count.toNat = false then throw .noMemory
      let requests ← (contents entries count.toNat).mapM decodeRequest
      return .submitTransfer engine requests
    enter native prepared (clear [batch]) (commitHandle batch)

def getTransferStatuses (engine batch statuses count : UInt64) : Outcome :=
  if batch = 0 then .early R101.invalid []
  else
    let prepared : Except Error EngineCall := do
      let count ← arrayLen 24 8 statuses count
      let engine ← engineMut engine
      if allocates count.toNat = false then throw .noMemory
      return .getTransferStatuses engine batch count.toNat
    match prepared with
    | .error error => .early (encodeError error) []
    | .ok call =>
        match native call with
        | none => ⟨none, [], [call]⟩
        | some reply =>
            match reply.result with
            | .error error => ⟨some (encodeError error), [], [call]⟩
            | .ok _ =>
                ⟨some R101.ok, (contents reply.statuses count.toNat).zipIdx.map
                  fun (status, index) => .status statuses index (encodeStatus status), [call]⟩

def freeBatch (engine batch : UInt64) : Outcome :=
  if batch = 0 then .early R101.invalid []
  else enter native ((engineMut engine).map (.freeBatch · batch)) [] commitNothing

def run : R101Call → Outcome
  | .createEngine config engine => createEngine allocates native config engine
  | .destroyEngine engine => destroyEngine native engine
  | .registerLocalMemory engine address length access memory metadata metadataSize =>
      registerLocalMemory native engine address length access memory metadata metadataSize
  | .deregisterLocalMemory engine memory => deregisterLocalMemory native engine memory
  | .importRemoteMemory engine peer metadata metadataSize remoteMemory =>
      importRemoteMemory native engine peer metadata metadataSize remoteMemory
  | .removeRemoteMemory engine remoteMemory => removeRemoteMemory native engine remoteMemory
  | .createPeer engine peer metadata metadataSize =>
      createPeer native engine peer metadata metadataSize
  | .connectPeer engine peer metadata metadataSize =>
      connectPeer native engine peer metadata metadataSize
  | .destroyPeer engine peer => destroyPeer native engine peer
  | .submitTransfer engine requests entries count batch =>
      submitTransfer allocates native engine requests entries count batch
  | .getTransferStatuses engine batch statuses count =>
      getTransferStatuses allocates native engine batch statuses count
  | .freeBatch engine batch => freeBatch native engine batch

end Functions

end Rust

/-! ### The C template

The template of the labs has the checks and no engine: what passes them is answered with
`R101_UNIMPLEMENTED`. -/

namespace C

/-- `valid_array`. -/
def validArray (data count : UInt64) (size alignment : Nat) : Bool :=
  data ≠ 0 && 0 < count && count.toNat ≤ ptrdiffMax / size && data.toNat % alignment = 0

def createEngine (config : Option R101Config) (engine : UInt64) : Outcome :=
  if engine = 0 then .early R101.invalid []
  else match config with
    | none => .early R101.invalid (clear [engine])
    | some config =>
        if config.abiVersion ≠ R101.abiVersion then .early R101.invalid (clear [engine])
        else .early R101.unimplemented (clear [engine])

def destroyEngine (engine : UInt64) : Outcome :=
  if engine = 0 then .early R101.invalid [] else .early R101.unimplemented []

def registerLocalMemory (engine address length : UInt64) (access : UInt32)
    (memory metadata metadataSize : UInt64) : Outcome :=
  if memory = 0 ∨ metadata = 0 ∨ metadataSize = 0 then .early R101.invalid []
  else
    let cleared := clear [memory, metadata, metadataSize]
    let known := R101.localWrite ||| R101.remoteWrite ||| R101.remoteRead ||| R101.remoteAtomic
    if engine = 0 ∨ validArray address length 1 1 = false ∨ access &&& ~~~known ≠ 0 then
      .early R101.invalid cleared
    else .early R101.unimplemented cleared

def deregisterLocalMemory (engine memory : UInt64) : Outcome :=
  if engine = 0 ∨ memory = 0 then .early R101.invalid [] else .early R101.unimplemented []

def importRemoteMemory (engine peer metadata metadataSize remoteMemory : UInt64) : Outcome :=
  if remoteMemory = 0 then .early R101.invalid []
  else if engine = 0 ∨ peer = 0 ∨ validArray metadata metadataSize 1 1 = false then
    .early R101.invalid (clear [remoteMemory])
  else .early R101.unimplemented (clear [remoteMemory])

def removeRemoteMemory (engine remoteMemory : UInt64) : Outcome :=
  if engine = 0 ∨ remoteMemory = 0 then .early R101.invalid [] else .early R101.unimplemented []

def createPeer (engine peer metadata metadataSize : UInt64) : Outcome :=
  if peer = 0 ∨ metadata = 0 ∨ metadataSize = 0 then .early R101.invalid []
  else if engine = 0 then .early R101.invalid (clear [peer, metadata, metadataSize])
  else .early R101.unimplemented (clear [peer, metadata, metadataSize])

def connectPeer (engine peer metadata metadataSize : UInt64) : Outcome :=
  if engine = 0 ∨ peer = 0 ∨ validArray metadata metadataSize 1 1 = false then
    .early R101.invalid []
  else .early R101.unimplemented []

def destroyPeer (engine peer : UInt64) : Outcome :=
  if engine = 0 ∨ peer = 0 then .early R101.invalid [] else .early R101.unimplemented []

/-- One round of the loop of `r101_submit_transfer` does not return. -/
def passes (request : R101Request) : Bool :=
  if request.flags ≠ 0 ∧ request.flags ≠ R101.inline then false
  else if request.flags = R101.inline ∧ request.opcode ≠ R101.write ∧
      request.opcode ≠ R101.send ∧ request.opcode ≠ R101.writeImm then false
  else request.opcode ∈ [R101.write, R101.read, R101.send, R101.recv, R101.writeImm,
    R101.compareSwap, R101.fetchAdd]

def submitTransfer (engine requests : UInt64) (entries : Nat → R101Request)
    (count batch : UInt64) : Outcome :=
  if batch = 0 then .early R101.invalid []
  else if engine = 0 ∨ validArray requests count 56 8 = false then
    .early R101.invalid (clear [batch])
  else if (contents entries count.toNat).all passes then .early R101.unimplemented (clear [batch])
  else .early R101.invalid (clear [batch])

def getTransferStatuses (engine batch statuses count : UInt64) : Outcome :=
  if engine = 0 ∨ batch = 0 ∨ validArray statuses count 24 8 = false then .early R101.invalid []
  else .early R101.unimplemented []

def freeBatch (engine batch : UInt64) : Outcome :=
  if engine = 0 ∨ batch = 0 then .early R101.invalid [] else .early R101.unimplemented []

def run : R101Call → Outcome
  | .createEngine config engine => createEngine config engine
  | .destroyEngine engine => destroyEngine engine
  | .registerLocalMemory engine address length access memory metadata metadataSize =>
      registerLocalMemory engine address length access memory metadata metadataSize
  | .deregisterLocalMemory engine memory => deregisterLocalMemory engine memory
  | .importRemoteMemory engine peer metadata metadataSize remoteMemory =>
      importRemoteMemory engine peer metadata metadataSize remoteMemory
  | .removeRemoteMemory engine remoteMemory => removeRemoteMemory engine remoteMemory
  | .createPeer engine peer metadata metadataSize => createPeer engine peer metadata metadataSize
  | .connectPeer engine peer metadata metadataSize => connectPeer engine peer metadata metadataSize
  | .destroyPeer engine peer => destroyPeer engine peer
  | .submitTransfer engine requests entries count batch =>
      submitTransfer engine requests entries count batch
  | .getTransferStatuses engine batch statuses count =>
      getTransferStatuses engine batch statuses count
  | .freeBatch engine batch => freeBatch engine batch

end C

end Rdma101.Abi
