/-
Module: Rdma101.Abi.Header
Purpose: The constants and the structures of the C API, with the union of the request arguments
  as shared storage, and the conversions of Python integers to C ones.
Trusted boundary: human-reviewed translation of transfer_engine.h; the union members lie as a
  little-endian 64-bit host lays them out
Main exports: R101.ok, R101.invalid, ErrorCode.toR101, errorCode, R101RequestArgs, R101Request,
  R101TransferStatus, toUInt64, toUInt32, castPointer
-/
import Rdma101.Abi.Values
import Rdma101.Lib.ByteStorage

namespace Rdma101

/-! ### Constants -/

namespace Abi.R101

def ok : Int32 := 0
def unimplemented : Int32 := -1
def invalid : Int32 := -2
def busy : Int32 := -3
def ioError : Int32 := -4
def timeout : Int32 := -5
def unsupported : Int32 := -6
def noMemory : Int32 := -7
def invalidState : Int32 := -8
def canceled : Int32 := -9

def pending : UInt32 := 0
def completed : UInt32 := 1
def failed : UInt32 := 2

def recvMessage : UInt32 := 1
def recvWriteImm : UInt32 := 2

def write : UInt32 := 1
def read : UInt32 := 2
def send : UInt32 := 3
def recv : UInt32 := 4
def writeImm : UInt32 := 5
def compareSwap : UInt32 := 6
def fetchAdd : UInt32 := 7

/-- The only request flag. -/
def inline : UInt32 := 1

end Abi.R101

open Abi

/-- `getattr(R101, code.name)`. -/
def ErrorCode.toR101 : ErrorCode → Int32
  | .unimplemented => R101.unimplemented
  | .invalid => R101.invalid
  | .busy => R101.busy
  | .ioError => R101.ioError
  | .timeout => R101.timeout
  | .unsupported => R101.unsupported
  | .noMemory => R101.noMemory
  | .invalidState => R101.invalidState
  | .canceled => R101.canceled

/-- The members of the enumeration, in order. -/
def ErrorCode.members : List ErrorCode :=
  [.unimplemented, .invalid, .busy, .ioError, .timeout, .unsupported, .noMemory, .invalidState,
    .canceled]

namespace Abi

/-- `_error_code`: look the value up in the codes of the members. -/
def errorCode (value : Int32) : Except Raised ErrorCode :=
  match ErrorCode.members.find? fun code => code.toR101 = value with
  | some code => .ok code
  | none => .error (.runtimeError s!"unknown engine error code: {value.toInt}")

/-- `check`. -/
def check (operation : String) (code : Int32) : Except Raised Unit := do
  if code ≠ R101.ok then
    throw (.engineError operation (← errorCode code))

theorem errorCode_toR101 (code : ErrorCode) : errorCode code.toR101 = .ok code := by
  cases code <;> rfl

/-- Only the values of the members are known. -/
theorem errorCode_eq_ok_iff {value : Int32} {code : ErrorCode} :
    errorCode value = .ok code ↔ value = code.toR101 := by
  constructor
  · intro known
    unfold errorCode at known
    split at known
    · rename_i found search
      obtain rfl : found = code := by simpa using known
      have matched : found.toR101 = value := by simpa using List.find?_some search
      exact matched.symm
    · cases known
  · rintro rfl
    exact errorCode_toR101 code

/-! ### Structures

A union is the bytes of its largest member, so reading a member that was not written is defined
here as it is in memory.  Entries are built from zeroed storage, as cffi does. -/

structure R101Rma where
  remoteAddress : UInt64
deriving DecidableEq

structure R101WriteImm where
  remoteAddress : UInt64
  immediate : UInt32
deriving DecidableEq

structure R101Atomic where
  remoteAddress : UInt64
  compare : UInt64
  value : UInt64
deriving DecidableEq

/-- The union: its members share the storage of the largest one. -/
abbrev R101RequestArgs := Storage 24

namespace R101RequestArgs

def rma (args : R101RequestArgs) : R101Rma where
  remoteAddress := args.uint64 0

def writeImm (args : R101RequestArgs) : R101WriteImm where
  remoteAddress := args.uint64 0
  immediate := args.uint32 8

def atomic (args : R101RequestArgs) : R101Atomic where
  remoteAddress := args.uint64 0
  compare := args.uint64 8
  value := args.uint64 16

/-- The member `rma` of a zero-initialised union. -/
def ofRma (rma : R101Rma) : R101RequestArgs :=
  Storage.zero.setUint64 0 rma.remoteAddress

def ofWriteImm (writeImm : R101WriteImm) : R101RequestArgs :=
  (Storage.zero.setUint64 0 writeImm.remoteAddress).setUint32 8 writeImm.immediate

def ofAtomic (atomic : R101Atomic) : R101RequestArgs :=
  ((Storage.zero.setUint64 0 atomic.remoteAddress).setUint64 8 atomic.compare).setUint64 16
    atomic.value

@[simp] theorem rma_ofRma (member : R101Rma) : rma (ofRma member) = member := by
  simp [rma, ofRma]

@[simp] theorem writeImm_ofWriteImm (member : R101WriteImm) :
    writeImm (ofWriteImm member) = member := by
  simp [writeImm, ofWriteImm, Storage.uint64_setUint32_of_disjoint]

@[simp] theorem atomic_ofAtomic (member : R101Atomic) : atomic (ofAtomic member) = member := by
  simp [atomic, ofAtomic, Storage.uint64_setUint64_of_disjoint]

end R101RequestArgs

structure R101Request where
  peer : UInt64
  opcode : UInt32
  flags : UInt32
  localAddress : UInt64
  length : UInt64
  args : R101RequestArgs
deriving DecidableEq

structure R101ReceiveResult where
  kind : UInt32
  immediate : UInt32
  length : UInt64
deriving DecidableEq, Repr

structure R101TransferStatus where
  state : UInt32
  error : Int32
  receive : R101ReceiveResult
deriving DecidableEq, Repr

/-! ### Python integers

Two conversions occur, and they differ: an integer that is stored in a field raises
`OverflowError` when it does not fit, and one that is cast to a pointer wraps. -/

/-- cffi stores an integer of the range unchanged and raises on any other. -/
def toUInt64 (value : Int) : Except Raised UInt64 :=
  if 0 ≤ value ∧ value < 2 ^ 64 then .ok (UInt64.ofNat value.toNat) else .error .overflowError

def toUInt32 (value : Int) : Except Raised UInt32 :=
  if 0 ≤ value ∧ value < 2 ^ 32 then .ok (UInt32.ofNat value.toNat) else .error .overflowError

/-- `ffi.cast("void *", value)` wraps around instead. -/
def castPointer (value : Int) : UInt64 := UInt64.ofNat (value % 2 ^ 64).toNat

@[simp] theorem toUInt64_toNat (value : UInt64) : toUInt64 value.toNat = .ok value := by
  simpa [toUInt64] using value.toNat_lt

@[simp] theorem toUInt32_toNat (value : UInt32) : toUInt32 value.toNat = .ok value := by
  simpa [toUInt32] using value.toNat_lt

@[simp] theorem castPointer_toNat (value : UInt64) : castPointer value.toNat = value := by
  have small : (value.toNat : Int) < 2 ^ 64 := by exact_mod_cast value.toNat_lt
  have same : (value.toNat : Int) % 2 ^ 64 = value.toNat :=
    Int.emod_eq_of_lt (Int.natCast_nonneg _) small
  rw [castPointer, same, Int.toNat_natCast, UInt64.ofNat_toNat]

/-- What fits 64 bits is the value of a 64-bit number. -/
theorem exists_uint64 {value : Int} (nonneg : 0 ≤ value) (small : value < 2 ^ 64) :
    ∃ stored : UInt64, value = stored.toNat := by
  refine ⟨UInt64.ofNat value.toNat, ?_⟩
  have bound : value.toNat < 2 ^ 64 := by omega
  rw [UInt64.toNat_ofNat_of_lt' bound, Int.toNat_of_nonneg nonneg]

theorem exists_uint32 {value : Int} (nonneg : 0 ≤ value) (small : value < 2 ^ 32) :
    ∃ stored : UInt32, value = stored.toNat := by
  refine ⟨UInt32.ofNat value.toNat, ?_⟩
  have bound : value.toNat < 2 ^ 32 := by omega
  rw [UInt32.toNat_ofNat_of_lt' bound, Int.toNat_of_nonneg nonneg]

end Abi

end Rdma101
