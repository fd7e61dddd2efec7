/-
Module: Rdma101.Abi.Values
Purpose: The transfer descriptors and the task statuses, once as the application of the Python
  package sees them, with unbounded integers, and once as the C++ and the Rust engine see them,
  with fixed-width ones; the exceptions of the native adapter.
Trusted boundary: human-reviewed translation of rdma101/types.py, cpp/engine.hpp and
  rust/src/engine.rs
Main exports: Raised, Operation, OperationType, Request, ReceiveResult, TransferStatus,
  Native.Operation, Native.Request, Native.TransferStatus, Cpp.ResultCode, Rust.Error
-/
import Rdma101.Types

namespace Rdma101.Abi

/-- The exceptions that leave a method of `NativeEngine`. -/
inductive Raised where
  | valueError (message : String)
  /-- cffi refuses an integer that does not fit its C type. -/
  | overflowError
  | keyError
  | runtimeError (message : String)
  | engineError (operation : String) (code : ErrorCode)
deriving DecidableEq, Repr

/-! ### The values of the Python package

Integers are unbounded here; that they fit is checked only when they are stored in a C field. -/

inductive Operation where
  | write (remoteAddress : Int) (inlineData : Bool := false)
  | read (remoteAddress : Int)
  | send (inlineData : Bool := false)
  | recv
  | writeImm (remoteAddress immediate : Int) (inlineData : Bool := false)
  | compareSwap (remoteAddress compare value : Int)
  | fetchAdd (remoteAddress value : Int)
deriving DecidableEq, Repr

/-- `type(operation)`. -/
inductive OperationType where
  | write
  | read
  | send
  | recv
  | writeImm
  | compareSwap
  | fetchAdd
deriving DecidableEq, Repr

def Operation.type : Operation → OperationType
  | .write _ _ => .write
  | .read _ => .read
  | .send _ => .send
  | .recv => .recv
  | .writeImm _ _ _ => .writeImm
  | .compareSwap _ _ _ => .compareSwap
  | .fetchAdd _ _ => .fetchAdd

/-- `getattr(operation, "inline_data", False)`. -/
def Operation.inlineData : Operation → Bool
  | .write _ inlineData => inlineData
  | .send inlineData => inlineData
  | .writeImm _ _ inlineData => inlineData
  | .read _ | .recv | .compareSwap _ _ _ | .fetchAdd _ _ => false

/-- A transfer descriptor. -/
structure Request where
  peer : Int
  localAddress : Int
  length : Int
  operation : Operation
deriving DecidableEq, Repr

inductive ReceiveResult where
  | message (length : Int)
  | writeNotice (immediate : Int)
deriving DecidableEq, Repr

inductive TransferStatus where
  | pending
  | completed (receive : Option ReceiveResult := none)
  | failed (error : ErrorCode)
deriving DecidableEq, Repr

/-! ### The values of the C++ and the Rust engine -/

namespace Native

inductive Operation where
  | write (remoteAddress : UInt64) (inlineData : Bool)
  | read (remoteAddress : UInt64)
  | send (inlineData : Bool)
  | recv
  | writeImm (remoteAddress : UInt64) (immediate : UInt32) (inlineData : Bool)
  | compareSwap (remoteAddress compare value : UInt64)
  | fetchAdd (remoteAddress value : UInt64)
deriving DecidableEq, Repr

structure Request where
  peer : UInt64
  localAddress : UInt64
  length : UInt64
  operation : Operation
deriving DecidableEq, Repr

inductive ReceiveResult where
  | message (length : UInt64)
  | writeNotice (immediate : UInt32)
deriving DecidableEq, Repr

/-- `ε` is `ResultCode` in C++ and `Error` in Rust. -/
inductive TransferStatus (ε : Type) where
  | pending
  | completed (receive : Option ReceiveResult)
  | failed (error : ε)
deriving DecidableEq, Repr

end Native

/-- The result codes of C++, where success is one of them. -/
inductive Cpp.ResultCode where
  | ok
  | unimplemented
  | invalid
  | busy
  | ioError
  | timeout
  | unsupported
  | noMemory
  | invalidState
  | canceled
deriving DecidableEq, Repr

/-- The errors of Rust, where success is the other branch of a `Result`. -/
inductive Rust.Error where
  | unimplemented
  | invalid
  | busy
  | io
  | timeout
  | unsupported
  | noMemory
  | invalidState
  | canceled
deriving DecidableEq, Repr

/-! ### The Python value with the same content as a native one

Codes are matched by their names, so that a codec that confuses two of them cannot be correct. -/

def Native.Operation.toPython : Native.Operation → Abi.Operation
  | .write remoteAddress inlineData => .write remoteAddress.toNat inlineData
  | .read remoteAddress => .read remoteAddress.toNat
  | .send inlineData => .send inlineData
  | .recv => .recv
  | .writeImm remoteAddress immediate inlineData =>
      .writeImm remoteAddress.toNat immediate.toNat inlineData
  | .compareSwap remoteAddress compare value =>
      .compareSwap remoteAddress.toNat compare.toNat value.toNat
  | .fetchAdd remoteAddress value => .fetchAdd remoteAddress.toNat value.toNat

def Native.Request.toPython (request : Native.Request) : Abi.Request where
  peer := request.peer.toNat
  localAddress := request.localAddress.toNat
  length := request.length.toNat
  operation := request.operation.toPython

def Native.ReceiveResult.toPython : Native.ReceiveResult → Abi.ReceiveResult
  | .message length => .message length.toNat
  | .writeNotice immediate => .writeNotice immediate.toNat

/-- The code of the same name; success is not an error. -/
def Cpp.ResultCode.errorCode? : Cpp.ResultCode → Option ErrorCode
  | .ok => none
  | .unimplemented => some .unimplemented
  | .invalid => some .invalid
  | .busy => some .busy
  | .ioError => some .ioError
  | .timeout => some .timeout
  | .unsupported => some .unsupported
  | .noMemory => some .noMemory
  | .invalidState => some .invalidState
  | .canceled => some .canceled

def Rust.Error.errorCode : Rust.Error → ErrorCode
  | .unimplemented => .unimplemented
  | .invalid => .invalid
  | .busy => .busy
  | .io => .ioError
  | .timeout => .timeout
  | .unsupported => .unsupported
  | .noMemory => .noMemory
  | .invalidState => .invalidState
  | .canceled => .canceled

/-- The Python status with the same content, if the error is one. -/
def Native.TransferStatus.toPython? {ε : Type} (errorCode? : ε → Option ErrorCode) :
    Native.TransferStatus ε → Option Abi.TransferStatus
  | .pending => some .pending
  | .completed receive => some (.completed (receive.map Native.ReceiveResult.toPython))
  | .failed error => (errorCode? error).map .failed

end Rdma101.Abi
