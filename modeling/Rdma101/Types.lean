/-
Module: Rdma101.Types
Purpose: The Python values shared by the native engine and the control plane.
Trusted boundary: human-reviewed translation of rdma101/types.py
Main exports: Bytes, Handle, ErrorCode, PeerMetadata, MemoryMetadata
-/

namespace Rdma101

abbrev Bytes := List UInt8

/-- Engine-local integer handle of a peer, a registration, an import or a batch. -/
abbrev Handle := Nat

inductive ErrorCode where
  | unimplemented
  | invalid
  | busy
  | ioError
  | timeout
  | unsupported
  | noMemory
  | invalidState
  | canceled
deriving DecidableEq, Repr

structure PeerMetadata where
  peer : Handle
  metadata : Bytes
deriving DecidableEq, Repr

structure MemoryMetadata where
  memory : Handle
  metadata : Bytes
deriving DecidableEq, Repr

end Rdma101
