/-
Module: Rdma101.Control.Wire
Purpose: The messages of the control service and the requests and replies of its four RPCs.
Trusted boundary: human-reviewed translation of rdma101/control.proto
Main exports: Connection, Snapshot, Offer, Update, Request, Reply
-/
import Rdma101.Types

namespace Rdma101.Wire

/-- The sender's advertised endpoint and unique id for a connection.  A field that a sender
leaves out has its protobuf default. -/
structure Connection where
  endpoint : String := ""
  id : String := ""
deriving DecidableEq, Repr

structure Snapshot where
  version : Nat := 0
  memories : List Bytes := []
deriving DecidableEq, Repr

structure Offer where
  connection : Connection := {}
  metadata : Bytes := []
deriving DecidableEq, Repr

structure Update where
  connection : Connection := {}
  snapshot : Snapshot := {}
deriving DecidableEq, Repr

/-- The argument of a call of `service Control`, tagged with the method. -/
inductive Request where
  | connect (offer : Offer)
  | ready (update : Update)
  | changed (update : Update)
  | close (connection : Connection)
deriving DecidableEq, Repr

/-- What a method returns: `Connect` an offer, `Ready` a snapshot, the others nothing. -/
inductive Reply where
  | offer (offer : Offer)
  | snapshot (snapshot : Snapshot)
  | empty
deriving DecidableEq, Repr

end Rdma101.Wire
