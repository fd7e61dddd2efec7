/-
Module: Rdma101.Control.System
Purpose: Any number of engines that call each other's control service over a network.  Each
  engine runs one outgoing operation at a time; its RPC handlers run whenever a request
  arrives.  The network keeps every RPC ever sent with the answers its handlings produced, so
  loss, duplication, delay and overtaking are all choices of which RPC is handled or answered
  next; the disciplines below exclude some of them.
Trusted boundary: human-reviewed translation of rdma101/engine.py (connect, disconnect,
  register_local_memory, close) over rdma101/control.py
Main exports: Topology, Operation, Outcome, Rpc, Engine, System, Action, System.step,
  controlSystem
-/
import Rdma101.Control.Plane
import Rdma101.Lib.LabelledSystem
import Mathlib.Logic.Function.Basic

namespace Rdma101

open Wire ControlPlane

/-- Which node each node advertises as, and which node a dialed address reaches.  An address
may reach a node under a name other than the one it advertises. -/
structure Topology (Node : Type) where
  endpoint : Node → String
  resolve : String → Option Node
  resolve_endpoint : ∀ node, resolve (endpoint node) = some node
  endpoint_ne_empty : ∀ node, endpoint node ≠ ""

/-- No two nodes advertise one endpoint. -/
theorem Topology.endpoint_injective {Node : Type} (topology : Topology Node) {first second : Node}
    (same : topology.endpoint first = topology.endpoint second) : first = second := by
  have reached := topology.resolve_endpoint first
  rw [same, topology.resolve_endpoint, Option.some.injEq] at reached
  exact reached.symm

/-- The point an outgoing operation has reached.  `call` numbers the RPC it waits for. -/
inductive Operation where
  /-- `connect` waits for the reply to `Connect`. -/
  | offering (peer : Peer) (call : Nat)
  /-- `connect` waits for the reply to `Ready`. -/
  | updating (peer : Peer) (call : Nat)
  /-- `register_local_memory` between the native registration and `publish`. -/
  | registered (metadata : Bytes)
  /-- `publish` waits for the reply to `Changed` sent for `peer`; `rest` comes after. -/
  | notifying (metadata : Bytes) (snapshot : Snapshot) (peer : Peer) (rest : List Peer)
      (call : Nat)
  /-- `disconnect` waits for the reply to `Close`. -/
  | closing (peer : Peer) (call : Nat)
deriving DecidableEq, Repr

/-- How an operation ended; `error` holds what it raised. -/
inductive Outcome where
  | connect (endpoint : String) (result : Except PyError Handle)
  | register (result : Except PyError Unit)
  | publish (metadata : Bytes) (result : Except PyError Unit)
  | disconnect (handle : Handle) (result : Except PyError Unit)
deriving DecidableEq

/-- One remote call: who sent it to which address, and what its handlings returned or raised,
oldest first. -/
structure Rpc (Node : Type) where
  caller : Node
  endpoint : String
  request : Request
  answers : List (Except PyError Reply) := []

/-- One node: its control plane, the operation that holds the resource lock, and the history of
the operations that ended, oldest first. -/
structure Engine where
  control : ControlPlane := {}
  operation : Option Operation := none
  outcomes : List Outcome := []

structure System (Node : Type) where
  engine : Node → Engine
  rpcs : List (Rpc Node) := []

/-- One atomic step: a critical section of an operation or of a handler, or a deadline. -/
inductive Action (Node : Type) where
  | connect (node : Node) (endpoint : String) (env : Environment)
  | disconnect (node : Node) (handle : Handle) (env : Environment)
  | registerLocalMemory (node : Node) (env : Environment)
  | publish (node : Node)
  /-- The request of RPC `call` reaches its target, whose handler runs. -/
  | handle (call : Nat) (env : Environment)
  /-- The operation of `node` receives answer number `answer` of the RPC it waits for. -/
  | resume (node : Node) (answer : Nat) (env : Environment)
  /-- The operation of `node` gives up waiting. -/
  | timeout (node : Node)
  | close (node : Node)

/-- The node whose operation an action starts or goes on with. -/
def Action.actor? {Node : Type} : Action Node → Option Node
  | .connect node _ _ => some node
  | .disconnect node _ _ => some node
  | .registerLocalMemory node _ => some node
  | .publish node => some node
  | .handle _ _ => none
  | .resume node _ _ => some node
  | .timeout node => some node
  | .close node => some node

namespace Engine

/-- The operation that held the resource lock has ended. -/
def finish (engine : Engine) (control : ControlPlane) (outcome : Outcome) : Engine :=
  { control := control, operation := none, outcomes := engine.outcomes ++ [outcome] }

/-- The operation goes on and waits. -/
def proceed (engine : Engine) (control : ControlPlane) (operation : Operation) : Engine :=
  { engine with control := control, operation := some operation }

end Engine

/-- The outcome of an operation whose RPC failed. -/
def Operation.rpcFailed : Operation → Outcome
  | .offering peer _ => .connect peer.endpoint (.error .rpcError)
  | .updating peer _ => .connect peer.endpoint (.error .rpcError)
  | .registered metadata => .publish metadata (.error .rpcError)
  | .notifying metadata _ _ _ _ => .publish metadata (.error .rpcError)
  | .closing peer _ => .disconnect peer.handle (.error .rpcError)

/-- The RPC an operation waits for. -/
def Operation.call? : Operation → Option Nat
  | .offering _ call => some call
  | .updating _ call => some call
  | .registered _ => none
  | .notifying _ _ _ _ call => some call
  | .closing _ call => some call

namespace System

variable {Node : Type}

/-- Send a request; its number is the old length of the list. -/
def send (system : System Node) (caller : Node) (endpoint : String) (request : Request) :
    System Node :=
  { system with rpcs := system.rpcs ++ [{ caller := caller, endpoint := endpoint,
                                          request := request }] }

/-- Record an answer to RPC number `call`. -/
def answer (system : System Node) (call : Nat) (result : Except PyError Reply) : System Node :=
  { system with rpcs := system.rpcs.modify call fun rpc =>
      { rpc with answers := rpc.answers ++ [result] } }

@[simp] theorem send_engine (system : System Node) (caller : Node) (endpoint : String)
    (request : Request) : (system.send caller endpoint request).engine = system.engine := rfl

@[simp] theorem send_rpcs (system : System Node) (caller : Node) (endpoint : String)
    (request : Request) :
    (system.send caller endpoint request).rpcs =
      system.rpcs ++ [{ caller := caller, endpoint := endpoint, request := request }] := rfl

@[simp] theorem answer_engine (system : System Node) (call : Nat)
    (result : Except PyError Reply) : (system.answer call result).engine = system.engine := rfl

/-- The other RPCs keep their answers; this one gets one more. -/
theorem answer_getElem? (system : System Node) (call other : Nat)
    (result : Except PyError Reply) :
    (system.answer call result).rpcs[other]? =
      if other = call then
        system.rpcs[other]?.map fun rpc => { rpc with answers := rpc.answers ++ [result] }
      else system.rpcs[other]? := by
  by_cases same : call = other
  · simp [answer, same]
  · simp [answer, same, Ne.symm same]

variable [DecidableEq Node]

def setEngine (system : System Node) (node : Node) (engine : Engine) : System Node :=
  { system with engine := Function.update system.engine node engine }

theorem setEngine_engine (system : System Node) (node other : Node) (engine : Engine) :
    (system.setEngine node engine).engine other =
      if other = node then engine else system.engine other := by
  simp [setEngine, Function.update_apply]

@[simp] theorem setEngine_engine_self (system : System Node) (node : Node) (engine : Engine) :
    (system.setEngine node engine).engine node = engine := by
  simp [setEngine]

@[simp] theorem setEngine_rpcs (system : System Node) (node : Node) (engine : Engine) :
    (system.setEngine node engine).rpcs = system.rpcs := rfl

/-- The loop of `publish`: notify the first of the peers, or return when none is left. -/
def notify (topology : Topology Node) (system : System Node) (node : Node)
    (control : ControlPlane) (metadata : Bytes) (snapshot : Snapshot) :
    List Peer → System Node
  | [] =>
      system.setEngine node ((system.engine node).finish control (.publish metadata (.ok ())))
  | peer :: rest =>
      (system.setEngine node ((system.engine node).proceed control
        (.notifying metadata snapshot peer rest system.rpcs.length))).send node peer.endpoint
        (.changed { connection := connection (topology.endpoint node) peer,
                    snapshot := snapshot })

/-- `Engine.connect`, up to its first RPC. -/
def stepConnect (topology : Topology Node) (system : System Node) (node : Node)
    (endpoint : String) (env : Environment) : System Node :=
  let engine := system.engine node
  let advertised := topology.endpoint node
  match (connectOffer advertised env endpoint).run engine.control with
  | .error error control =>
      system.setEngine node (engine.finish control (.connect endpoint (.error error)))
  | .ok (.inl handle) control =>
      system.setEngine node (engine.finish control (.connect endpoint (.ok handle)))
  | .ok (.inr peer) control =>
      (system.setEngine node
        (engine.proceed control (.offering peer system.rpcs.length))).send node endpoint
        (.connect (offer advertised peer))

/-- `Engine.disconnect`, up to its RPC. -/
def stepDisconnect (topology : Topology Node) (system : System Node) (node : Node)
    (handle : Handle) (env : Environment) : System Node :=
  let engine := system.engine node
  match (disconnectDestroy env handle).run engine.control with
  | .error error control =>
      system.setEngine node (engine.finish control (.disconnect handle (.error error)))
  | .ok peer control =>
      (system.setEngine node
        (engine.proceed control (.closing peer system.rpcs.length))).send node peer.endpoint
        (.close (connection (topology.endpoint node) peer))

/-- `Engine.register_local_memory`, up to `publish`. -/
def stepRegister (system : System Node) (node : Node) (env : Environment) : System Node :=
  let engine := system.engine node
  match (registerLocalMemory env).run engine.control with
  | .error error control =>
      system.setEngine node (engine.finish control (.register (.error error)))
  | .ok registration control =>
      system.setEngine node (engine.proceed control (.registered registration.metadata))

/-- `ControlPlane.publish`, up to its first RPC. -/
def stepPublish (topology : Topology Node) (system : System Node) (node : Node)
    (metadata : Bytes) : System Node :=
  let engine := system.engine node
  match (publishAppend metadata).run engine.control with
  | .error error control =>
      system.setEngine node (engine.finish control (.publish metadata (.error error)))
  | .ok (snapshot, peers) control =>
      system.notify topology node control metadata snapshot peers

/-- Run the handler of RPC number `call` at the node its address reaches. -/
def stepHandle (topology : Topology Node) (system : System Node) (target : Node) (call : Nat)
    (request : Request) (env : Environment) : System Node :=
  let engine := system.engine target
  match (ControlServicer.serve (topology.endpoint target) env request).run engine.control with
  | .error error control =>
      (system.setEngine target { engine with control := control }).answer call (.error error)
  | .ok reply control =>
      (system.setEngine target { engine with control := control }).answer call (.ok reply)

/-- Give an operation the reply of the RPC it waits for.  A reply of another method's type
does not occur. -/
def stepResume (topology : Topology Node) (system : System Node) (node : Node)
    (operation : Operation) (reply : Reply) (env : Environment) : Option (System Node) :=
  let engine := system.engine node
  match operation, reply with
  | .offering peer _, .offer remote =>
      match (connectUpdate (topology.endpoint node) env peer remote).run engine.control with
      | .error error control =>
          some (system.setEngine node
            (engine.finish control (.connect peer.endpoint (.error error))))
      | .ok update control =>
          some ((system.setEngine node
            (engine.proceed control (.updating peer system.rpcs.length))).send node
              peer.endpoint (.ready update))
  | .updating peer _, .snapshot snapshot =>
      match (connectFinish env peer snapshot).run engine.control with
      | .error error control =>
          some (system.setEngine node
            (engine.finish control (.connect peer.endpoint (.error error))))
      | .ok handle control =>
          some (system.setEngine node
            (engine.finish control (.connect peer.endpoint (.ok handle))))
  | .notifying metadata snapshot _ rest _, .empty =>
      some (system.notify topology node engine.control metadata snapshot rest)
  | .closing peer _, .empty =>
      some (system.setEngine node
        (engine.finish engine.control (.disconnect peer.handle (.ok ()))))
  | _, _ => none

/-- An operation whose RPC failed raises. -/
def raiseRpcError (system : System Node) (node : Node) (operation : Operation) : System Node :=
  let engine := system.engine node
  system.setEngine node (engine.finish engine.control operation.rpcFailed)

def step (topology : Topology Node) (system : System Node) : Action Node → Option (System Node)
  | .connect node endpoint env =>
      if (system.engine node).operation = none then
        some (system.stepConnect topology node endpoint env)
      else none
  | .disconnect node handle env =>
      if (system.engine node).operation = none then
        some (system.stepDisconnect topology node handle env)
      else none
  | .registerLocalMemory node env =>
      if (system.engine node).operation = none then
        some (system.stepRegister node env)
      else none
  | .publish node =>
      match (system.engine node).operation with
      | some (.registered metadata) => some (system.stepPublish topology node metadata)
      | _ => none
  | .handle call env =>
      match system.rpcs[call]? with
      | none => none
      | some rpc =>
          match topology.resolve rpc.endpoint with
          | none => none
          | some target => some (system.stepHandle topology target call rpc.request env)
  | .resume node index env =>
      match (system.engine node).operation with
      | none => none
      | some operation =>
          match (operation.call?.bind fun call => system.rpcs[call]?).bind
              fun rpc => rpc.answers[index]? with
          | none => none
          | some (.error _) => some (system.raiseRpcError node operation)
          | some (.ok reply) => system.stepResume topology node operation reply env
  | .timeout node =>
      match (system.engine node).operation with
      | none => none
      | some operation =>
          if operation.call? = none then none
          else some (system.raiseRpcError node operation)
  | .close node =>
      let engine := system.engine node
      if engine.operation = none then
        some (system.setEngine node { engine with control := engine.control.close })
      else none

/-- Every engine is newly made and nothing was sent. -/
def start : System Node := { engine := fun _ => {} }

end System

/-- The control planes of all nodes as one labelled system. -/
def controlSystem {Node : Type} [DecidableEq Node] (topology : Topology Node) :
    LabelledSystem (System Node) (Action Node) where
  Initial := fun system => system = System.start
  step := System.step topology

end Rdma101
