/-
Module: Rdma101.Control.Discipline
Purpose: The disciplines that the statements put on runs, as decidable conditions on the next
  action: fresh names, native calls that succeed, advertised addresses, a reliable network,
  and which operations the applications call.
Trusted boundary: human-reviewed assumptions about runs
Main exports: System.FreshNames, Action.NativeSucceeds, System.DialsAdvertised, System.Reliable,
  System.LosesReplies, Action.KeepsOpen, Action.KeepsPeers, Action.NoDisconnect,
  System.ReturnedHandles, System.OffersTimely
-/
import Rdma101.Control.System
import Mathlib.Data.Fintype.Basic

namespace Rdma101

open Wire

/-- The environment of a step that calls no native function and draws no id. -/
def Environment.idle : Environment :=
  { createPeer := .ok ⟨0, []⟩, registerLocalMemory := .ok ⟨0, []⟩, uuid4 := "" }

/-- The environment that an action runs in. -/
def Action.environment {Node : Type} : Action Node → Environment
  | .connect _ _ env => env
  | .disconnect _ _ env => env
  | .registerLocalMemory _ env => env
  | .publish _ => .idle
  | .handle _ env => env
  | .resume _ _ env => env
  | .timeout _ => .idle
  | .close _ => .idle

/-- Every native call of the section succeeds. -/
structure Environment.Succeeds (env : Environment) : Prop where
  createPeer : env.createPeer.isOk = true
  connectPeer : env.connectPeer.isOk = true
  importFailure : env.importFailure = none
  destroyPeer : env.destroyPeer.isOk = true
  registerLocalMemory : env.registerLocalMemory.isOk = true

/-- No native call fails in the action. -/
def Action.NativeSucceeds {Node : Type} (action : Action Node) : Prop :=
  action.environment.Succeeds

/-- No engine is closed. -/
def Action.KeepsOpen {Node : Type} : Action Node → Prop
  | .close _ => False
  | _ => True

/-- No application disconnects or closes. -/
def Action.KeepsPeers {Node : Type} : Action Node → Prop
  | .close _ => False
  | .disconnect _ _ _ => False
  | _ => True

/-- No application disconnects. -/
def Action.NoDisconnect {Node : Type} : Action Node → Prop
  | .disconnect _ _ _ => False
  | _ => True

/-- A call of `connect` has returned the handle. -/
def Outcome.Returns (handle : Handle) : Outcome → Prop
  | .connect _ (.ok returned) => returned = handle
  | _ => False

namespace System

variable {Node : Type}

/-- The drawn id was drawn at no node before, and the handle that `create_peer` answers was
made at this node by no earlier call. -/
structure FreshFor (system : System Node) (node : Node) (env : Environment) : Prop where
  nonempty : env.uuid4 ≠ ""
  id : ∀ other, ∀ peer ∈ (system.engine other).control.created, peer.connectionId ≠ env.uuid4
  handle : ∀ fresh ∈ env.createPeer.toOption,
    ∀ peer ∈ (system.engine node).control.created, peer.handle ≠ fresh.peer

/-- The names that an action makes are fresh. -/
def FreshNames (topology : Topology Node) (system : System Node) : Action Node → Prop
  | .connect node _ env => system.FreshFor node env
  | .handle call env => ∀ rpc ∈ system.rpcs[call]?, ∀ target ∈ topology.resolve rpc.endpoint,
      system.FreshFor target env
  | _ => True

/-- Applications dial advertised endpoints only. -/
def DialsAdvertised (topology : Topology Node) : Action Node → Prop
  | .connect _ endpoint _ => ∃ target, endpoint = topology.endpoint target
  | _ => True

/-- Applications dial the advertised endpoints of other nodes only. -/
def DialsOthers (topology : Topology Node) : Action Node → Prop
  | .connect node endpoint _ => ∃ target, target ≠ node ∧ endpoint = topology.endpoint target
  | _ => True

/-- Every request is handled once at most, and no call runs into its deadline.  An operation
then waits until its request was handled. -/
def Reliable (system : System Node) : Action Node → Prop
  | .handle call _ => ∀ rpc ∈ system.rpcs[call]?, rpc.answers = []
  | .timeout _ => False
  | _ => True

/-- Every request is handled once at most, and a call fails at its deadline only after its request
was handled: replies get lost, requests do not. -/
def LosesReplies (system : System Node) : Action Node → Prop
  | .handle call _ => ∀ rpc ∈ system.rpcs[call]?, rpc.answers = []
  | .timeout node => ∀ operation ∈ (system.engine node).operation, ∀ call ∈ operation.call?,
      ∀ rpc ∈ system.rpcs[call]?, rpc.answers ≠ []
  | _ => True

theorem Reliable.losesReplies {system : System Node} {action : Action Node}
    (reliable : system.Reliable action) : system.LosesReplies action := by
  cases action with
  | handle => exact reliable
  | timeout => exact reliable.elim
  | _ => trivial

/-- The discipline of an undisturbed run: fresh names, native calls that succeed, advertised
addresses, a reliable network and no engine that closes. -/
structure Undisturbed (topology : Topology Node) (system : System Node) (action : Action Node) :
    Prop where
  fresh : system.FreshNames topology action
  succeeds : action.NativeSucceeds
  keepsOpen : action.KeepsOpen
  advertised : DialsAdvertised topology action
  reliable : system.Reliable action

/-- The discipline of an undisturbed run without disconnects. -/
structure Lasting (topology : Topology Node) (system : System Node) (action : Action Node) :
    Prop where
  undisturbed : system.Undisturbed topology action
  dialsOthers : DialsOthers topology action
  keepsPeers : action.KeepsPeers

/-- Some call of `connect` at the node has returned the handle. -/
def Returned (system : System Node) (node : Node) (handle : Handle) : Prop :=
  ∃ outcome ∈ (system.engine node).outcomes, outcome.Returns handle

/-- Applications call `disconnect` with handles that `connect` returned to them only. -/
def ReturnedHandles (system : System Node) : Action Node → Prop
  | .disconnect node handle _ => system.Returned node handle
  | _ => True

/-- An offer is timely: it meets an entry that has left `CREATED`, or the offered peer is still in
the table of its sender, unconnected or connected to the entry that the offer meets. -/
def TimelyOffer (system : System Node) (caller target : Node) (address : String)
    (request : Offer) : Prop :=
  (∃ peer ∈ (system.engine target).control.peers.get? request.connection.endpoint,
    peer.state ≠ .created) ∨
  ∃ offered ∈ (system.engine caller).control.peers.get? address,
    offered.connectionId = request.connection.id ∧
      (offered.state = .created ∨
        ∃ peer ∈ (system.engine target).control.peers.get? request.connection.endpoint,
          offered.remoteConnectionId = peer.connectionId)

/-- A request other than an offer is always timely. -/
def TimelyRpc (system : System Node) (target : Node) (rpc : Rpc Node) : Prop :=
  match rpc.request with
  | .connect request => system.TimelyOffer rpc.caller target rpc.endpoint request
  | _ => True

/-- The network delivers timely offers only. -/
def OffersTimely (topology : Topology Node) (system : System Node) : Action Node → Prop
  | .handle call _ => ∀ rpc ∈ system.rpcs[call]?, ∀ target ∈ topology.resolve rpc.endpoint,
      system.TimelyRpc target rpc
  | _ => True

end System

/-! ### Runs that are computed

The disciplines are decidable, so a concrete run can be checked by evaluation. -/

section Deciding

variable {Node : Type}

instance (env : Environment) : Decidable env.Succeeds :=
  decidable_of_iff (env.createPeer.isOk = true ∧ env.connectPeer.isOk = true ∧
      env.importFailure = none ∧ env.destroyPeer.isOk = true ∧
      env.registerLocalMemory.isOk = true)
    ⟨fun ⟨created, connected, imported, destroyed, registered⟩ =>
      ⟨created, connected, imported, destroyed, registered⟩,
    fun succeeds => ⟨succeeds.createPeer, succeeds.connectPeer, succeeds.importFailure,
      succeeds.destroyPeer, succeeds.registerLocalMemory⟩⟩

instance (action : Action Node) : Decidable action.NativeSucceeds :=
  inferInstanceAs (Decidable action.environment.Succeeds)

instance (action : Action Node) : Decidable action.KeepsOpen :=
  match action with
  | .close _ => isFalse id
  | .connect _ _ _ | .disconnect _ _ _ | .registerLocalMemory _ _ | .publish _ | .handle _ _
  | .resume _ _ _ | .timeout _ => isTrue trivial

instance (action : Action Node) : Decidable action.KeepsPeers :=
  match action with
  | .close _ | .disconnect _ _ _ => isFalse id
  | .connect _ _ _ | .registerLocalMemory _ _ | .publish _ | .handle _ _ | .resume _ _ _
  | .timeout _ => isTrue trivial

instance (action : Action Node) : Decidable action.NoDisconnect :=
  match action with
  | .disconnect _ _ _ => isFalse id
  | .connect _ _ _ | .registerLocalMemory _ _ | .publish _ | .handle _ _ | .resume _ _ _
  | .timeout _ | .close _ => isTrue trivial

namespace System

variable [DecidableEq Node] [Fintype Node]

instance (system : System Node) (node : Node) (env : Environment) :
    Decidable (system.FreshFor node env) :=
  decidable_of_iff (env.uuid4 ≠ "" ∧
      (∀ other, ∀ peer ∈ (system.engine other).control.created, peer.connectionId ≠ env.uuid4) ∧
      ∀ fresh ∈ env.createPeer.toOption,
        ∀ peer ∈ (system.engine node).control.created, peer.handle ≠ fresh.peer)
    ⟨fun ⟨nonempty, id, handle⟩ => ⟨nonempty, id, handle⟩,
    fun fresh => ⟨fresh.nonempty, fresh.id, fresh.handle⟩⟩

instance (topology : Topology Node) (system : System Node) (action : Action Node) :
    Decidable (system.FreshNames topology action) :=
  match action with
  | .connect node _ env => inferInstanceAs (Decidable (system.FreshFor node env))
  | .handle call env => inferInstanceAs (Decidable (∀ rpc ∈ system.rpcs[call]?,
      ∀ target ∈ topology.resolve rpc.endpoint, system.FreshFor target env))
  | .disconnect _ _ _ | .registerLocalMemory _ _ | .publish _ | .resume _ _ _ | .timeout _
  | .close _ => isTrue trivial

instance (topology : Topology Node) (action : Action Node) :
    Decidable (DialsAdvertised topology action) :=
  match action with
  | .connect _ endpoint _ =>
      inferInstanceAs (Decidable (∃ target, endpoint = topology.endpoint target))
  | .disconnect _ _ _ | .registerLocalMemory _ _ | .publish _ | .handle _ _ | .resume _ _ _
  | .timeout _ | .close _ => isTrue trivial

instance (topology : Topology Node) (action : Action Node) :
    Decidable (DialsOthers topology action) :=
  match action with
  | .connect node endpoint _ => inferInstanceAs
      (Decidable (∃ target, target ≠ node ∧ endpoint = topology.endpoint target))
  | .disconnect _ _ _ | .registerLocalMemory _ _ | .publish _ | .handle _ _ | .resume _ _ _
  | .timeout _ | .close _ => isTrue trivial

instance (system : System Node) (action : Action Node) : Decidable (system.Reliable action) :=
  match action with
  | .handle call _ => inferInstanceAs (Decidable (∀ rpc ∈ system.rpcs[call]?, rpc.answers = []))
  | .timeout _ => isFalse id
  | .connect _ _ _ | .disconnect _ _ _ | .registerLocalMemory _ _ | .publish _ | .resume _ _ _
  | .close _ => isTrue trivial

instance (system : System Node) (action : Action Node) :
    Decidable (system.LosesReplies action) :=
  match action with
  | .handle call _ => inferInstanceAs (Decidable (∀ rpc ∈ system.rpcs[call]?, rpc.answers = []))
  | .timeout node => inferInstanceAs (Decidable (∀ operation ∈ (system.engine node).operation,
      ∀ call ∈ operation.call?, ∀ rpc ∈ system.rpcs[call]?, rpc.answers ≠ []))
  | .connect _ _ _ | .disconnect _ _ _ | .registerLocalMemory _ _ | .publish _ | .resume _ _ _
  | .close _ => isTrue trivial

instance (topology : Topology Node) (system : System Node) (action : Action Node) :
    Decidable (system.Undisturbed topology action) :=
  decidable_of_iff (system.FreshNames topology action ∧ action.NativeSucceeds ∧
      action.KeepsOpen ∧ DialsAdvertised topology action ∧ system.Reliable action)
    ⟨fun ⟨fresh, succeeds, keepsOpen, advertised, reliable⟩ =>
      ⟨fresh, succeeds, keepsOpen, advertised, reliable⟩,
    fun undisturbed => ⟨undisturbed.fresh, undisturbed.succeeds, undisturbed.keepsOpen,
      undisturbed.advertised, undisturbed.reliable⟩⟩

instance (topology : Topology Node) (system : System Node) (action : Action Node) :
    Decidable (system.Lasting topology action) :=
  decidable_of_iff (system.Undisturbed topology action ∧ DialsOthers topology action ∧
      action.KeepsPeers)
    ⟨fun ⟨undisturbed, dialsOthers, keepsPeers⟩ => ⟨undisturbed, dialsOthers, keepsPeers⟩,
    fun lasting => ⟨lasting.undisturbed, lasting.dialsOthers, lasting.keepsPeers⟩⟩

instance (outcome : Outcome) (handle : Handle) : Decidable (outcome.Returns handle) :=
  match outcome with
  | .connect _ (.ok returned) => inferInstanceAs (Decidable (returned = handle))
  | .connect _ (.error _) | .register _ | .publish _ _ | .disconnect _ _ => isFalse id

instance (system : System Node) (action : Action Node) :
    Decidable (system.ReturnedHandles action) :=
  match action with
  | .disconnect node handle _ => inferInstanceAs
      (Decidable (∃ outcome ∈ (system.engine node).outcomes, outcome.Returns handle))
  | .connect _ _ _ | .registerLocalMemory _ _ | .publish _ | .handle _ _ | .resume _ _ _
  | .timeout _ | .close _ => isTrue trivial

instance (system : System Node) (caller target : Node) (address : String) (request : Offer) :
    Decidable (system.TimelyOffer caller target address request) :=
  inferInstanceAs (Decidable (_ ∨ _))

instance (system : System Node) (target : Node) (rpc : Rpc Node) :
    Decidable (system.TimelyRpc target rpc) :=
  match isRequest : rpc.request with
  | .connect request =>
      decidable_of_iff (system.TimelyOffer rpc.caller target rpc.endpoint request)
        (by rw [TimelyRpc, isRequest])
  | .ready _ | .changed _ | .close _ => isTrue (by simp [TimelyRpc, isRequest])

instance (topology : Topology Node) (system : System Node) (action : Action Node) :
    Decidable (system.OffersTimely topology action) :=
  match action with
  | .handle call _ => inferInstanceAs (Decidable (∀ rpc ∈ system.rpcs[call]?,
      ∀ target ∈ topology.resolve rpc.endpoint, system.TimelyRpc target rpc))
  | .connect _ _ _ | .disconnect _ _ _ | .registerLocalMemory _ _ | .publish _ | .resume _ _ _
  | .timeout _ | .close _ => isTrue trivial

end System

end Deciding

/-- Two nodes that advertise `alpha` and `beta`. -/
def Topology.pair : Topology Bool where
  endpoint := fun node => if node then "beta" else "alpha"
  resolve := fun address =>
    if address = "alpha" then some false else if address = "beta" then some true else none
  resolve_endpoint := by decide
  endpoint_ne_empty := by decide

/-- Every native call succeeds; what it makes is named by a number and by a letter. -/
def Environment.naming (handle : Handle) (uuid : String) : Environment :=
  { createPeer := .ok ⟨handle, [handle.toUInt8]⟩
    registerLocalMemory := .ok ⟨handle, [handle.toUInt8]⟩
    uuid4 := uuid }

/-- `alpha` connects to `beta` and then registers a memory. -/
def connectAndRegister : List (Action Bool) :=
  [.connect false "beta" (.naming 1 "a1"), .handle 0 (.naming 1 "b1"), .resume false 0 .idle,
    .handle 1 (.naming 2 "b2"), .resume false 0 .idle, .registerLocalMemory false (.naming 7 ""),
    .publish false, .handle 2 (.naming 2 "b2"), .resume false 0 .idle]

/-- `alpha` connects to `beta` and then disconnects, up to its Close. -/
def connectAndDisconnect : List (Action Bool) :=
  connectAndRegister.take 5 ++ [.disconnect false 1 .idle]

end Rdma101
