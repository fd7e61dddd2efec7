/-
Module: Rdma101.Control.View
Purpose: What two nodes look like as the two parties of a session: the entries of their tables for
  each other, the operations they run towards each other with the answers these were given, and
  their registrations.
Trusted boundary: none
Main exports: Peer.link, Operation.callTo, Engine.sideTo, System.view, Authentic.sideTo_append
-/
import Rdma101.Control.Smooth
import Rdma101.Control.Waiting
import Rdma101.Session.Calm

namespace Rdma101

open Wire ControlPlane

/-- An entry of the table, as one end of a connection. -/
def Peer.link (peer : Peer) : Session.Link String where
  id := peer.connectionId
  remote := if peer.state = .created then none else some peer.remoteConnectionId
  ready := peer.state = .ready
  version := peer.remoteVersion.toNat

/-- How far an RPC has come, given how its reply is read. -/
def statusOf {Answer : Type} (read : Reply → Option Answer) :
    List (Except PyError Reply) → Session.Status Answer
  | [] => .sent
  | .error _ :: _ => .failed
  | .ok reply :: _ =>
      match read reply with
      | some answer => .answered answer
      | none => .failed

namespace Wire

def Reply.offeredId? : Reply → Option String
  | .offer reply => some reply.connection.id
  | _ => none

def Reply.version? : Reply → Option Nat
  | .snapshot reply => some reply.version
  | _ => none

def Reply.empty? : Reply → Option Unit
  | .empty => some ()
  | _ => none

/-- The version of the snapshot that a request carries. -/
def Request.version : Request → Nat
  | .ready update => update.snapshot.version
  | .changed update => update.snapshot.version
  | _ => 0

end Wire

/-- Whom of the peers that are still to be notified the loop of `publish` has for an endpoint. -/
def pendingTurn (peers : List Peer) (endpoint : String) : Session.Turn String :=
  match peers.find? fun peer => peer.endpoint = endpoint with
  | some peer => .pending peer.connectionId
  | none => .past

theorem pendingTurn_cons (peer : Peer) (rest : List Peer) (endpoint : String) :
    pendingTurn (peer :: rest) endpoint =
      if peer.endpoint = endpoint then .pending peer.connectionId
      else pendingTurn rest endpoint := by
  by_cases here : peer.endpoint = endpoint <;> simp [pendingTurn, here]

variable {Node : Type}

/-- What has been sent and answered in RPC number `call`. -/
def answersOf (rpcs : List (Rpc Node)) (call : Nat) : List (Except PyError Reply) :=
  match rpcs[call]? with
  | some rpc => rpc.answers
  | none => []

def sentVersion (rpcs : List (Rpc Node)) (call : Nat) : Nat :=
  match rpcs[call]? with
  | some rpc => rpc.request.version
  | none => 0

/-- An operation, as a call to the node of an endpoint. -/
def Operation.callTo (rpcs : List (Rpc Node)) (endpoint : String) :
    Operation → Option (Session.Call String Bytes)
  | .offering peer call =>
      if peer.endpoint = endpoint then
        some (.offering peer.connectionId (statusOf Reply.offeredId? (answersOf rpcs call)))
      else none
  | .updating peer call =>
      if peer.endpoint = endpoint then
        some (.updating peer.connectionId (sentVersion rpcs call)
          (statusOf Reply.version? (answersOf rpcs call)))
      else none
  | .registered _ => none
  | .notifying metadata snapshot peer rest call =>
      some (.notifying metadata snapshot.version
        (if peer.endpoint = endpoint then
          .told peer.connectionId (statusOf Reply.empty? (answersOf rpcs call))
        else pendingTurn rest endpoint))
  | .closing peer call =>
      if peer.endpoint = endpoint then
        some (.closing peer.connectionId (statusOf Reply.empty? (answersOf rpcs call)))
      else none

@[simp] theorem answersOf_append (rpcs : List (Rpc Node)) (rpc : Rpc Node) :
    answersOf (rpcs ++ [rpc]) rpcs.length = rpc.answers := by
  simp [answersOf]

@[simp] theorem sentVersion_append (rpcs : List (Rpc Node)) (rpc : Rpc Node) :
    sentVersion (rpcs ++ [rpc]) rpcs.length = rpc.request.version := by
  simp [sentVersion]

/-- The endpoint that the RPC of an operation goes to. -/
def Operation.target? : Operation → Option String
  | .offering peer _ => some peer.endpoint
  | .updating peer _ => some peer.endpoint
  | .registered _ => none
  | .notifying _ _ peer _ _ => some peer.endpoint
  | .closing peer _ => some peer.endpoint

/-- The entry of a table for an endpoint, as a link. -/
def ControlPlane.linkTo (control : ControlPlane) (endpoint : String) :
    Option (Session.Link String) :=
  (control.peers.get? endpoint).map Peer.link

/-- The ids of the peers that were made for an endpoint. -/
def ControlPlane.madeFor (control : ControlPlane) (endpoint : String) : Set String :=
  {id | ∃ peer ∈ control.created, peer.endpoint = endpoint ∧ peer.connectionId = id}

/-- The metadata whose publication returned. -/
def returnedIn (outcomes : List Outcome) : Set Bytes :=
  {metadata | .publish metadata (.ok ()) ∈ outcomes}

/-- A node, as a party to the node of an endpoint. -/
def Engine.sideTo (engine : Engine) (rpcs : List (Rpc Node)) (endpoint : String) :
    Session.Side String Bytes where
  link := engine.control.linkTo endpoint
  call := engine.operation.bind (Operation.callTo rpcs endpoint)
  memories := engine.control.memoryMetadata
  returned := returnedIn engine.outcomes
  made := engine.control.madeFor endpoint

theorem Engine.sideTo_idle {engine : Engine} (idle : engine.operation = none)
    (rpcs : List (Rpc Node)) (endpoint : String) :
    engine.sideTo rpcs endpoint =
      { link := engine.control.linkTo endpoint, memories := engine.control.memoryMetadata,
        returned := returnedIn engine.outcomes, made := engine.control.madeFor endpoint } := by
  simp [sideTo, idle]

theorem Engine.sideTo_running {engine : Engine} {operation : Operation}
    (running : engine.operation = some operation) (rpcs : List (Rpc Node)) (endpoint : String) :
    engine.sideTo rpcs endpoint =
      { link := engine.control.linkTo endpoint, call := operation.callTo rpcs endpoint,
        memories := engine.control.memoryMetadata, returned := returnedIn engine.outcomes,
        made := engine.control.madeFor endpoint } := by
  simp [sideTo, running]

/-- The side of a node whose operation has ended. -/
@[simp] theorem Engine.sideTo_finish (engine : Engine) (control : ControlPlane)
    (outcome : Outcome) (rpcs : List (Rpc Node)) (endpoint : String) :
    (engine.finish control outcome).sideTo rpcs endpoint =
      { link := control.linkTo endpoint, memories := control.memoryMetadata,
        returned := returnedIn (engine.outcomes ++ [outcome]), made := control.madeFor endpoint } :=
  rfl

/-- The side of a node whose operation goes on. -/
@[simp] theorem Engine.sideTo_proceed (engine : Engine) (control : ControlPlane)
    (operation : Operation) (rpcs : List (Rpc Node)) (endpoint : String) :
    (engine.proceed control operation).sideTo rpcs endpoint =
      { link := control.linkTo endpoint, call := operation.callTo rpcs endpoint,
        memories := control.memoryMetadata, returned := returnedIn engine.outcomes,
        made := control.madeFor endpoint } :=
  rfl

namespace System

/-- Two nodes, as the two parties of a session. -/
def view (topology : Topology Node) (system : System Node) (node other : Node) :
    Session String Bytes where
  near := (system.engine node).sideTo system.rpcs (topology.endpoint other)
  far := (system.engine other).sideTo system.rpcs (topology.endpoint node)

end System

theorem ControlPlane.linkTo_of_get? {control : ControlPlane} {endpoint : String} {peer : Peer}
    (held : control.peers.get? endpoint = some peer) :
    control.linkTo endpoint = some peer.link := by
  rw [linkTo, held, Option.map_some]

/-- A link comes from the entry with its id. -/
theorem ControlPlane.get?_of_linkTo {control : ControlPlane} {endpoint : String}
    {link : Session.Link String} (held : control.linkTo endpoint = some link) :
    ∃ peer, control.peers.get? endpoint = some peer ∧ peer.link = link :=
  Option.map_eq_some_iff.mp held

namespace ControlPlane.Rewrites

variable {before after : ControlPlane} {endpoint : String} {entry : Option Peer}
  {made : List Peer}

theorem linkTo (rewrites : Rewrites before after endpoint entry made) (key : String) :
    after.linkTo key = if key = endpoint then entry.map Peer.link else before.linkTo key := by
  rw [ControlPlane.linkTo, rewrites.peers]
  by_cases here : key = endpoint <;> simp [here, ControlPlane.linkTo]

theorem madeFor (rewrites : Rewrites before after endpoint entry []) (key : String) :
    after.madeFor key = before.madeFor key := by
  simp [ControlPlane.madeFor, rewrites.created]

theorem madeFor_single {peer : Peer} (rewrites : Rewrites before after endpoint entry [peer])
    (key : String) :
    after.madeFor key =
      if key = peer.endpoint then insert peer.connectionId (before.madeFor key)
      else before.madeFor key := by
  ext id
  by_cases here : key = peer.endpoint
  · subst here
    simp only [ControlPlane.madeFor, rewrites.created, List.mem_append, List.mem_singleton,
      Set.mem_ofPred_eq, if_true, Set.mem_insert_iff]
    grind
  · simp only [ControlPlane.madeFor, rewrites.created, List.mem_append, List.mem_singleton,
      Set.mem_ofPred_eq, if_neg here]
    grind

/-- Peers that are made for one endpoint are none of another. -/
theorem madeFor_other (rewrites : Rewrites before after endpoint entry made)
    (madeHere : ∀ peer ∈ made, peer.endpoint = endpoint) {key : String}
    (elsewhere : key ≠ endpoint) : after.madeFor key = before.madeFor key := by
  ext id
  simp only [ControlPlane.madeFor, rewrites.created, List.mem_append, Set.mem_ofPred_eq]
  grind

end ControlPlane.Rewrites

theorem returnedIn_published (outcomes : List Outcome) (metadata : Bytes) :
    returnedIn (outcomes ++ [.publish metadata (.ok ())]) =
      insert metadata (returnedIn outcomes) := by
  ext other
  simp only [returnedIn, List.mem_append, List.mem_singleton, Outcome.publish.injEq, and_true,
    Set.mem_ofPred_eq, Set.mem_insert_iff]
  tauto

theorem returnedIn_append (outcomes : List Outcome) {outcome : Outcome}
    (unpublished : ∀ metadata, outcome ≠ .publish metadata (.ok ())) :
    returnedIn (outcomes ++ [outcome]) = returnedIn outcomes := by
  ext other
  simp only [returnedIn, List.mem_append, List.mem_singleton, Set.mem_ofPred_eq]
  exact or_iff_left (unpublished other).symm

/-! ### What a side does not depend on

A side of a session shows one entry, one operation and the answers to its calls.  Steps that
touch none of these leave it as it is. -/

/-- A side depends on the RPC of its operation only when that goes to the endpoint. -/
theorem Operation.callTo_congr {operation : Operation} {rpcs later : List (Rpc Node)}
    {endpoint : String}
    (same : ∀ call, operation.call? = some call → operation.target? = some endpoint →
      later[call]? = rpcs[call]?) :
    operation.callTo later endpoint = operation.callTo rpcs endpoint := by
  cases operation with
  | registered => rfl
  | offering peer call | updating peer call | closing peer call | notifying _ _ peer _ call =>
      simp only [callTo]
      by_cases here : peer.endpoint = endpoint
      · have unchanged := same call rfl (by simp [target?, here])
        simp [answersOf, sentVersion, unchanged]
      · simp [here]

theorem Engine.sideTo_congr {engine : Engine} {rpcs later : List (Rpc Node)} {endpoint : String}
    (same : ∀ operation call, engine.operation = some operation → operation.call? = some call →
      operation.target? = some endpoint → later[call]? = rpcs[call]?) :
    engine.sideTo later endpoint = engine.sideTo rpcs endpoint := by
  have sameCall : engine.operation.bind (Operation.callTo later endpoint) =
      engine.operation.bind (Operation.callTo rpcs endpoint) := by
    cases isOperation : engine.operation with
    | none => rfl
    | some operation => exact Operation.callTo_congr fun call => same operation call isOperation
  simp [sideTo, sameCall]

variable {topology : Topology Node} {system : System Node}

/-- The RPC that an operation waits for was sent, by its node and to its target. -/
theorem OperationOf.sent {node : Node} {operation : Operation}
    (authentic : OperationOf topology system node operation) {call : Nat}
    (isCall : operation.call? = some call) :
    ∃ rpc, system.rpcs[call]? = some rpc ∧ rpc.caller = node ∧
      operation.target? = some rpc.endpoint := by
  cases operation with
  | registered => simp [Operation.call?] at isCall
  | offering peer number =>
      obtain rfl : number = call := by simpa [Operation.call?] using isCall
      obtain ⟨_, rpc, found, isCaller, isEndpoint, _⟩ := authentic
      exact ⟨rpc, found, isCaller, by simp [Operation.target?, isEndpoint]⟩
  | updating peer number =>
      obtain rfl : number = call := by simpa [Operation.call?] using isCall
      obtain ⟨_, ⟨_, rpc, found, isCaller, isEndpoint, _⟩, _⟩ := authentic
      exact ⟨rpc, found, isCaller, by simp [Operation.target?, isEndpoint]⟩
  | notifying metadata snapshot peer rest number =>
      obtain rfl : number = call := by simpa [Operation.call?] using isCall
      obtain ⟨_, _, rpc, found, isCaller, isEndpoint, _⟩ := authentic
      exact ⟨rpc, found, isCaller, by simp [Operation.target?, isEndpoint]⟩
  | closing peer number =>
      obtain rfl : number = call := by simpa [Operation.call?] using isCall
      obtain ⟨_, ⟨rpc, found, isCaller, isEndpoint, _⟩, _⟩ := authentic
      exact ⟨rpc, found, isCaller, by simp [Operation.target?, isEndpoint]⟩

/-- Requests that are sent later do not matter to a side. -/
theorem Authentic.sideTo_append (authentic : Authentic topology system) (node : Node)
    (more : List (Rpc Node)) (endpoint : String) :
    (system.engine node).sideTo (system.rpcs ++ more) endpoint =
      (system.engine node).sideTo system.rpcs endpoint := by
  apply Engine.sideTo_congr
  intro operation call isOperation isCall _
  obtain ⟨rpc, found, _⟩ := (authentic.operations node operation isOperation).sent isCall
  rw [List.getElem?_append_left (List.getElem?_eq_some_iff.mp found).1]

end Rdma101
